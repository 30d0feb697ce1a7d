import Conformance.Proofs.Machine.Recorded
import Conformance.Proofs.Registry
import Conformance.Proofs.Report
import Conformance.Suite.Step

/-!
# Following an action of a session

An operation of a session is a sequence of small actions, and it is followed from action to action:
`Ends` says what an action returns and which session it leaves, and `ends_bind` puts two of them
together.

Most actions are taken `Aside`: they leave stage, registry and server alone, and do nothing to a process
but read its output. The few that move the registry have a rule each that says what they can do.
-/

namespace Conformance

variable {σ α β : Type}

/-- What an action returns. -/
def Run.value (act : Run σ α) (s : Session σ) : α := (StateT.run act s : α × Session σ).1

/-- The session that an action leaves. -/
def Run.after (act : Run σ α) (s : Session σ) : Session σ :=
  (StateT.run act s : α × Session σ).2

/-- A process as the registry tracks it under a role. -/
def Spawned.entry (spawned : Spawned) (role : Role) : Tracked := ⟨spawned.id, role, spawned.process⟩

namespace Session

/-! ## Results -/

variable {s s' : Session σ}

/-- What an action returns and the session that it leaves are as described. -/
def Ends (act : Run σ α) (s : Session σ) (post : α → Session σ → Prop) : Prop :=
  post (act.value s) (act.after s)

theorem ends_bind {act : Run σ α} {next : α → Run σ β} {mid : α → Session σ → Prop}
    {post : β → Session σ → Prop} (hact : Ends act s mid)
    (hnext : ∀ a s', mid a s' → Ends (next a) s' post) : Ends (act >>= next) s post :=
  hnext _ _ hact

theorem ends_mono {act : Run σ α} {post post' : α → Session σ → Prop} (h : Ends act s post)
    (hpost : ∀ a s', post a s' → post' a s') : Ends act s post' :=
  hpost _ _ h

theorem ends_step {act : Run σ α} {next : α → Run σ β} {post : β → Session σ → Prop}
    (hnext : Ends (next (act.value s)) (act.after s) post) : Ends (act >>= next) s post :=
  hnext

theorem ends_get {next : Session σ → Run σ β} {post : β → Session σ → Prop}
    (hnext : Ends (next s) s post) : Ends (get >>= next) s post :=
  hnext

theorem ends_pure (a : α) {post : α → Session σ → Prop} (h : post a s) :
    Ends (pure a : Run σ α) s post :=
  h

/-- What is no error is a result. -/
theorem exists_eq_ok_of_toBool {ε : Type} {result : Except ε α} (h : result.toBool = true) :
    ∃ a, result = .ok a := by
  cases result with
  | ok a => exact ⟨a, rfl⟩
  | error e => exact nomatch h

/-! ## Actions that keep to themselves -/

variable [Machine σ]

/-- An action that leaves stage, registry and server as they are and does nothing to a process but receive
    its output, wherever it is taken. -/
structure Aside (act : Run σ α) : Prop where
  stage (s : Session σ) : (act.after s).stage = s.stage
  registry (s : Session σ) : (act.after s).registry = s.registry
  server (s : Session σ) : (act.after s).server = s.server
  machine (s : Session σ) : Machine.Undisturbed s.machine (act.after s).machine

theorem aside_pure (a : α) : Aside (pure a : Run σ α) :=
  ⟨fun _ => rfl, fun _ => rfl, fun _ => rfl, fun _ => .refl⟩

theorem aside_get : Aside (get : Run σ (Session σ)) :=
  ⟨fun _ => rfl, fun _ => rfl, fun _ => rfl, fun _ => .refl⟩

theorem aside_bind {act : Run σ α} {next : α → Run σ β} (hact : Aside act)
    (hnext : ∀ a, Aside (next a)) : Aside (act >>= next) where
  stage s := ((hnext (act.value s)).stage (act.after s)).trans (hact.stage s)
  registry s := ((hnext (act.value s)).registry (act.after s)).trans (hact.registry s)
  server s := ((hnext (act.value s)).server (act.after s)).trans (hact.server s)
  machine s := (hact.machine s).trans ((hnext (act.value s)).machine (act.after s))

/-- Such an action may be taken in front of anything. -/
theorem ends_aside {act : Run σ α} {next : α → Run σ β} {post : β → Session σ → Prop}
    (hact : Aside act)
    (hnext : ∀ a s', a = act.value s → s'.registry = s.registry → s'.server = s.server →
      Machine.Undisturbed s.machine s'.machine → Ends (next a) s' post) :
    Ends (act >>= next) s post :=
  hnext _ _ rfl (hact.registry s) (hact.server s) (hact.machine s)

theorem aside_print (block : ReportStyle → String) : Aside (print block : Run σ Unit) :=
  ⟨fun _ => rfl, fun _ => rfl, fun _ => rfl, fun _ => .refl⟩

theorem aside_note (text : String) : Aside (note text : Run σ Unit) := aside_print _

theorem aside_begin (title : String) : Aside (begin title : Run σ Unit) :=
  ⟨fun _ => rfl, fun _ => rfl, fun _ => rfl, fun _ => .refl⟩

theorem aside_record (outcome : Outcome) : Aside (record outcome : Run σ Unit) :=
  ⟨fun _ => rfl, fun _ => rfl, fun _ => rfl, fun _ => .refl⟩

theorem aside_recordAll (outcomes : List Outcome) : Aside (recordAll outcomes : Run σ Unit) := by
  induction outcomes with
  | nil => exact aside_pure ()
  | cons outcome rest ih => exact aside_bind (aside_record outcome) fun _ => ih

theorem aside_recordVerdict (outcome : Outcome) : Aside (recordVerdict outcome : Run σ Bool) :=
  aside_bind (aside_record outcome) fun _ => aside_pure _

theorem aside_readLine (spawned : Spawned) : Aside (readLine spawned : Run σ _) :=
  ⟨fun _ => rfl, fun _ => rfl, fun _ => rfl, fun s => .fill spawned s.registry.readMillis s.machine⟩

theorem aside_readLines (count : Nat) (spawned : Spawned) :
    Aside (readLines count spawned : Run σ _) :=
  ⟨fun _ => rfl, fun _ => rfl, fun _ => rfl,
    fun s => .readLines count s.registry.readMillis spawned s.machine⟩

theorem aside_peekLine (spawned : Spawned) : Aside (peekLine spawned : Run σ _) :=
  ⟨fun _ => rfl, fun _ => rfl, fun _ => rfl, fun s => .fill spawned s.registry.readMillis s.machine⟩

/-! ## Reading leaves the handle as it is -/

theorem entry_fill (spawned : Spawned) (role : Role) (millis : Nat) (machine : σ) :
    (spawned.fill millis machine).1.entry role = spawned.entry role := by
  rw [Spawned.fill]
  split <;> rfl

theorem entry_readLine (spawned : Spawned) (role : Role) (s : Session σ) :
    ((readLine spawned).value s).2.entry role = spawned.entry role :=
  entry_fill spawned role s.registry.readMillis s.machine

theorem entry_peekLine (spawned : Spawned) (role : Role) (s : Session σ) :
    ((peekLine spawned).value s).2.entry role = spawned.entry role :=
  entry_fill spawned role s.registry.readMillis s.machine

theorem entry_readLines_machine (count millis : Nat) (spawned : Spawned) (role : Role)
    (machine : σ) :
    (Spawned.readLines count millis spawned machine).2.1.entry role = spawned.entry role := by
  induction count generalizing spawned machine with
  | zero => rfl
  | succ n ih => exact (ih _ _).trans (entry_fill spawned role millis machine)

theorem entry_readLines (count : Nat) (spawned : Spawned) (role : Role) (s : Session σ) :
    ((readLines count spawned).value s).2.entry role = spawned.entry role :=
  entry_readLines_machine count s.registry.readMillis spawned role s.machine

/-- A server is ready if the line that is looked at says so. -/
theorem value_checkReady (spawned : Spawned) (s : Session σ) :
    (checkReady spawned).value s =
      (decide (((peekLine spawned).value s).1.actual = waitingLine),
        ((peekLine spawned).value s).2) := by
  show Run.value (if ((peekLine spawned).value s).1.actual = waitingLine then _ else _) _ = _
  by_cases h : ((peekLine spawned).value s).1.actual = waitingLine
  · rw [if_pos h, decide_eq_true h]
    rfl
  · rw [if_neg h, decide_eq_false h]
    rfl

theorem entry_checkReady (spawned : Spawned) (role : Role) (s : Session σ) :
    ((checkReady spawned).value s).2.entry role = spawned.entry role := by
  rw [value_checkReady]
  exact entry_peekLine spawned role s

theorem entry_readConnection (server : Spawned) (role : Role) (s : Session σ) :
    ((readConnection server).value s).2.entry role = server.entry role :=
  (entry_readLine _ role _).trans (entry_readLine server role s)

theorem entry_readConnections (count : Nat) (server : Spawned) (role : Role) (s : Session σ) :
    ((readConnections count server).value s).2.entry role = server.entry role := by
  induction count generalizing server s with
  | zero => rfl
  | succ n ih => exact (ih _ _).trans (entry_readConnection server role s)

theorem aside_checkReady (spawned : Spawned) : Aside (checkReady spawned : Run σ _) := by
  refine aside_bind (aside_peekLine spawned) fun ⟨ready, spawned⟩ => ?_
  dsimp only
  split
  · exact aside_pure _
  · exact aside_bind (aside_record _) fun _ => aside_pure _

theorem aside_readConnection (server : Spawned) : Aside (readConnection server : Run σ _) :=
  aside_bind (aside_readLine server) fun ⟨_, server⟩ =>
    aside_bind (aside_readLine server) fun ⟨_, _⟩ => aside_pure _

theorem aside_readConnections (count : Nat) (server : Spawned) :
    Aside (readConnections count server : Run σ _) := by
  induction count generalizing server with
  | zero => exact aside_pure _
  | succ n ih =>
      exact aside_bind (aside_readConnection server) fun ⟨_, server⟩ =>
        aside_bind (ih server) fun ⟨_, _⟩ => aside_pure _

theorem aside_setFiles (files : FileSystem) : Aside (setFiles files : Run σ Unit) :=
  ⟨fun _ => rfl, fun _ => rfl, fun _ => rfl, fun _ => .withFiles .refl files⟩

theorem aside_changeFiles (change : FileSystem → α × FileSystem) :
    Aside (changeFiles change : Run σ α) :=
  aside_bind aside_get fun _ => aside_bind (aside_setFiles _) fun _ => aside_pure _

/-! ## Checks of files -/

theorem aside_checkFetched (source : Path) (user : String) :
    Aside (checkFetched source user : Run σ Bool) :=
  aside_bind aside_get fun _ => aside_bind (aside_changeFiles _) fun _ => aside_recordVerdict _

theorem aside_checkList (file : Path) (expected : List String) (order : ListOrder) :
    Aside (checkList file expected order : Run σ Bool) :=
  aside_bind aside_get fun _ => aside_bind (aside_changeFiles _) fun _ => aside_recordVerdict _

theorem aside_checkSize (file : Path) (expected : Nat) :
    Aside (checkSize file expected : Run σ Bool) :=
  aside_bind aside_get fun _ => aside_bind aside_get fun _ => aside_recordVerdict _

theorem aside_checkExistence (file : Path) (shouldExist : Bool) :
    Aside (checkExistence file shouldExist : Run σ Bool) :=
  aside_bind aside_get fun _ => aside_bind aside_get fun _ => aside_recordVerdict _

theorem aside_checkPeek (file : Path) (offset : Nat) (expected : String) :
    Aside (checkPeek file offset expected : Run σ Bool) :=
  aside_bind aside_get fun _ => aside_bind aside_get fun _ => aside_recordVerdict _

theorem aside_checkDirectory (file : Path) (expected : List Directory.Footprint) :
    Aside (checkDirectory file expected : Run σ Bool) :=
  aside_bind aside_get fun _ => aside_bind aside_get fun _ =>
    aside_bind (aside_recordAll _) fun _ => aside_pure _

theorem aside_removeFile (path : Path) : Aside (removeFile path : Run σ Bool) :=
  aside_changeFiles _

theorem aside_removeFiles (paths : List Path) : Aside (removeFiles paths : Run σ Unit) := by
  induction paths with
  | nil => exact aside_pure ()
  | cons path rest ih => exact aside_bind (aside_removeFile path) fun _ => ih

theorem aside_cleanGenerated : Aside (cleanGenerated : Run σ Unit) :=
  aside_bind aside_get fun _ => aside_bind (aside_removeFiles _) fun _ => aside_print _

theorem aside_makeFile (file : Path) (content : Bytes) :
    Aside (makeFile file content : Run σ _) := by
  refine aside_bind aside_get fun session => ?_
  split
  · exact aside_bind (aside_setFiles _) fun _ => aside_pure _
  · exact aside_pure _

theorem aside_dropFile (file : Path) : Aside (dropFile file : Run σ Unit) :=
  aside_bind aside_get fun _ => aside_bind (aside_removeFile _) fun _ => aside_pure _

/-! ## Actions that move the registry -/

theorem value_spawn (role : Role) (line : CommandLine) (s : Session σ) :
    (spawn role line).value s = (s.registry.spawn role line s.machine).1 := rfl

theorem after_spawn (role : Role) (line : CommandLine) (s : Session σ) :
    (spawn role line).after s =
      { s with
        registry := (s.registry.spawn role line s.machine).2.1
        machine := (s.registry.spawn role line s.machine).2.2 } := rfl

/-- A start either changes nothing but the machine, or its process is tracked under the next handle. -/
theorem ends_spawn {role : Role} {line : CommandLine} {post : Except Fault Spawned → Session σ → Prop}
    (hrefused : ∀ e machine, s.registry.launch line s.machine = (.error e, machine) →
      post (.error (.spawn (s.registry.programPath line.program) e)) { s with machine := machine })
    (hstarted : ∀ process machine, s.registry.launch line s.machine = (.ok process, machine) →
      post (.ok ⟨⟨s.registry.nextId⟩, process, .fresh⟩)
        { s with registry := s.registry.track role process, machine := machine }) :
    Ends (spawn role line) s post := by
  rw [Ends, value_spawn, after_spawn]
  rcases hlaunch : s.registry.launch line s.machine with ⟨e | process, machine⟩
  · rw [Registry.spawn_of_refused role hlaunch]
    exact hrefused e machine hlaunch
  · rw [Registry.spawn_of_started role hlaunch]
    exact hstarted process machine hlaunch

theorem after_wait (id : ProcessId) (s : Session σ) :
    (wait id).after s =
      { s with
        registry := s.registry.forget id
        machine := (s.registry.wait id s.stage.config.timeouts.shutdownMillis s.machine).2.2 } := by
  rw [← Registry.wait_registry s.registry id s.stage.config.timeouts.shutdownMillis s.machine]
  rfl

/-- Without a server there is nothing to stop. -/
theorem after_stopServer_none (h : s.server = none) : stopServer.after s = s := by
  obtain ⟨stage, registry, server, report, console, machine⟩ := s
  dsimp only at h
  subst h
  rfl

theorem after_stopServer_some {server : Spawned} (h : s.server = some server) :
    stopServer.after s =
      { s with
        server := none, registry := s.registry.forget server.id
        machine := (s.registry.kill server.id s.machine).2 } := by
  rw [← Registry.kill_registry s.registry server.id s.machine]
  obtain ⟨stage, registry, held, report, console, machine⟩ := s
  dsimp only at h
  subst h
  rfl

/-- Killing everything leaves nothing tracked and no server held. -/
theorem after_terminateAll (s : Session σ) :
    terminateAll.after s =
      { s with
        server := none, registry := { s.registry with tracked := [] }
        machine := (s.registry.terminateAll s.machine).2.2 } :=
  rfl

/-! ## Operations -/

/-- What a session can be asked to do: the steps of suites, and what they have no step for. -/
inductive Operation where
  | step (step : Step)
  | runLines (description : String) (expected : List String) (order : ListOrder) (request : Request)
  | stopServer
  | killProcesses
  | record (outcome : Outcome)
  | note (text : String)
  | restage (stage : Stage)

/-- Do what is asked, whatever comes of it. -/
def operate : Operation → Run σ Unit
  | .step step => do let _ ← perform step
  | .runLines description expected order request => do
    let _ ← runLines description expected order request
  | .stopServer => Session.stopServer
  | .killProcesses => do let _ ← Session.killProcesses
  | .record outcome => Session.record outcome
  | .note text => Session.note text
  | .restage stage => modify fun session => { session with stage := stage }

/-- Do everything that is asked in order. -/
def operateAll : List Operation → Run σ Unit
  | [] => pure ()
  | operation :: rest => do operate operation; operateAll rest

end Session

end Conformance
