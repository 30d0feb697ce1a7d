import Conformance.Proofs.Session.Actions

/-!
# Sessions on machines that answer alike

A machine imitates another if its states are images of the other's and its answers are the same, at
least as long as the other stays in states that are `Good`. A session learns of its machine by the
answers only. So every operation of a session on the one machine is the image of the same operation on
the other, as long as all goes well to its end (`runs_operateAll`).

That a state is good is known backwards: what was good after an answer was good before it. So it is
enough to look at the end of a run.
-/

namespace Conformance

variable {σ ρ α β : Type}

/-- How the states of one machine show on another that gives the same answers. -/
structure Imitation (σ ρ : Type) [Machine σ] [Machine ρ] where
  /-- The states up to which the answers are the same. -/
  Good : σ → Prop
  image : σ → ρ
  files (machine : σ) : Machine.files (image machine) = Machine.files machine
  withFiles {machine : σ} {files : FileSystem} (h : Good (Machine.withFiles machine files)) :
    Good machine ∧
      Machine.withFiles (image machine) files = image (Machine.withFiles machine files)
  start {machine : σ} {directory : Path} {line : CommandLine}
    (h : Good (Machine.start machine directory line).2) :
    Good machine ∧
      Machine.start (image machine) directory line =
        (Machine.start machine directory line).map id image
  receive {machine : σ} {process millis : Nat}
    (h : Good (Machine.receive machine process millis).2) :
    Good machine ∧
      Machine.receive (image machine) process millis =
        (Machine.receive machine process millis).map id image
  await {machine : σ} {process millis : Nat} (h : Good (Machine.await machine process millis).2) :
    Good machine ∧
      Machine.await (image machine) process millis =
        (Machine.await machine process millis).map id image
  kill {machine : σ} {process : Nat} (h : Good (Machine.kill machine process)) :
    Good machine ∧ Machine.kill (image machine) process = image (Machine.kill machine process)

/-- Machine and record show on the machine itself, as long as the record is of some kind that is never
    reached from another kind. -/
def Recorded.unrecordedWhile [Machine σ] {P : List (Deed σ) → Prop}
    (h : ∀ {record deed}, P (record ++ [deed]) → P record) : Imitation (Recorded σ) σ where
  Good recorded := P recorded.record
  image := Recorded.machine
  files _ := rfl
  withFiles hgood := ⟨hgood, rfl⟩
  start hgood := ⟨h hgood, rfl⟩
  receive hgood := ⟨h hgood, rfl⟩
  await hgood := ⟨h hgood, rfl⟩
  kill hgood := ⟨h hgood, rfl⟩

/-- Machine and record show on the machine itself. -/
def Recorded.unrecorded (σ : Type) [Machine σ] : Imitation (Recorded σ) σ :=
  unrecordedWhile fun (_ : True) => trivial

namespace Imitation

variable [Machine σ] [Machine ρ] (i : Imitation σ ρ) {machine : σ} {registry : Registry}
  {spawned : Spawned} {millis : Nat}

/-! ## The registry -/

theorem spawn {role : Role} {line : CommandLine}
    (h : i.Good (registry.spawn role line machine).2.2) :
    i.Good machine ∧
      registry.spawn role line (i.image machine) =
        (registry.spawn role line machine).map id (Prod.map id i.image) := by
  rcases hlaunch : registry.launch line machine with ⟨e | process, machine'⟩
  · rw [Registry.spawn_of_refused role hlaunch] at h ⊢
    obtain ⟨hgood, himage⟩ := i.start ((congrArg Prod.snd hlaunch) ▸ h)
    exact ⟨hgood, Registry.spawn_of_refused role (himage.trans (congrArg _ hlaunch))⟩
  · rw [Registry.spawn_of_started role hlaunch] at h ⊢
    obtain ⟨hgood, himage⟩ := i.start ((congrArg Prod.snd hlaunch) ▸ h)
    exact ⟨hgood, Registry.spawn_of_started role (himage.trans (congrArg _ hlaunch))⟩

theorem wait {handle : ProcessId} (h : i.Good (registry.wait handle millis machine).2.2) :
    i.Good machine ∧
      registry.wait handle millis (i.image machine) =
        (registry.wait handle millis machine).map id (Prod.map id i.image) := by
  rw [Registry.wait] at h
  rw [Registry.wait, Registry.wait]
  cases htake : registry.take handle with
  | none =>
      rw [htake] at h
      exact ⟨h, rfl⟩
  | some taken =>
      rw [htake] at h
      dsimp only at h ⊢
      rcases hawait : Machine.await machine taken.1.process millis with ⟨result, machine'⟩
      rw [hawait] at h
      -- a process that does not end in time is killed behind the wait
      have hwaited : i.Good machine' := by
        cases result with
        | ended status => exact h
        | failed | late => exact (i.kill h).1
      have hend : i.Good (Machine.await machine taken.1.process millis).2 := by
        rw [hawait]
        exact hwaited
      obtain ⟨hgood, himage⟩ := i.await hend
      refine ⟨hgood, ?_⟩
      rw [himage, hawait]
      cases result with
      | ended status => rfl
      | failed | late =>
          show (_, _, Machine.kill (i.image machine') _) = _
          rw [(i.kill h).2]
          rfl

theorem kill_tracked {handle : ProcessId} (h : i.Good (registry.kill handle machine).2) :
    i.Good machine ∧
      registry.kill handle (i.image machine) =
        (registry.kill handle machine).map id i.image := by
  rw [Registry.kill] at h
  rw [Registry.kill, Registry.kill]
  cases htake : registry.take handle with
  | none =>
      rw [htake] at h
      exact ⟨h, rfl⟩
  | some taken =>
      rw [htake] at h
      obtain ⟨hgood, himage⟩ := i.kill h
      refine ⟨hgood, ?_⟩
      show (_, Machine.kill (i.image machine) _) = _
      rw [himage]
      rfl

theorem kills {tracked : List Tracked}
    (h : i.Good (tracked.foldl (fun machine found => Machine.kill machine found.process) machine)) :
    i.Good machine ∧
      tracked.foldl (fun machine found => Machine.kill machine found.process) (i.image machine) =
        i.image (tracked.foldl (fun machine found => Machine.kill machine found.process) machine) := by
  induction tracked generalizing machine with
  | nil => exact ⟨h, rfl⟩
  | cons found rest ih =>
      obtain ⟨hgood, himage⟩ := ih h
      obtain ⟨hbefore, hkill⟩ := i.kill hgood
      refine ⟨hbefore, ?_⟩
      rw [List.foldl_cons, hkill]
      exact himage

/-! ## Output -/

theorem fill (h : i.Good (spawned.fill millis machine).2) :
    i.Good machine ∧
      spawned.fill millis (i.image machine) = (spawned.fill millis machine).map id i.image := by
  rw [Spawned.fill] at h
  rw [Spawned.fill, Spawned.fill]
  split at h
  · next hready =>
      rw [if_pos hready, if_pos hready]
      exact ⟨h, rfl⟩
  · next hready =>
      obtain ⟨hgood, himage⟩ := i.receive h
      refine ⟨hgood, ?_⟩
      rw [if_neg hready, if_neg hready, himage]
      rfl

theorem readLine (h : i.Good (spawned.readLine millis machine).2.2) :
    i.Good machine ∧
      spawned.readLine millis (i.image machine) =
        (spawned.readLine millis machine).map id (Prod.map id i.image) := by
  obtain ⟨hgood, himage⟩ := i.fill h
  refine ⟨hgood, ?_⟩
  rw [Spawned.readLine, himage]
  rfl

theorem peekLine (h : i.Good (spawned.peekLine millis machine).2.2) :
    i.Good machine ∧
      spawned.peekLine millis (i.image machine) =
        (spawned.peekLine millis machine).map id (Prod.map id i.image) := by
  obtain ⟨hgood, himage⟩ := i.fill h
  refine ⟨hgood, ?_⟩
  rw [Spawned.peekLine, himage]
  rfl

theorem readLines {count : Nat} (h : i.Good (Spawned.readLines count millis spawned machine).2.2) :
    i.Good machine ∧
      Spawned.readLines count millis spawned (i.image machine) =
        (Spawned.readLines count millis spawned machine).map id (Prod.map id i.image) := by
  induction count generalizing spawned machine with
  | zero => exact ⟨h, rfl⟩
  | succ n ih =>
      have hlast : i.Good (Spawned.readLines n millis (spawned.readLine millis machine).2.1
          (spawned.readLine millis machine).2.2).2.2 := h
      obtain ⟨hrest, himages⟩ := ih hlast
      obtain ⟨hgood, himage⟩ := i.readLine hrest
      refine ⟨hgood, ?_⟩
      rw [Spawned.readLines, himage]
      dsimp only [Prod.map, id_eq]
      rw [himages]
      rfl

end Imitation

namespace Session

/-! ## Actions -/

/-- The session on another machine. -/
def on (s : Session σ) (machine : ρ) : Session ρ :=
  { stage := s.stage, registry := s.registry, server := s.server, report := s.report
    console := s.console, machine := machine }

end Session

namespace Imitation

variable [Machine σ] [Machine ρ]

/-- How a session shows on the other machine. -/
def session (i : Imitation σ ρ) (s : Session σ) : Session ρ := s.on (i.image s.machine)

/-- An action on the one machine is the image of an action on the other, as long as all goes well. -/
def Runs (i : Imitation σ ρ) (act : Run σ α) (act' : Run ρ α) : Prop :=
  ∀ s, i.Good (act.after s).machine → i.Good s.machine ∧
    act'.value (i.session s) = act.value s ∧ act'.after (i.session s) = i.session (act.after s)

end Imitation

namespace Session

variable [Machine σ] [Machine ρ] {i : Imitation σ ρ}

theorem runs_pure (a : α) : i.Runs (pure a) (pure a) := fun _ h => ⟨h, rfl, rfl⟩

theorem runs_bind {act : Run σ α} {act' : Run ρ α} {next : α → Run σ β} {next' : α → Run ρ β}
    (hact : i.Runs act act') (hnext : ∀ a, i.Runs (next a) (next' a)) :
    i.Runs (act >>= next) (act' >>= next') := by
  intro s h
  obtain ⟨hmid, hvalue', hafter'⟩ := hnext (act.value s) (act.after s) h
  obtain ⟨hgood, hvalue, hafter⟩ := hact s hmid
  refine ⟨hgood, ?_, ?_⟩
  · show (next' (act'.value _)).value (act'.after _) = _
    rw [hvalue, hafter]
    exact hvalue'
  · show (next' (act'.value _)).after (act'.after _) = _
    rw [hvalue, hafter]
    exact hafter'

/-- What is done with a session is the image of what is done with the session itself. -/
theorem runs_get {next : Session σ → Run σ β} {next' : Session ρ → Run ρ β}
    (h : ∀ s, i.Runs (next s) (next' (i.session s))) : i.Runs (get >>= next) (get >>= next') :=
  fun s hgood => h s s hgood

theorem files_session (s : Session σ) : (i.session s).files = s.files := i.files s.machine

theorem server_session (s : Session σ) : (i.session s).server = s.server := rfl

theorem workDir_session (s : Session σ) : (i.session s).workDir = s.workDir := rfl

theorem runs_print (block : ReportStyle → String) : i.Runs (print block) (print block) :=
  fun _ h => ⟨h, rfl, rfl⟩

theorem runs_note (text : String) : i.Runs (note text) (note text) := runs_print _

theorem runs_record (outcome : Outcome) : i.Runs (record outcome) (record outcome) :=
  fun _ h => ⟨h, rfl, rfl⟩

theorem runs_recordAll (outcomes : List Outcome) :
    i.Runs (recordAll outcomes) (recordAll outcomes) := by
  induction outcomes with
  | nil => exact runs_pure ()
  | cons outcome rest ih => exact runs_bind (runs_record outcome) fun _ => ih

theorem runs_recordVerdict (outcome : Outcome) :
    i.Runs (recordVerdict outcome) (recordVerdict outcome) :=
  fun _ h => ⟨h, rfl, rfl⟩

theorem runs_begin (title : String) : i.Runs (begin title) (begin title) :=
  fun _ h => ⟨h, rfl, rfl⟩

theorem runs_holdServer (server : Option Spawned) :
    i.Runs (holdServer server) (holdServer server) :=
  fun _ h => ⟨h, rfl, rfl⟩

/-! ## Asking the machine -/

theorem runs_setFiles (files : FileSystem) : i.Runs (setFiles files) (setFiles files) := by
  intro s h
  obtain ⟨hgood, himage⟩ := i.withFiles h
  refine ⟨hgood, rfl, ?_⟩
  show s.on _ = s.on _
  exact congrArg s.on himage

theorem runs_spawn (role : Role) (line : CommandLine) :
    i.Runs (spawn role line) (spawn role line) := by
  intro s h
  obtain ⟨hgood, himage⟩ := i.spawn h
  refine ⟨hgood, ?_, ?_⟩
  · show (s.registry.spawn role line (i.image s.machine)).1 = _
    rw [himage]
    rfl
  · show ({ s.on (i.image s.machine) with
      registry := (s.registry.spawn role line (i.image s.machine)).2.1
      machine := (s.registry.spawn role line (i.image s.machine)).2.2 } : Session ρ) = _
    rw [himage]
    rfl

theorem runs_wait (handle : ProcessId) : i.Runs (wait handle) (wait handle) := by
  intro s h
  obtain ⟨hgood, himage⟩ := i.wait h
  refine ⟨hgood, ?_, ?_⟩
  · show (s.registry.wait handle s.stage.config.timeouts.shutdownMillis
      (i.image s.machine)).1 = _
    rw [himage]
    rfl
  · show ({ s.on (i.image s.machine) with
      registry := (s.registry.wait handle s.stage.config.timeouts.shutdownMillis
        (i.image s.machine)).2.1
      machine := (s.registry.wait handle s.stage.config.timeouts.shutdownMillis
        (i.image s.machine)).2.2 } : Session ρ) = _
    rw [himage]
    rfl

/-- Output is read through the machine alone, so it is the same if the machines answer alike. -/
theorem runs_read (read : Nat → σ → β × Spawned × σ) (read' : Nat → ρ → β × Spawned × ρ)
    (h : ∀ {millis machine}, i.Good (read millis machine).2.2 →
      i.Good machine ∧
        read' millis (i.image machine) = (read millis machine).map id (Prod.map id i.image)) :
    i.Runs
      (modifyGet fun s => let (seen, spawned, machine) := read s.registry.readMillis s.machine
        ((seen, spawned), { s with machine := machine }))
      (modifyGet fun s => let (seen, spawned, machine) := read' s.registry.readMillis s.machine
        ((seen, spawned), { s with machine := machine })) := by
  intro s hgood
  obtain ⟨hbefore, himage⟩ := h hgood
  refine ⟨hbefore, ?_, ?_⟩
  · show (let seen := read' s.registry.readMillis (i.image s.machine); (seen.1, seen.2.1)) = _
    rw [himage]
    rfl
  · show s.on (read' s.registry.readMillis (i.image s.machine)).2.2 = _
    rw [himage]
    rfl

theorem runs_readLine (spawned : Spawned) : i.Runs (readLine spawned) (readLine spawned) :=
  runs_read (spawned.readLine ·) (spawned.readLine ·) i.readLine

theorem runs_peekLine (spawned : Spawned) : i.Runs (peekLine spawned) (peekLine spawned) :=
  runs_read (spawned.peekLine ·) (spawned.peekLine ·) i.peekLine

theorem runs_readLines (count : Nat) (spawned : Spawned) :
    i.Runs (readLines count spawned) (readLines count spawned) :=
  runs_read (Spawned.readLines count · spawned) (Spawned.readLines count · spawned) i.readLines

theorem runs_stopServer : i.Runs stopServer stopServer := by
  intro s h
  cases hserver : s.server with
  | none =>
      have hserver' : (i.session s).server = none := hserver
      rw [after_stopServer_none hserver] at h ⊢
      rw [after_stopServer_none hserver']
      exact ⟨h, rfl, rfl⟩
  | some server =>
      have hserver' : (i.session s).server = some server := hserver
      rw [after_stopServer_some hserver] at h ⊢
      rw [after_stopServer_some hserver']
      obtain ⟨hgood, himage⟩ := i.kill_tracked h
      refine ⟨hgood, rfl, ?_⟩
      show ({ s.on (i.image s.machine) with
        server := none, registry := s.registry.forget server.id
        machine := (s.registry.kill server.id (i.image s.machine)).2 } : Session ρ) = _
      rw [himage]
      rfl

theorem runs_terminateAll : i.Runs terminateAll terminateAll := by
  intro s h
  obtain ⟨hgood, himage⟩ := i.kills h
  refine ⟨hgood, rfl, ?_⟩
  show ({ s.on (i.image s.machine) with
    server := none, registry := { s.registry with tracked := [] }
    machine := s.registry.tracked.foldl (fun machine found => Machine.kill machine found.process)
      (i.image s.machine) } : Session ρ) = _
  rw [himage]
  rfl

/-! ## The server -/

theorem runs_checkReady (spawned : Spawned) :
    i.Runs (checkReady spawned) (checkReady spawned) := by
  refine runs_bind (runs_peekLine spawned) fun ⟨ready, spawned⟩ => ?_
  dsimp only
  split
  · exact runs_pure _
  · exact runs_bind (runs_record _) fun _ => runs_pure _

theorem runs_startServer (description : String) (banner : Banner) :
    i.Runs (startServer description banner) (startServer description banner) := by
  refine runs_bind runs_stopServer fun _ => runs_get fun s => ?_
  refine runs_bind (runs_print _) fun _ => runs_bind (runs_note _) fun _ => ?_
  refine runs_bind (runs_spawn .server _) fun result => ?_
  cases result with
  | error e => exact runs_bind (runs_record _) fun _ => runs_pure _
  | ok spawned =>
      refine runs_bind (runs_readLines _ _) fun ⟨_, spawned⟩ => ?_
      refine runs_bind (runs_recordAll _) fun _ => ?_
      refine runs_bind (runs_checkReady _) fun ⟨_, spawned⟩ => ?_
      exact runs_bind (runs_holdServer _) fun _ => runs_pure _

theorem runs_readConnection (server : Spawned) :
    i.Runs (readConnection server) (readConnection server) :=
  runs_bind (runs_readLine server) fun ⟨_, server⟩ =>
    runs_bind (runs_readLine server) fun ⟨_, _⟩ => runs_pure _

theorem runs_readConnections (count : Nat) (server : Spawned) :
    i.Runs (readConnections count server) (readConnections count server) := by
  induction count generalizing server with
  | zero => exact runs_pure _
  | succ n ih =>
      exact runs_bind (runs_readConnection server) fun ⟨_, server⟩ =>
        runs_bind (ih server) fun ⟨_, _⟩ => runs_pure _

theorem runs_consumeConnections (count : Nat) :
    i.Runs (consumeConnections count) (consumeConnections count) := by
  refine runs_get fun s => ?_
  dsimp only
  rw [server_session]
  cases s.server with
  | none => exact runs_pure _
  | some server =>
      refine runs_bind (runs_readConnections count server) fun ⟨_, _⟩ => ?_
      exact runs_bind (runs_holdServer _) fun _ => runs_recordAll _

theorem runs_awaitEnd (server : Spawned) : i.Runs (awaitEnd server) (awaitEnd server) := by
  refine runs_bind (runs_wait _) fun result => ?_
  cases result with
  | ok status => exact runs_pure _
  | error e => exact runs_bind (runs_record _) fun _ => runs_pure _

theorem runs_awaitServer (description : String) :
    i.Runs (awaitServer description) (awaitServer description) := by
  refine runs_get fun s => ?_
  dsimp only
  rw [server_session]
  cases s.server with
  | none => exact runs_bind (runs_record _) fun _ => runs_pure _
  | some server =>
      refine runs_bind (runs_holdServer _) fun _ => ?_
      refine runs_bind (runs_readConnection _) fun ⟨_, _⟩ => ?_
      refine runs_bind (runs_recordAll _) fun _ => ?_
      refine runs_bind (runs_readLine _) fun ⟨_, _⟩ => ?_
      refine runs_bind (runs_recordVerdict _) fun _ => ?_
      exact runs_bind (runs_awaitEnd _) fun _ => runs_pure _

/-! ## Clients -/

theorem runs_launchClient (description expected : String) (request : Request) :
    i.Runs (launchClient description expected request)
      (launchClient description expected request) := by
  refine runs_get fun s => runs_get fun s' => ?_
  have hconnections : (i.session s).expectedConnections = s.expectedConnections := by
    rw [expectedConnections, files_session]
    rfl
  rw [hconnections]
  refine runs_bind (runs_print _) fun _ => ?_
  refine runs_bind (runs_spawn .client _) fun result => ?_
  cases result with
  | ok spawned => exact runs_pure _
  | error e => exact runs_bind (runs_record _) fun _ => runs_pure _

theorem runs_finishClient (client : Spawned) (connections : Nat) :
    i.Runs (finishClient client connections) (finishClient client connections) := by
  refine runs_bind (runs_wait _) fun result => ?_
  cases result with
  | ok status => exact runs_consumeConnections _
  | error e => exact runs_bind (runs_record _) fun _ => runs_consumeConnections _

theorem runs_run (description : String) (expect : Reply) (request : Request) :
    i.Runs (Session.run description expect request) (Session.run description expect request) := by
  refine runs_bind (runs_launchClient _ _ _) fun result => ?_
  cases result with
  | none => exact runs_pure _
  | some launched =>
      refine runs_bind (runs_readLine _) fun ⟨_, _⟩ => ?_
      refine runs_bind (runs_recordVerdict _) fun _ => ?_
      exact runs_bind (runs_finishClient _ _) fun _ => runs_pure _

theorem runs_runLines (description : String) (expected : List String) (order : ListOrder)
    (request : Request) :
    i.Runs (runLines description expected order request)
      (runLines description expected order request) := by
  refine runs_bind (runs_launchClient _ _ _) fun result => ?_
  cases result with
  | none => exact runs_pure _
  | some launched =>
      refine runs_bind (runs_readLines _ _) fun ⟨_, _⟩ => ?_
      refine runs_bind (runs_recordAll _) fun _ => ?_
      exact runs_bind (runs_finishClient _ _) fun _ => runs_pure _

/-! ## Files -/

theorem runs_changeFiles (change : FileSystem → α × FileSystem) :
    i.Runs (changeFiles change) (changeFiles change) := by
  refine runs_get fun s => ?_
  rw [files_session]
  exact runs_bind (runs_setFiles _) fun _ => runs_pure _

theorem runs_removeFiles (paths : List Path) :
    i.Runs (removeFiles paths) (removeFiles paths) := by
  induction paths with
  | nil => exact runs_pure ()
  | cons path rest ih => exact runs_bind (runs_changeFiles _) fun _ => ih

theorem runs_cleanGenerated : i.Runs cleanGenerated cleanGenerated :=
  runs_get fun _ => runs_bind (runs_removeFiles _) fun _ => runs_print _

theorem runs_checkFetched (source : Path) (user : String) :
    i.Runs (checkFetched source user) (checkFetched source user) :=
  runs_get fun _ => runs_bind (runs_changeFiles _) fun _ => runs_recordVerdict _

theorem runs_checkList (file : Path) (expected : List String) (order : ListOrder) :
    i.Runs (checkList file expected order) (checkList file expected order) :=
  runs_get fun _ => runs_bind (runs_changeFiles _) fun _ => runs_recordVerdict _

theorem runs_checkSize (file : Path) (expected : Nat) :
    i.Runs (checkSize file expected) (checkSize file expected) := by
  refine runs_get fun s => runs_get fun s' => ?_
  rw [files_session]
  exact runs_recordVerdict _

theorem runs_checkExistence (file : Path) (shouldExist : Bool) :
    i.Runs (checkExistence file shouldExist) (checkExistence file shouldExist) := by
  refine runs_get fun s => runs_get fun s' => ?_
  rw [files_session]
  exact runs_recordVerdict _

theorem runs_checkPeek (file : Path) (offset : Nat) (expected : String) :
    i.Runs (checkPeek file offset expected) (checkPeek file offset expected) := by
  refine runs_get fun s => runs_get fun s' => ?_
  rw [files_session]
  exact runs_recordVerdict _

theorem runs_checkDirectory (file : Path) (expected : List Directory.Footprint) :
    i.Runs (checkDirectory file expected) (checkDirectory file expected) := by
  refine runs_get fun s => runs_get fun s' => ?_
  rw [files_session]
  exact runs_bind (runs_recordAll _) fun _ => runs_pure _

theorem runs_makeFile (file : Path) (content : Bytes) :
    i.Runs (makeFile file content) (makeFile file content) := by
  refine runs_get fun s => ?_
  rw [files_session, workDir_session]
  cases s.files.write (s.workDir.join file) content with
  | ok files => exact runs_bind (runs_setFiles _) fun _ => runs_pure _
  | error e => exact runs_pure _

/-! ## Every operation -/

theorem runs_perform (step : Step) : i.Runs (perform step) (perform step) := by
  cases step with
  | begin title => exact runs_bind (runs_begin title) fun _ => runs_pure _
  | clean => exact runs_bind runs_cleanGenerated fun _ => runs_pure _
  | start description banner =>
      exact runs_bind (runs_startServer description banner) fun _ => runs_pure _
  | run description expect request =>
      exact runs_bind (runs_run description expect request) fun _ => runs_pure _
  | awaitServer description => exact runs_bind (runs_awaitServer description) fun _ => runs_pure _
  | existence file shouldExist =>
      exact runs_bind (runs_checkExistence file shouldExist) fun _ => runs_pure _
  | fetched source user => exact runs_bind (runs_checkFetched source user) fun _ => runs_pure _
  | list file expected order =>
      exact runs_bind (runs_checkList file expected order) fun _ => runs_pure _
  | size file expected => exact runs_bind (runs_checkSize file expected) fun _ => runs_pure _
  | peek file offset expected =>
      exact runs_bind (runs_checkPeek file offset expected) fun _ => runs_pure _
  | directory file expected =>
      exact runs_bind (runs_checkDirectory file expected) fun _ => runs_pure _
  | make file size => exact runs_makeFile file _
  | remove file =>
      exact runs_bind (runs_get fun _ => runs_bind (runs_changeFiles _) fun _ => runs_pure _)
        fun _ => runs_pure _

theorem runs_operate (operation : Operation) : i.Runs (operate operation) (operate operation) := by
  cases operation with
  | step step => exact runs_bind (runs_perform step) fun _ => runs_pure _
  | runLines description expected order request =>
      exact runs_bind (runs_runLines description expected order request) fun _ => runs_pure _
  | stopServer => exact runs_stopServer
  | killProcesses =>
      refine runs_bind (runs_bind runs_terminateAll fun _ => ?_) fun _ => runs_pure _
      exact runs_bind (runs_print _) fun _ => runs_pure _
  | record outcome => exact runs_record outcome
  | note text => exact runs_note text
  | restage stage => exact fun _ h => ⟨h, rfl, rfl⟩

/-- **A run is the image of the run on the machine that is imitated.** -/
theorem runs_operateAll (operations : List Operation) :
    i.Runs (operateAll operations) (operateAll operations) := by
  induction operations with
  | nil => exact runs_pure ()
  | cons operation rest ih => exact runs_bind (runs_operate operation) fun _ => ih

end Session

end Conformance
