import Conformance.Installation
import Conformance.Proofs.Session.Reading
import Conformance.Proofs.Session.Tracking

/-!
# Session and server stay in step

The session reads the lines of the server at set places: those of the banner when it starts, those of a
connection for each connection that it expects of a client, and three at the end. One line too many or
too few in any branch would shift everything that is read later. `Between` is the invariant that no
operation shifts: what is still to be read is what the server prints last, in every session between
two operations. While a client runs, the session is `Attended`: the lines of its connections are to be
read first.

All this is followed on a rehearsal, where every answer is as promised, and then said of every machine on
whose record the promise is kept (`in_step_until_exit`). One of these is the host on which the stand-ins
are deployed (`kept_deployed`).
-/

namespace Conformance

open LineReader (Plain OneLine)

namespace Session

variable {σ : Type} [Machine σ] {promise : Promise σ} {s s' : Session (Rehearsal promise)}
  {server : Spawned} {now : Serving} {lines : List String}

/-! ## Clients -/

/-- The invariant between two operations: what is still to be read of the server is what it prints
    behind its connections. -/
structure Between (s : Session (Rehearsal promise)) (now : Serving) : Prop where
  orderly : Orderly promise.config s
  accounted : Accounted (.blank _) s
  server : ∃ server, s.server = some server ∧
    Awaiting s.machine server now (lastLines now.ended)

/-- The invariant while a client runs: the lines of its connections are to be read first. -/
structure Attended (s : Session (Rehearsal promise)) (client : Spawned) (connections : Nat)
    (now : Serving) : Prop where
  orderly : Orderly promise.config s
  visited : Visited (.blank _) s client
  other : client.process ≠ now.process
  server : ∃ server, s.server = some server ∧
    Awaiting s.machine server now (handshakes connections ++ lastLines now.ended)

/-- What is done with the output of other processes leaves the server alone. -/
theorem fill_other {spawned : Spawned} {machine : Rehearsal promise}
    (hother : spawned.process ≠ now.process) (h : machine.scene.serving = some now) (millis : Nat) :
    (spawned.fill millis machine).2.scene = machine.scene := by
  rw [Spawned.fill]
  split
  · rfl
  · exact Rehearsal.receive_other h hother millis

theorem readLines_other {spawned : Spawned} {machine : Rehearsal promise}
    (hother : spawned.process ≠ now.process) (h : machine.scene.serving = some now)
    (count millis : Nat) :
    (Spawned.readLines count millis spawned machine).2.2.scene = machine.scene := by
  induction count generalizing spawned machine with
  | zero => rfl
  | succ n ih =>
      have hscene : (spawned.readLine millis machine).2.2.scene = machine.scene :=
        fill_other hother h millis
      have hserving : (spawned.readLine millis machine).2.2.scene.serving = some now := by
        rw [hscene, h]
      have hprocess : (spawned.readLine millis machine).2.1.process = spawned.process :=
        congrArg Tracked.process (entry_fill spawned .client millis machine)
      have hother' : (spawned.readLine millis machine).2.1.process ≠ now.process := by
        rw [hprocess]
        exact hother
      exact (ih hother' hserving).trans hscene

/-- What changes neither the registry, the server nor the machine does not disturb the invariant. -/
theorem Between.frame (h : Between s now) (horderly : Orderly promise.config s')
    (hregistry : s'.registry = s.registry) (hserver : s'.server = s.server)
    (hmachine : s'.machine = s.machine) : Between s' now where
  orderly := horderly
  accounted := h.accounted.frame hregistry hserver (hmachine ▸ .refl)
  server := by
    rw [hserver, hmachine]
    exact h.server

/-- Either the client cannot be started, and nothing changed for the server, or it is started, and the
    server goes on to print the lines of its connections. -/
theorem spawn_between (h : Between s now) (hup : now.ended = false) (request : Request) :
    Ends (spawn .client (promise.config.client.commandLine request)) s fun result s' =>
      (∃ program e, result = .error (.spawn program e) ∧ Between s' now) ∨
      ∃ client now', result = .ok client ∧
        Attended s' client (promise.config.contacts (Machine.files s.machine)) now' := by
  obtain ⟨server, hserver, hawaiting⟩ := h.server
  refine ends_spawn (fun e machine hlaunch => ?_) fun process machine hlaunch => ?_
  · exact Or.inl ⟨_, e, rfl, h.orderly.frame rfl rfl rfl,
      ⟨h.accounted.tracked, h.accounted.numbered, trivial⟩, server, hserver,
      hawaiting.frame (Rehearsal.launch_refused hlaunch)⟩
  · obtain ⟨hother, hscene⟩ := Rehearsal.launch_client hawaiting.serving hlaunch
    obtain ⟨n, hcontacts⟩ := promise.config.exists_contacts (Machine.files s.machine)
    rw [hcontacts] at hscene ⊢
    have hserving := congrArg Scene.serving hscene
    have hsent : machine.scene.sent = s.machine.scene.sent := by rw [hscene]
    -- the line with which the server waited becomes the first line of the first connection
    have hextended :=
      hawaiting.extend hup hserving hsent rfl (promise.printed_connected hup n _)
    rw [hup] at hextended
    exact Or.inr ⟨_, ⟨now.process, now.connections + (n + 1), _⟩, rfl, h.orderly.frame rfl rfl rfl,
      h.accounted.visit (ClientSpec.role_commandLine _ request) hlaunch, hother, server, hserver,
      hextended⟩

/-- The session expects of a client the connections that it makes. -/
theorem launchClient_between (h : Between s now) (hup : now.ended = false)
    (description expected : String) (request : Request) :
    Ends (launchClient description expected request) s fun result s' =>
      (result = none ∧ Between s' now) ∨
      ∃ client connections now', result = some (client, connections) ∧
        Attended s' client connections now' := by
  -- the files are looked at right before the start, so both sides see the same ones
  have hconnections : s.expectedConnections =
      promise.config.contacts (Machine.files s.machine) := by
    rw [expectedConnections, h.orderly.configured]
    rfl
  refine ends_get (ends_get (ends_step ?_))
  rw [hconnections, h.orderly.configured]
  generalize hs₁ : (print _ : Run (Rehearsal promise) Unit).after s = s₁
  have h₁ : Between s₁ now := hs₁ ▸ h.frame (h.orderly.frame rfl rfl rfl) rfl rfl rfl
  have hmachine : s₁.machine = s.machine := hs₁ ▸ rfl
  rw [← hmachine]
  refine ends_bind (spawn_between h₁ hup request) ?_
  rintro result s₂ (⟨program, e, rfl, h₂⟩ | ⟨client, now', rfl, h₂⟩)
  · exact Or.inl ⟨rfl, h₂.frame (orderly_record h₂.orderly (ordinary_launch _ _ _ _)) rfl rfl rfl⟩
  · exact Or.inr ⟨client, _, now', rfl, h₂⟩

/-- What is done with the output of the client leaves the rest as it is. -/
theorem Attended.frame {client client' : Spawned} {connections : Nat}
    (h : Attended s client connections now) (horderly : Orderly promise.config s')
    (hregistry : s'.registry = s.registry) (hserver : s'.server = s.server)
    (hentry : client'.entry .client = client.entry .client)
    (hmachine : Machine.Undisturbed s.machine s'.machine)
    (hscene : s'.machine.scene = s.machine.scene) : Attended s' client' connections now where
  orderly := horderly
  visited := h.visited.frame hregistry hserver hentry hmachine
  other := by
    rw [show client'.process = client.process from congrArg Tracked.process hentry]
    exact h.other
  server := by
    obtain ⟨server, hs, hawaiting⟩ := h.server
    exact ⟨server, hserver.trans hs, hawaiting.frame hscene⟩

theorem Attended.serving {client : Spawned} {connections : Nat}
    (h : Attended s client connections now) : s.machine.scene.serving = some now := by
  obtain ⟨_, _, hawaiting⟩ := h.server
  exact hawaiting.serving

theorem attended_readLines {client : Spawned} {connections : Nat}
    (h : Attended s client connections now) (count : Nat) :
    Ends (readLines count client) s fun read s' => Attended s' read.2 connections now :=
  h.frame (h.orderly.frame rfl rfl rfl) rfl rfl (entry_readLines count client .client s)
    ((aside_readLines count client).machine s) (readLines_other h.other h.serving count _)

theorem attended_readLine {client : Spawned} {connections : Nat}
    (h : Attended s client connections now) :
    Ends (readLine client) s fun read s' => Attended s' read.2 connections now :=
  h.frame (h.orderly.frame rfl rfl rfl) rfl rfl (entry_readLine client .client s)
    ((aside_readLine client).machine s) (fill_other h.other h.serving _)

theorem attended_recordVerdict {client : Spawned} {connections : Nat}
    (h : Attended s client connections now) {outcome : Outcome} (hordinary : outcome.Ordinary) :
    Ends (recordVerdict outcome) s fun _ s' => Attended s' client connections now :=
  h.frame (orderly_record h.orderly hordinary) rfl rfl rfl .refl rfl

theorem attended_recordAll {client : Spawned} {connections : Nat}
    (h : Attended s client connections now) (outcomes : List Outcome)
    (hordinary : ∀ outcome ∈ outcomes, outcome.Ordinary) :
    Ends (recordAll outcomes) s fun _ s' => Attended s' client connections now :=
  h.frame (orderly_recordAll h.orderly outcomes hordinary)
    ((aside_recordAll outcomes).registry s) ((aside_recordAll outcomes).server s) rfl
    ((aside_recordAll outcomes).machine s) (by rw [machine_recordAll])

/-- Waiting for the client leaves the server alone, in time or not. -/
theorem wait_other {client : Spawned} {connections : Nat}
    (h : Attended s client connections now) :
    Ends (wait client.id) s fun _ s' => Orderly promise.config s' ∧ s'.server = s.server ∧
      s'.machine.scene = s.machine.scene := by
  rw [Ends, after_wait, h.visited.forget]
  refine ⟨h.orderly.frame rfl rfl rfl, rfl, ?_⟩
  rcases Registry.wait_machine h.visited.take s.stage.config.timeouts.shutdownMillis s.machine
    with ⟨-, hmachine⟩ | ⟨-, hmachine⟩
  · exact (congrArg Rehearsal.scene hmachine).trans rfl
  · exact (congrArg Rehearsal.scene hmachine).trans rfl

/-- **After a client the session is in step again**, whatever became of it. -/
theorem finishClient_between {client : Spawned} {connections : Nat}
    (h : Attended s client connections now) :
    Ends (finishClient client connections) s fun _ s' => Between s' now := by
  obtain ⟨server, hserver, hawaiting⟩ := h.server
  have hkept : Ends (finishClient client connections) s fun _ s' => Orderly promise.config s' ∧
      ∃ server', s'.server = some server' ∧
        Awaiting s'.machine server' now (lastLines now.ended) := by
    refine ends_bind (wait_other h) ?_
    rintro result s₁ ⟨h₁, hserver₁, hsame₁⟩
    have hawaiting₁ := hawaiting.frame hsame₁
    cases result with
    | ok status =>
        exact consumeConnections_server h₁ connections (hserver₁.trans hserver) hawaiting₁
    | error e =>
        have h₂ := orderly_record h₁ (ordinary_exit "client exits" e.message)
        exact ends_step
          (consumeConnections_server h₂ connections (hserver₁.trans hserver) hawaiting₁)
  exact ⟨hkept.1, keeps_finishClient h.visited connections, hkept.2⟩

theorem run_between (h : Between s now) (hup : now.ended = false) (description : String)
    (expect : Reply) (request : Request) :
    Ends (run description expect request) s fun _ s' => ∃ now', Between s' now' := by
  refine ends_bind (launchClient_between h hup _ _ request) ?_
  rintro result s₁ (⟨rfl, h₁⟩ | ⟨client, connections, now', rfl, h₁⟩)
  · exact ⟨now, h₁⟩
  · refine ends_bind (attended_readLine h₁) ?_
    rintro ⟨seen, client₂⟩ s₂ h₂
    refine ends_bind (attended_recordVerdict h₂ (ordinary_compare _ _ _)) ?_
    rintro passed s₃ h₃
    refine ends_bind (finishClient_between h₃) ?_
    rintro _ s₄ h₄
    exact ⟨now', h₄⟩

theorem runLines_between (h : Between s now) (hup : now.ended = false) (description : String)
    (expected : List String) (order : ListOrder) (request : Request) :
    Ends (runLines description expected order request) s fun _ s' => ∃ now', Between s' now' := by
  refine ends_bind (launchClient_between h hup _ _ request) ?_
  rintro result s₁ (⟨rfl, h₁⟩ | ⟨client, connections, now', rfl, h₁⟩)
  · exact ⟨now, h₁⟩
  · refine ends_bind (attended_readLines h₁ expected.length) ?_
    rintro ⟨seen, client₂⟩ s₂ h₂
    refine ends_bind (attended_recordAll h₂ _ (ordinary_lines description expected order seen)) ?_
    rintro _ s₃ h₃
    refine ends_bind (finishClient_between h₃) ?_
    rintro _ s₄ h₄
    exact ⟨now', h₄⟩

/-! ## The beginning and the end -/

/-- **THE SERVER STARTS IN STEP**: its banner passes, and it is found waiting. -/
theorem startServer_between (h : Orderly promise.config s) (haccounted : Accounted (.blank _) s)
    (hnone : s.server = none) (hidle : s.machine.scene.serving = none) {process : Nat}
    (hstart : (promise.config.registry.launch promise.config.server.commandLine
      s.machine.machine).1 = .ok process)
    (hplain : ∀ line ∈ promise.banner.lines promise.config.server, Plain line)
    (description : String) :
    Ends (startServer description promise.banner) s fun started s' => started = true ∧
      ∃ now, Between s' now := by
  rw [← Registry.launch_congr h.workDir] at hstart
  obtain ⟨machine, hlaunch, hscene⟩ := Rehearsal.launch_server hidle hstart
  have hstarted : Ends (startServer description promise.banner) s fun started s' =>
      started = true ∧ Orderly promise.config s' ∧ ∃ server, s'.server = some server ∧
        Awaiting s'.machine server ⟨process, 0, false⟩ [waitingLine] := by
    refine ends_step ?_
    rw [after_stopServer_none hnone]
    refine ends_get (ends_step (ends_step ?_))
    rw [h.configured]
    generalize hs₁ : (note description : Run (Rehearsal promise) Unit).after _ = s₁
    have h₁ : Orderly promise.config s₁ := hs₁ ▸ h.frame rfl rfl rfl
    have hlaunch₁ : s₁.registry.launch promise.config.server.commandLine s₁.machine =
        (.ok process, machine) := hs₁ ▸ hlaunch
    refine ends_step ?_
    rw [value_spawn, after_spawn, Registry.spawn_of_started .server hlaunch₁]
    have h₂ : Orderly promise.config
        { s₁ with registry := s₁.registry.track .server process, machine := machine } :=
      h₁.frame rfl rfl rfl
    refine ends_bind (readLines_server h₂ hplain (Awaiting.fresh _ hscene)) ?_
    rintro ⟨seen, server₃⟩ s₃ ⟨hseen, h₃, hawaiting₃⟩
    obtain rfl : seen = (promise.banner.lines promise.config.server).map .line := hseen
    refine ends_bind (recordAll_server h₃ (ordinary_lines _ _ _ _) hawaiting₃) ?_
    rintro _ s₄ ⟨h₄, hawaiting₄⟩
    refine ends_bind (checkReady_server h₄ hawaiting₄) ?_
    rintro ⟨ready, server₅⟩ s₅ ⟨hready, h₅, hawaiting₅⟩
    obtain rfl : ready = true := hready
    exact ⟨(Bool.and_true _).trans (passed_lines _ _), h₅.frame rfl rfl rfl, server₅, rfl,
      hawaiting₅⟩
  obtain ⟨htrue, horderly, hserver⟩ := hstarted
  exact ⟨htrue, ⟨process, 0, false⟩, horderly,
    keeps_startServer haccounted description promise.banner, hserver⟩

/-- A server that was ended is waited for with success. -/
theorem awaitEnd_server (h : Orderly promise.config s) (htracks : TracksOnly (.blank _) s server)
    (hawaiting : Awaiting s.machine server now lines) (hended : now.ended = true) :
    Ends (awaitEnd server) s fun ended s' => ended = true ∧ Orderly promise.config s' := by
  obtain ⟨status, hstatus⟩ := Rehearsal.await_server hawaiting.serving hended
    s.stage.config.timeouts.shutdownMillis
  rw [← hawaiting.process] at hstatus
  have hvalue : (wait server.id).value s = .ok status := Registry.wait_value htracks.take hstatus
  refine ends_step ?_
  rw [hvalue, after_wait, htracks.forget]
  exact ⟨rfl, h.frame rfl rfl rfl⟩

/-- **THE SERVER ENDS IN STEP**: its last lines are the ones that are read, and it has ended. -/
theorem awaitServer_between (h : Between s now) (hended : now.ended = true)
    (description : String) :
    Ends (awaitServer description) s fun ended s' => ended = true ∧ Orderly promise.config s' := by
  obtain ⟨server, hserver, hawaiting⟩ := h.server
  rw [hended] at hawaiting
  have htracks : TracksOnly (.blank _) { s with server := none } server :=
    (h.accounted.tracksOnly hserver).frame rfl rfl .refl
  have horderly : Orderly promise.config { s with server := none } := h.orderly.frame rfl rfl rfl
  refine ends_get ?_
  rw [hserver]
  refine ends_step ?_
  have hlast : Ends (readConnection server) { s with server := none } fun read s' =>
      (read.1 = [] ∧ Orderly promise.config s' ∧ Awaiting s'.machine read.2 now [terminatedLine]) ∧
        TracksOnly (.blank _) s' read.2 :=
    ⟨readConnection_server horderly plain_shutdownLine isConnectedLine_shutdownLine hawaiting,
      htracks.frame ((aside_readConnection server).registry _) (entry_readConnection _ _ _)
        ((aside_readConnection server).machine _)⟩
  refine ends_bind hlast ?_
  rintro ⟨anomalies, server₁⟩ s₁ ⟨⟨hnone, h₁, hawaiting₁⟩, htracks₁⟩
  obtain rfl : anomalies = [] := hnone
  refine ends_step ?_
  have hline : Ends (readLine server₁) s₁ fun read s' =>
      (read.1 = .line terminatedLine ∧ Orderly promise.config s' ∧ Awaiting s'.machine read.2 now []) ∧
        TracksOnly (.blank _) s' read.2 :=
    ⟨readLine_server h₁ plain_terminatedLine hawaiting₁,
      htracks₁.frame rfl (entry_readLine _ _ _) ((aside_readLine server₁).machine s₁)⟩
  refine ends_bind hline ?_
  rintro ⟨last, server₂⟩ s₂ ⟨⟨hlast, h₂, hawaiting₂⟩, htracks₂⟩
  obtain rfl : last = .line terminatedLine := hlast
  refine ends_step (ends_bind (awaitEnd_server
    (orderly_record h₂ (ordinary_compare description terminatedLine terminatedLine))
    (htracks₂.frame rfl rfl .refl) hawaiting₂ hended) ?_)
  rintro ended s₃ ⟨rfl, h₃⟩
  refine ⟨?_, h₃⟩
  show (decide (terminatedLine = terminatedLine) && true) = true
  exact (Bool.and_true _).trans (decide_eq_true rfl)

/-! ## Whole runs -/

/-- What a run does between the start of the server and its end: clients, and the client's copy of the
    public key appearing with a content, or disappearing. -/
inductive Call where
  | run (description : String) (expect : Reply) (request : Request)
  | runLines (description : String) (expected : List String) (order : ListOrder) (request : Request)
  | key (content? : Option Bytes)

/-- The files once the client's copy of the public key is there, with a content, or is gone. A copy that
    cannot be made is not there. -/
def withKey (config : Config) (content? : Option Bytes) (files : FileSystem) : FileSystem :=
  match config.publicKeyFile?, content? with
  | none, _ => files
  | some path, none => (files.removeIfExists path).2
  | some path, some content =>
    match files.write path content with
    | .ok files => files
    | .error _ => files

/-- Make a call. -/
def make : Call → Run σ Unit
  | .run description expect request => do let _ ← run description expect request
  | .runLines description expected order request => do
    let _ ← runLines description expected order request
  | .key content? => do
    let session ← get
    setFiles (withKey session.stage.config content? session.files)

/-- Make calls in order. -/
def makeAll : List Call → Run σ Unit
  | [] => pure ()
  | call :: rest => do make call; makeAll rest

/-- Look at the next line of the server that is held. -/
def lookAtServer : Run σ (Option ReadLine) := do
  match (← get).server with
  | none => return none
  | some server =>
    let (line, server) ← peekLine server
    holdServer (some server)
    return some line

theorem makeAll_append (calls calls' : List Call) (s : Session σ) :
    (makeAll (calls ++ calls')).after s = (makeAll calls').after ((makeAll calls).after s) := by
  induction calls generalizing s with
  | nil => rfl
  | cons call rest ih => exact ih _

/-! ### On a machine that is imitated -/

section
variable {ρ : Type} [Machine ρ] {i : Imitation σ ρ}

theorem runs_make (call : Call) : i.Runs (make call) (make call) := by
  cases call with
  | run description expect request =>
      exact runs_bind (runs_run description expect request) fun _ => runs_pure ()
  | runLines description expected order request =>
      exact runs_bind (runs_runLines description expected order request) fun _ => runs_pure ()
  | key content? =>
      refine runs_get fun s => ?_
      rw [files_session]
      exact runs_setFiles _

theorem runs_makeAll (calls : List Call) : i.Runs (makeAll calls) (makeAll calls) := by
  induction calls with
  | nil => exact runs_pure ()
  | cons call rest ih => exact runs_bind (runs_make call) fun _ => ih

theorem runs_lookAtServer : i.Runs lookAtServer lookAtServer := by
  refine runs_get fun s => ?_
  dsimp only
  rw [server_session]
  cases s.server with
  | none => exact runs_pure none
  | some server =>
      refine runs_bind (runs_peekLine server) fun ⟨line, server⟩ => ?_
      exact runs_bind (runs_holdServer _) fun _ => runs_pure _

end

/-! ### On a machine that keeps the promise -/

theorem Between.ended_eq (h : Between s now) : s.machine.scene.ended = now.ended := by
  obtain ⟨server, _, hawaiting⟩ := h.server
  rw [Scene.ended, hawaiting.serving]
  rfl

/-- **A look at the server finds it waiting.** -/
theorem lookAtServer_between (h : Between s now) :
    Ends lookAtServer s fun line _ => line = some (.line waitingLine) := by
  obtain ⟨server, hserver, hawaiting⟩ := h.server
  have hfirst : ∃ lines, lastLines now.ended = waitingLine :: lines := by
    cases now.ended with
    | false => exact ⟨_, rfl⟩
    | true => exact ⟨_, rfl⟩
  obtain ⟨lines, hlines⟩ := hfirst
  rw [hlines] at hawaiting
  refine ends_get ?_
  rw [hserver]
  refine ends_bind (peekLine_server h.orderly plain_waitingLine hawaiting) ?_
  rintro ⟨line, server₁⟩ s₁ ⟨hline, -, -⟩
  exact congrArg some hline

/-- A look at the machine itself finds it waiting, too, if it is answered as promised. -/
theorem lookAtServer_answered {s : Session (Recorded σ)}
    (h : Between (promise.rehearsed.session s) now)
    (hkept : promise.Kept (lookAtServer.after s).machine.record) :
    lookAtServer.value ((Recorded.unrecorded σ).session s) = some (.line waitingLine) := by
  rw [(runs_lookAtServer (i := Recorded.unrecorded σ) s trivial).2.1,
    ← (runs_lookAtServer (i := promise.rehearsed) s hkept).2.1]
  exact lookAtServer_between h

/-- Replacing the files leaves what is still to be read as it is. -/
theorem setFiles_between (h : Between s now) (files : FileSystem) :
    Ends (setFiles files) s fun _ s' => Between s' now := by
  obtain ⟨server, hserver, hawaiting⟩ := h.server
  exact ⟨h.orderly.frame rfl rfl rfl, h.accounted.frame rfl rfl (.withFiles .refl files), server,
    hserver, hawaiting.frame rfl⟩

/-- **No call brings the session out of step.** -/
theorem make_between (h : Between s now) (hup : now.ended = false) (call : Call) :
    Ends (make call) s fun _ s' => ∃ now', Between s' now' := by
  cases call with
  | run description expect request =>
      exact ends_bind (run_between h hup description expect request) fun _ _ h => h
  | runLines description expected order request =>
      exact ends_bind (runLines_between h hup description expected order request) fun _ _ h => h
  | key content? => exact ends_get ⟨now, setFiles_between h _⟩

/-- Calls are made in step as long as none of them ends the server. -/
theorem makeAll_between (h : Between s now) (calls : List Call)
    (hup : ∀ before call rest, calls = before ++ call :: rest →
      ((makeAll before).after s).machine.scene.ended = false) :
    Ends (makeAll calls) s fun _ s' => ∃ now', Between s' now' := by
  induction calls generalizing s now with
  | nil => exact ⟨now, h⟩
  | cons call rest ih =>
      have hnow : now.ended = false := h.ended_eq.symm.trans (hup [] call rest rfl)
      obtain ⟨now', h'⟩ := make_between h hnow call
      refine ih h' fun before next later hrest => ?_
      exact hup (call :: before) next later (by rw [hrest]; rfl)

/-- A session once its server was started and calls were made. -/
def afterCalls (stage : Stage) (brokenConsole : Bool) (machine : σ) (description : String)
    (banner : Banner) (calls : List Call) : Session σ :=
  (makeAll calls).after
    ((startServer description banner).after (Session.new stage brokenConsole machine))

/-- On a machine that is imitated it is an image. -/
theorem afterCalls_image {ρ : Type} [Machine ρ] (i : Imitation σ ρ) {stage : Stage}
    {brokenConsole : Bool} {machine : σ} {description : String} {banner : Banner}
    {calls : List Call}
    (h : i.Good (afterCalls stage brokenConsole machine description banner calls).machine) :
    i.session (afterCalls stage brokenConsole machine description banner calls) =
      afterCalls stage brokenConsole (i.image machine) description banner calls := by
  obtain ⟨hstarted, -, hcalls⟩ := runs_makeAll calls _ h
  rw [afterCalls, ← hcalls, ← (runs_startServer description banner _ hstarted).2.2]
  rfl

/-- **SESSION AND SERVER STAY IN STEP** over every run that a request to exit ends, on every machine on
    which the server can be started and on whose record the promise is kept: the server starts as
    expected, a look before any call finds it waiting, its end is seen, and no line of a connection is
    ever out of place. A look that is not taken does not count: it has to be answered as promised, too. -/
theorem in_step_until_exit (promise : Promise σ) (cast : Cast) (brokenConsole : Bool) (machine : σ)
    {process : Nat} (hstart : (promise.config.registry.launch promise.config.server.commandLine
      machine).1 = .ok process)
    (hstem : OneLine promise.config.server.keyFileStem)
    (hfile : OneLine promise.config.server.directoryFile) (description closing : String)
    (calls : List Call) (last : Call) :
    let stage : Stage := ⟨promise.config, cast⟩
    let recorded := afterCalls stage brokenConsole (Recorded.fresh machine) description promise.banner
    let closed := (awaitServer closing).after ((make last).after (recorded calls))
    let session := afterCalls stage brokenConsole machine description promise.banner
    let final := (make last).after (session calls)
    promise.Kept closed.machine.record →
    (promise.scene (recorded calls).machine.record).ended = false →
    (promise.scene ((make last).after (recorded calls)).machine.record).ended = true →
    (startServer description promise.banner).value (Session.new stage brokenConsole machine) = true ∧
    (∀ before, before <+: calls → promise.Kept (lookAtServer.after (recorded before)).machine.record →
      lookAtServer.value (session before) = some (.line waitingLine)) ∧
    (promise.Kept (lookAtServer.after ((make last).after (recorded calls))).machine.record →
      lookAtServer.value final = some (.line waitingLine)) ∧
    (awaitServer closing).value final = true ∧
    ∀ expected seen, Expectation.misplaced expected seen ∉
      ((awaitServer closing).after final).report.outcomes := by
  intro stage recorded closed session final hkept hup hended
  -- what was so at the end of the record was so at every earlier time
  obtain ⟨hkeptFinal, hawaitValue, hclosed⟩ :=
    runs_awaitServer (i := promise.rehearsed) closing _ hkept
  obtain ⟨hkeptCalls, -, hlast⟩ := runs_make (i := promise.rehearsed) last _ hkeptFinal
  have hearly : ∀ before, before <+: calls → promise.Kept (recorded before).machine.record ∧
      (promise.scene (recorded before).machine.record).ended = false := by
    rintro before ⟨rest, rfl⟩
    have hsplit : recorded (before ++ rest) = (makeAll rest).after (recorded before) :=
      makeAll_append before rest _
    rw [hsplit] at hkeptCalls hup
    exact ⟨(runs_makeAll (i := promise.rehearsed) rest _ hkeptCalls).1,
      (runs_makeAll (i := promise.unended) rest _ hup).1⟩
  have himage (before : List Call) (hbefore : before <+: calls) :=
    afterCalls_image promise.rehearsed (hearly before hbefore).1
  -- so the session is in step between the calls, and at the end
  obtain ⟨hstarted, now, hready⟩ := startServer_between
    (s := Session.new stage brokenConsole (⟨machine, .empty⟩ : Rehearsal promise))
    (orderly_new stage brokenConsole _) (accounted_new brokenConsole trivial) rfl rfl hstart
    (plain_banner _ hstem hfile promise.banner) description
  have hbetween : ∀ before, before <+: calls →
      ∃ now, Between (promise.rehearsed.session (recorded before)) now := by
    intro before hbefore
    rw [himage before hbefore]
    refine makeAll_between hready before fun earlier call rest hsplit => ?_
    have hearlier : earlier <+: calls :=
      (hsplit ▸ List.prefix_append earlier (call :: rest)).trans hbefore
    have hsame : (makeAll earlier).after ((startServer description promise.banner).after
        (Session.new stage brokenConsole ⟨machine, .empty⟩)) =
          promise.rehearsed.session (recorded earlier) := (himage earlier hearlier).symm
    rw [hsame]
    exact (hearly earlier hearlier).2
  obtain ⟨now₁, h₁⟩ := hbetween calls (List.prefix_refl calls)
  obtain ⟨now₂, h₂⟩ := make_between h₁ (h₁.ended_eq.symm.trans hup) last
  rw [hlast] at h₂
  obtain ⟨hawaited, horderly⟩ :=
    awaitServer_between h₂ (h₂.ended_eq.symm.trans hended) closing
  rw [hclosed] at horderly
  -- and for the session it makes no difference that the machine is recorded
  have hplain (before : List Call) : (Recorded.unrecorded σ).session (recorded before) =
      session before := afterCalls_image (Recorded.unrecorded σ) trivial
  have hfinal : (Recorded.unrecorded σ).session ((make last).after (recorded calls)) = final := by
    rw [← (runs_make (i := Recorded.unrecorded σ) last _ trivial).2.2, hplain]
  refine ⟨?_, fun before hbefore hlook => ?_, fun hlook => ?_, ?_, ?_⟩
  · have hrehearsed := (runs_startServer (i := promise.rehearsed) description promise.banner
      (Session.new stage brokenConsole (Recorded.fresh machine)) (hearly [] List.nil_prefix).1).2.1
    have hrecorded := (runs_startServer (i := Recorded.unrecorded σ) description promise.banner
      (Session.new stage brokenConsole (Recorded.fresh machine)) trivial).2.1
    exact hrecorded.trans (hrehearsed.symm.trans hstarted)
  · obtain ⟨now', h'⟩ := hbetween before hbefore
    rw [← hplain]
    exact lookAtServer_answered h' hlook
  · rw [← hfinal]
    exact lookAtServer_answered h₂ hlook
  · rw [← hfinal, (runs_awaitServer (i := Recorded.unrecorded σ) closing _ trivial).2.1,
      ← hawaitValue]
    exact hawaited
  · rw [← hfinal, (runs_awaitServer (i := Recorded.unrecorded σ) closing _ trivial).2.2]
    exact fun expected seen hmem => horderly.ordinary _ hmem expected seen rfl

/-! ### Where the stand-ins are deployed -/

/-- What is promised of the stand-ins: the server knows the users who have registered. -/
def deployedPromise : Promise Host := ⟨Standin.deployedConfig ["work"], .fresh, Standin.knows⟩

/-- The user who has the server shut down. -/
def rehearsedUser : Credential := ⟨"alice", "alice_is_awesome"⟩

/-- The client's key vanishes in between, and an attempt to shut down fails. -/
def rehearsedCalls : List Call :=
  [.run "Register" .ok (.register rehearsedUser),
    .key none,
    .runLines "Store a file that is not there" [Reply.errReqFmt.token] .asEmitted
      (.setContent rehearsedUser "nothing"),
    .run "Shut down with a wrong password" .errLogin
      (.exit { rehearsedUser with password := "not_alice_password" })]

/-- The server is shut down. -/
def shutDown : Call := .run "Shut down" .ok (.exit rehearsedUser)

theorem start_deployed :
    ∃ process, (deployedPromise.config.registry.launch deployedPromise.config.server.commandLine
      (Standin.deployed ["work"])).1 = .ok process :=
  exists_eq_ok_of_toBool (by decide +kernel)

set_option maxRecDepth 100000 in
/-- **The stand-ins keep the promise**, a look at the server before the calls and after them included. -/
theorem kept_deployed :
    let recorded := afterCalls ⟨deployedPromise.config, .standard⟩ false
      (Recorded.fresh (Standin.deployed ["work"])) "Start" deployedPromise.banner
    let final := (make shutDown).after (recorded rehearsedCalls)
    deployedPromise.Kept ((awaitServer "End").after final).machine.record ∧
    (deployedPromise.scene (recorded rehearsedCalls).machine.record).ended = false ∧
    (deployedPromise.scene final.machine.record).ended = true ∧
    deployedPromise.Kept (lookAtServer.after (recorded [])).machine.record ∧
    deployedPromise.Kept (lookAtServer.after final).machine.record := by
  decide +kernel

/-- So a session with the stand-ins is in step. -/
theorem in_step_until_exit_deployed :
    let stage : Stage := ⟨deployedPromise.config, .standard⟩
    let session := afterCalls stage false (Standin.deployed ["work"]) "Start" deployedPromise.banner
    let final := (make shutDown).after (session rehearsedCalls)
    (startServer "Start" deployedPromise.banner).value
      (Session.new stage false (Standin.deployed ["work"])) = true ∧
    lookAtServer.value (session []) = some (.line waitingLine) ∧
    lookAtServer.value final = some (.line waitingLine) ∧
    (awaitServer "End").value final = true ∧
    ∀ expected seen, Expectation.misplaced expected seen ∉
      ((awaitServer "End").after final).report.outcomes := by
  obtain ⟨process, hprocess⟩ := start_deployed
  obtain ⟨hkept, hup, hended, hfirst, hlast⟩ := kept_deployed
  obtain ⟨hstart, hlooks, hlook, hclosed, hnone⟩ := in_step_until_exit deployedPromise .standard false
    (Standin.deployed ["work"]) hprocess ⟨by decide, by decide⟩ ⟨by decide, by decide⟩
    "Start" "End" rehearsedCalls shutDown hkept hup hended
  exact ⟨hstart, hlooks [] List.nil_prefix hfirst, hlook hlast, hclosed, hnone⟩

end Session

end Conformance
