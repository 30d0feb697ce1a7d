import Conformance.Proofs.Expectation.Token
import Conformance.Proofs.Expectation.Unordered
import Conformance.Proofs.Session.Tracking

/-!
# Every check is on record

An operation of a session interleaves reads from two processes, waits and starts, any of which can go
wrong, with what it writes into the report. Whatever goes wrong, the report says exactly what was
checked: one outcome for each line that a client or a banner should have, one for each process that did
not end, one for each line that was out of place on a connection. `ClientRun`, `ServerStart` and
`ServerEnd` say so for the operations that read, each in terms of what the machine answers.

The accounts are put together from what each small action does to the session (`Ends`), in the order in
which the operations do them.
-/

namespace Conformance

/-! ## Lines out of place -/

namespace Expectation

/-- Whether a line stands where it belongs among the lines of connections: lines that announce that the
    server waits and lines that announce a connection take turns. -/
def fits (position : Nat) (seen : ReadLine) : Bool :=
  if position % 2 = 0 then seen.actual = waitingLine else isConnectedLine seen.actual

/-- How the line at a position should read. -/
def pattern (position : Nat) : String := if position % 2 = 0 then waitingLine else connectedPattern

/-- One outcome for each line out of place, where the first line stands at a position. -/
def outOfPlace (first : Nat) (seen : List ReadLine) : List Outcome :=
  ((seen.zipIdx first).filter fun line => !fits line.2 line.1).map fun line =>
    misplaced (pattern line.2) line.1

theorem outOfPlace_cons (first : Nat) (line : ReadLine) (rest : List ReadLine) :
    outOfPlace first (line :: rest) =
      (if fits first line then [] else [misplaced (pattern first) line]) ++
        outOfPlace (first + 1) rest := by
  rw [outOfPlace, List.zipIdx_cons, List.filter_cons]
  cases fits first line <;> rfl

theorem outOfPlace_add_two (first : Nat) (seen : List ReadLine) :
    outOfPlace (first + 2) seen = outOfPlace first seen := by
  induction seen generalizing first with
  | nil => rfl
  | cons line rest ih =>
      rw [outOfPlace_cons, outOfPlace_cons, fits, fits, pattern, pattern, Nat.add_mod_right,
        Nat.add_right_comm, ih]

/-- The lines of a connection are checked two at a time. -/
theorem outOfPlace_connection (waiting connected : ReadLine) (rest : List ReadLine) :
    outOfPlace 0 (waiting :: connected :: rest) =
      handshake waiting connected ++ outOfPlace 0 rest := by
  have hwaiting : fits 0 waiting = decide (waiting.actual = waitingLine) := rfl
  have hconnected : fits 1 connected = isConnectedLine connected.actual := rfl
  rw [outOfPlace_cons, outOfPlace_cons, outOfPlace_add_two, handshake, ← List.append_assoc,
    hwaiting, hconnected]
  simp only [decide_eq_true_eq]
  rfl

/-- A line out of place is the fault of the environment. -/
theorem outOfPlace_infrastructure (first : Nat) (seen : List ReadLine) :
    ∀ mishap ∈ outOfPlace first seen, mishap.isInfrastructureFailure = true := by
  intro mishap hmishap
  obtain ⟨line, -, rfl⟩ := List.mem_map.mp hmishap
  rfl

/-- As many outcomes as lines were expected. -/
theorem length_lines (description : String) (expected : List String) (order : ListOrder)
    {seen : List ReadLine} (h : seen.length = expected.length) :
    (lines description expected order seen).length = expected.length := by
  have hactual : (seen.map ReadLine.actual).length = expected.length := by rw [List.length_map, h]
  rw [lines, List.length_mapIdx, List.length_zip, hactual]
  cases order with
  | asEmitted => exact Nat.min_self _
  | sorted => rw [tokens_sorted, length_compared, length_marked, hactual, Nat.min_self]

/-- Lines are checked for what they say about the protocol. -/
theorem kind_of_mem_lines {description : String} {expected : List String} {order : ListOrder}
    {seen : List ReadLine} {outcome : Outcome}
    (h : outcome ∈ lines description expected order seen) : outcome.kind = .protocol := by
  obtain ⟨index, _, rfl⟩ := List.mem_mapIdx.mp h
  rfl

theorem termination_passed_iff (description : String) (seen : ReadLine) :
    (termination description seen).passed = true ↔ seen = .line terminatedLine :=
  line_passed_iff (token_fixedLines _ (by decide)) seen

end Expectation

/-! ## Reading from a process -/

/-- A line that was looked at is kept. -/
theorem LineReader.peeked_peek {reader : LineReader} (h : reader.peek.1 ≠ .timedOut) :
    reader.peek.2.peeked = some reader.peek.1 := by
  cases hpeeked : reader.peeked with
  | some line =>
      rw [peek, hpeeked]
      exact hpeeked
  | none =>
      rw [peek_of_unpeeked hpeeked] at h ⊢
      rw [if_neg h]

namespace Spawned

variable {σ : Type} [Machine σ]

theorem length_readLines (count millis : Nat) (spawned : Spawned) (machine : σ) :
    (readLines count millis spawned machine).1.length = count := by
  induction count generalizing spawned machine with
  | zero => rfl
  | succ n ih => exact congrArg Nat.succ (ih _ _)

theorem length_of_readLines {count millis : Nat} {spawned spawned' : Spawned} {machine machine' : σ}
    {lines : List ReadLine} (h : readLines count millis spawned machine = (lines, spawned', machine')) :
    lines.length = count := by
  rw [← length_readLines count millis spawned machine, h]

/-- Lines are read one after the other. -/
theorem readLines_add {count more millis : Nat} {spawned spawned' spawned'' : Spawned}
    {machine machine' machine'' : σ} {lines lines' : List ReadLine}
    (h : readLines count millis spawned machine = (lines, spawned', machine'))
    (h' : readLines more millis spawned' machine' = (lines', spawned'', machine'')) :
    readLines (count + more) millis spawned machine = (lines ++ lines', spawned'', machine'') := by
  induction count generalizing spawned machine lines with
  | zero =>
      obtain ⟨rfl, rfl, rfl⟩ : [] = lines ∧ spawned = spawned' ∧ machine = machine' := by
        simpa only [readLines, Prod.mk.injEq] using h
      rw [Nat.zero_add, List.nil_append, h']
  | succ n ih =>
      rw [Nat.succ_add, readLines]
      rw [readLines] at h
      rcases hline : spawned.readLine millis machine with ⟨line, next, after⟩
      rcases hrest : readLines n millis next after with ⟨rest, last, left⟩
      rw [hline] at h
      simp only [hrest, Prod.mk.injEq] at h
      obtain ⟨rfl, rfl, rfl⟩ := h
      simp only [ih hrest]
      rfl

/-- One line more is read behind the others. -/
theorem readLines_concat {count millis : Nat} {spawned spawned' spawned'' : Spawned}
    {machine machine' machine'' : σ} {lines : List ReadLine} {line : ReadLine}
    (h : readLines count millis spawned machine = (lines, spawned', machine'))
    (hline : spawned'.readLine millis machine' = (line, spawned'', machine'')) :
    readLines (count + 1) millis spawned machine = (lines ++ [line], spawned'', machine'') := by
  refine readLines_add h ?_
  rw [readLines, hline]
  rfl

/-- Reading is from one process. -/
theorem id_of_readLines {count millis : Nat} {spawned spawned' : Spawned} {machine machine' : σ}
    {lines : List ReadLine} (h : readLines count millis spawned machine = (lines, spawned', machine')) :
    spawned'.id = spawned.id := by
  have hentry := Session.entry_readLines_machine count millis spawned .server machine
  rw [h] at hentry
  exact congrArg Tracked.id hentry

theorem readLine_of_peeked {spawned : Spawned} {line : ReadLine}
    (h : spawned.output.peeked = some line) (millis : Nat) (machine : σ) :
    (spawned.readLine millis machine).1 = line := by
  have hready : spawned.output.isReady = true := by
    rw [LineReader.isReady, h]
    rfl
  rw [readLine, fill, if_pos hready]
  dsimp only
  rw [LineReader.read, h]

/-- **A line that was looked at is not consumed**: it is the next one that is read, whatever happens in
    between. -/
theorem readLine_of_peekLine {millis : Nat} {spawned held : Spawned} {machine after : σ}
    {line : ReadLine} (h : spawned.peekLine millis machine = (line, held, after))
    (hline : line ≠ .timedOut) (millis' : Nat) (machine' : σ) :
    (held.readLine millis' machine').1 = line := by
  have hfirst : (spawned.peekLine millis machine).1 = line := congrArg Prod.fst h
  have hheld : (spawned.peekLine millis machine).2.1 = held := congrArg (·.2.1) h
  have hkept : (spawned.peekLine millis machine).2.1.output.peeked =
      some (spawned.peekLine millis machine).1 := LineReader.peeked_peek fun htimed =>
    hline (hfirst.symm.trans htimed)
  rw [hheld, hfirst] at hkept
  exact readLine_of_peeked hkept millis' machine'

end Spawned

namespace Session

variable {σ α β : Type} {s s' : Session σ}

/-! ## What small actions do -/

theorem ends_print (block : ReportStyle → String) :
    Ends (print block) s fun _ s' => ∃ console, s' = { s with console := console } := ⟨_, rfl⟩

theorem ends_record (outcome : Outcome) : Ends (record outcome) s fun _ s' =>
    ∃ console, s' = { s with report := s.report.record outcome, console := console } := ⟨_, rfl⟩

theorem ends_recordVerdict (outcome : Outcome) : Ends (recordVerdict outcome) s fun passed s' =>
    passed = outcome.passed ∧
      ∃ console, s' = { s with report := s.report.record outcome, console := console } :=
  ⟨rfl, _, rfl⟩

theorem ends_recordAll (outcomes : List Outcome) : Ends (recordAll outcomes) s fun _ s' =>
    ∃ console, s' = { s with report := s.report.recordAll outcomes, console := console } := by
  induction outcomes generalizing s with
  | nil => exact ⟨s.console, rfl⟩
  | cons outcome rest ih =>
      refine ends_bind (ends_record outcome) ?_
      rintro _ _ ⟨console, rfl⟩
      exact ih

variable [Machine σ]

theorem ends_readLine (spawned : Spawned) : Ends (readLine spawned) s fun read s' =>
    ∃ machine, spawned.readLine s.registry.readMillis s.machine = (read.1, read.2, machine) ∧
      s' = { s with machine := machine } :=
  ⟨_, rfl, rfl⟩

theorem ends_readLines (count : Nat) (spawned : Spawned) :
    Ends (readLines count spawned) s fun read s' => ∃ machine,
      Spawned.readLines count s.registry.readMillis spawned s.machine =
        (read.1, read.2, machine) ∧ s' = { s with machine := machine } :=
  ⟨_, rfl, rfl⟩

theorem ends_peekLine (spawned : Spawned) : Ends (peekLine spawned) s fun read s' =>
    ∃ machine, spawned.peekLine s.registry.readMillis s.machine = (read.1, read.2, machine) ∧
      s' = { s with machine := machine } :=
  ⟨_, rfl, rfl⟩

theorem ends_spawn_refused {role : Role} {line : CommandLine} {e : OsError} {machine : σ}
    (h : s.registry.launch line s.machine = (.error e, machine)) :
    Ends (spawn role line) s fun spawned s' =>
      spawned = .error (.spawn (s.registry.programPath line.program) e) ∧
      s' = { s with machine := machine } := by
  rw [Ends, value_spawn, after_spawn, Registry.spawn_of_refused role h]
  exact ⟨rfl, rfl⟩

theorem ends_spawn_started {role : Role} {line : CommandLine} {process : Nat} {machine : σ}
    (h : s.registry.launch line s.machine = (.ok process, machine)) :
    Ends (spawn role line) s fun spawned s' =>
      spawned = .ok ⟨⟨s.registry.nextId⟩, process, .fresh⟩ ∧
      s' = { s with registry := s.registry.track role process, machine := machine } := by
  rw [Ends, value_spawn, after_spawn, Registry.spawn_of_started role h]
  exact ⟨rfl, rfl⟩

theorem ends_wait (id : ProcessId) : Ends (wait id) s fun ended s' => ∃ registry machine,
    s.registry.wait id s.stage.config.timeouts.shutdownMillis s.machine =
      (ended, registry, machine) ∧ s' = { s with registry := registry, machine := machine } :=
  ⟨_, _, rfl, rfl⟩

theorem ends_readConnection (server : Spawned) : Ends (readConnection server) s fun read s' =>
    ∃ waiting connected machine,
      Spawned.readLines 2 s.registry.readMillis server s.machine =
        ([waiting, connected], read.2, machine) ∧
      read.1 = Expectation.handshake waiting connected ∧ s' = { s with machine := machine } := by
  refine ends_bind (ends_readLine server) ?_
  rintro ⟨waiting, server₁⟩ _ ⟨machine₁, hwaiting, rfl⟩
  refine ends_bind (ends_readLine server₁) ?_
  rintro ⟨connected, server₂⟩ _ ⟨machine₂, hconnected, rfl⟩
  refine ⟨waiting, connected, machine₂, ?_, rfl, rfl⟩
  show Spawned.readLines 2 s.registry.readMillis server s.machine =
    ([waiting, connected], server₂, machine₂)
  simp only [Spawned.readLines, hwaiting, hconnected]

/-- **Connections are read two lines at a time**, and each line out of place is told of. -/
theorem ends_readConnections (count : Nat) (server : Spawned) :
    Ends (readConnections count server) s fun read s' => ∃ lines machine,
      Spawned.readLines (2 * count) s.registry.readMillis server s.machine =
        (lines, read.2, machine) ∧
      read.1 = Expectation.outOfPlace 0 lines ∧ s' = { s with machine := machine } := by
  induction count generalizing server s with
  | zero => exact ⟨[], s.machine, rfl, rfl, rfl⟩
  | succ n ih =>
      refine ends_bind (ends_readConnection server) ?_
      rintro ⟨first, server₁⟩ _ ⟨waiting, connected, machine₁, hfirst, rfl, rfl⟩
      refine ends_bind (ih server₁) ?_
      rintro ⟨rest, server₂⟩ _ ⟨lines, machine₂, hrest, rfl, rfl⟩
      refine ⟨waiting :: connected :: lines, machine₂, ?_, ?_, rfl⟩
      · rw [Nat.mul_succ, Nat.add_comm]
        exact Spawned.readLines_add hfirst hrest
      · exact (Expectation.outOfPlace_connection waiting connected lines).symm

/-! ## Clients -/

/-- What is recorded when a process was waited for: nothing if it ended, and that it did not else. -/
def overdue (description expected : String) : Except Fault ExitStatus → List Outcome
  | .ok _ => []
  | .error e => [.infrastructure description expected e.message]

theorem overdue_infrastructure (description expected : String) (ended : Except Fault ExitStatus) :
    ∀ mishap ∈ overdue description expected ended, mishap.isInfrastructureFailure = true := by
  cases ended with
  | ok status => exact nofun
  | error e => exact List.forall_mem_singleton.mpr rfl

/-- Read lines of the server that is held, if one is. -/
def readHeld (count millis : Nat) : Option Spawned → σ → List ReadLine × Option Spawned × σ
  | none, machine => ([], none, machine)
  | some server, machine =>
    let (lines, server, machine) := Spawned.readLines count millis server machine
    (lines, some server, machine)

theorem length_readHeld (count millis : Nat) (held : Option Spawned) (machine : σ) :
    (readHeld count millis held machine).1.length = if held.isSome then count else 0 := by
  cases held with
  | none => rfl
  | some server => exact Spawned.length_readLines count millis server machine

/-- **What the run of a client comes to** that should print some lines. If it cannot be started, that
    is all that is recorded, and nothing is read of the server. If it is started, one outcome for each
    line is recorded, then perhaps that it did not end, and then one for each line out of place among
    those of its connections. Its verdict is that of the lines: the rest is the fault of the
    environment, and counts in the report alone. -/
def ClientRun (description : String) (expected : List String) (order : ListOrder) (request : Request)
    (s : Session σ) (passed : Bool) (s' : Session σ) : Prop :=
  let config := s.stage.config
  let connections := if config.publicKeyFile?.any s.files.exists? then 1 else 2
  match s.registry.launch (config.client.commandLine request) s.machine with
  | (.error _, machine) =>
    passed = false ∧ s'.server = s.server ∧ s'.machine = machine ∧ ∃ message,
      s'.report = s.report.record (.infrastructure description (expected.head?.getD "") message)
  | (.ok process, machine) => ∃ seen client machine₁ ended registry machine₂ lines,
    let checks := Expectation.lines description expected order seen
    let mishaps := overdue "  Client exit" "client exits" ended ++ Expectation.outOfPlace 0 lines
    Spawned.readLines expected.length s.registry.readMillis
      ⟨⟨s.registry.nextId⟩, process, .fresh⟩ machine = (seen, client, machine₁) ∧
    (s.registry.track .client process).wait client.id config.timeouts.shutdownMillis machine₁ =
      (ended, registry, machine₂) ∧
    readHeld (2 * connections) registry.readMillis s.server machine₂ =
      (lines, s'.server, s'.machine) ∧
    lines.length = (if s.server.isSome then 2 * connections else 0) ∧
    checks.length = expected.length ∧ (∀ check ∈ checks, check.kind = .protocol) ∧
    (∀ mishap ∈ mishaps, mishap.isInfrastructureFailure = true) ∧
    s'.report = s.report.recordAll (checks ++ mishaps) ∧
    (passed = true ↔ ∀ check ∈ checks, check.passed = true)

theorem ends_launchClient_refused {description expected : String} {request : Request} {e : OsError}
    {machine : σ}
    (h : s.registry.launch (s.stage.config.client.commandLine request) s.machine =
      (.error e, machine)) :
    Ends (launchClient description expected request) s fun launched s' =>
      launched = none ∧ ∃ message console, s' = { s with
        report := s.report.record (.infrastructure description expected message)
        console := console, machine := machine } := by
  refine ends_get (ends_get (ends_bind (ends_print _) ?_))
  rintro _ _ ⟨console, rfl⟩
  refine ends_bind (ends_spawn_refused h) ?_
  rintro _ _ ⟨rfl, rfl⟩
  refine ends_bind (ends_record _) ?_
  rintro _ _ ⟨console, rfl⟩
  exact ⟨rfl, _, console, rfl⟩

theorem ends_launchClient_started {description expected : String} {request : Request}
    {process : Nat} {machine : σ}
    (h : s.registry.launch (s.stage.config.client.commandLine request) s.machine =
      (.ok process, machine)) :
    Ends (launchClient description expected request) s fun launched s' =>
      launched = some (⟨⟨s.registry.nextId⟩, process, .fresh⟩, s.expectedConnections) ∧
      ∃ console, s' = { s with
        registry := s.registry.track .client process, console := console, machine := machine } := by
  refine ends_get (ends_get (ends_bind (ends_print _) ?_))
  rintro _ _ ⟨console, rfl⟩
  refine ends_bind (ends_spawn_started h) ?_
  rintro _ _ ⟨rfl, rfl⟩
  exact ⟨rfl, console, rfl⟩

theorem ends_consumeConnections (count : Nat) :
    Ends (consumeConnections count) s fun _ s' => ∃ lines server console machine,
      readHeld (2 * count) s.registry.readMillis s.server s.machine = (lines, server, machine) ∧
      s' = { s with
        server := server, report := s.report.recordAll (Expectation.outOfPlace 0 lines)
        console := console, machine := machine } := by
  refine ends_get ?_
  cases hserver : s.server with
  | none =>
      have hsame : { s with server := none } = s := by rw [← hserver]
      exact ⟨[], none, s.console, s.machine, rfl, hsame.symm⟩
  | some server =>
      refine ends_bind (ends_readConnections count server) ?_
      rintro ⟨anomalies, server₁⟩ _ ⟨lines, machine, hlines, rfl, rfl⟩
      refine ends_step ?_
      refine ends_mono (ends_recordAll _) ?_
      rintro _ _ ⟨console, rfl⟩
      refine ⟨lines, some server₁, console, machine, ?_, rfl⟩
      rw [readHeld, hlines]

theorem ends_finishClient (client : Spawned) (connections : Nat) :
    Ends (finishClient client connections) s fun _ s' =>
      ∃ ended registry machine lines server console machine',
        s.registry.wait client.id s.stage.config.timeouts.shutdownMillis s.machine =
          (ended, registry, machine) ∧
        readHeld (2 * connections) registry.readMillis s.server machine =
          (lines, server, machine') ∧
        s' = { s with
          registry := registry, server := server
          report := s.report.recordAll (overdue "  Client exit" "client exits" ended ++
            Expectation.outOfPlace 0 lines)
          console := console, machine := machine' } := by
  refine ends_bind (ends_wait client.id) ?_
  rintro ended _ ⟨registry, machine, hwait, rfl⟩
  cases ended with
  | ok status =>
      refine ends_mono (ends_consumeConnections connections) ?_
      rintro _ _ ⟨lines, server, console, machine', hlines, rfl⟩
      exact ⟨_, registry, machine, lines, server, console, machine', hwait, hlines, rfl⟩
  | error e =>
      refine ends_bind (ends_record _) ?_
      rintro _ _ ⟨console, rfl⟩
      refine ends_mono (ends_consumeConnections connections) ?_
      rintro _ _ ⟨lines, server, console, machine', hlines, rfl⟩
      exact ⟨_, registry, machine, lines, server, console, machine', hwait, hlines, rfl⟩

theorem ends_runLines (description : String) (expected : List String) (order : ListOrder)
    (request : Request) :
    Ends (runLines description expected order request) s
      (ClientRun description expected order request s) := by
  rcases hlaunch : s.registry.launch (s.stage.config.client.commandLine request) s.machine with
    ⟨e | process, machine⟩
  · refine ends_bind (ends_launchClient_refused hlaunch) ?_
    rintro _ _ ⟨rfl, message, console, rfl⟩
    show ClientRun _ _ _ _ _ false _
    rw [ClientRun]
    dsimp only
    rw [hlaunch]
    exact ⟨rfl, rfl, rfl, message, rfl⟩
  · refine ends_bind (ends_launchClient_started hlaunch) ?_
    rintro _ _ ⟨rfl, console, rfl⟩
    refine ends_bind (ends_readLines expected.length _) ?_
    rintro ⟨seen, client⟩ _ ⟨machine₁, hseen, rfl⟩
    refine ends_bind (ends_recordAll _) ?_
    rintro _ _ ⟨console₁, rfl⟩
    refine ends_bind (ends_finishClient client _) ?_
    rintro _ _ ⟨ended, registry, machine₂, lines, server, console₂, machine₃, hwait, hlines, rfl⟩
    have hheld := length_readHeld (2 * s.expectedConnections) registry.readMillis s.server machine₂
    rw [hlines] at hheld
    show ClientRun _ _ _ _ _ (List.all _ _) _
    rw [ClientRun]
    dsimp only
    rw [hlaunch]
    exact ⟨seen, client, machine₁, ended, registry, machine₂, lines, hseen, hwait, hlines, hheld,
      Expectation.length_lines description expected order (Spawned.length_of_readLines hseen),
      fun check => Expectation.kind_of_mem_lines,
      List.forall_mem_append.mpr ⟨overdue_infrastructure _ _ ended,
        Expectation.outOfPlace_infrastructure 0 lines⟩,
      (Report.recordAll_append _ _ _).symm, List.all_eq_true⟩

theorem readLines_one (spawned : Spawned) :
    (readLines 1 spawned : Run σ _) = do
      let (line, spawned) ← readLine spawned
      return ([line], spawned) := rfl

/-- To run a client for one reply is to run it for one line. -/
theorem run_eq_runLines (description : String) (expect : Reply) (request : Request) :
    (run description expect request : Run σ Bool) =
      runLines description [expect.token] .asEmitted request := by
  rw [run, runLines]
  refine bind_congr fun launched => ?_
  cases launched with
  | none => rfl
  | some launched =>
      show (readLine launched.1 >>= _) = (readLines 1 launched.1 >>= _)
      rw [readLines_one, bind_assoc]
      refine bind_congr fun ⟨seen, client⟩ => ?_
      rw [pure_bind]
      have hverdict : [Expectation.line description expect.token seen].all (·.passed) =
          (Expectation.line description expect.token seen).passed := Bool.and_true _
      show (recordVerdict (Expectation.line description expect.token seen) >>= _) =
        (recordAll [Expectation.line description expect.token seen] >>= fun _ =>
          finishClient client launched.2 >>= fun _ =>
            pure ([Expectation.line description expect.token seen].all (·.passed)))
      rw [hverdict, recordVerdict, recordAll, recordAll, bind_assoc, bind_assoc]
      rfl

theorem ends_run (description : String) (expect : Reply) (request : Request) :
    Ends (run description expect request) s
      (ClientRun description [expect.token] .asEmitted request s) := by
  rw [run_eq_runLines]
  exact ends_runLines description [expect.token] .asEmitted request

/-! ## The server -/

/-- What is recorded when a server should wait for its first client: nothing if its next line says so. -/
def unready (next : ReadLine) : List Outcome :=
  if next.actual = waitingLine then []
  else [.infrastructure "  Waiting for server to accept" waitingLine
    ("Unexpected server output: " ++ next.actual)]

/-- **What the start of a server comes to.** Whatever ran before is stopped. If the server cannot be
    started, that is all that is recorded, and none is held. If it is started, one outcome for each line
    of its banner is recorded, and one more if the line behind the banner is not the one that says that
    it waits; that line is not consumed. The verdict is that nothing which was recorded failed. -/
def ServerStart (banner : Banner) (s : Session σ) (ready : Bool) (s' : Session σ) : Prop :=
  let expected := banner.lines s.stage.config.server
  let stopped := stopServer.after s
  match stopped.registry.launch s.stage.config.server.commandLine stopped.machine with
  | (.error _, machine) =>
    ready = false ∧ s'.server = none ∧ s'.machine = machine ∧ ∃ message,
      s'.report = s.report.record (.infrastructure "  Launching server" "server running" message)
  | (.ok process, machine) => ∃ seen spawned machine₁ next server,
    let startup := Expectation.lines "  Startup" expected .asEmitted seen
    Spawned.readLines expected.length stopped.registry.readMillis
      ⟨⟨stopped.registry.nextId⟩, process, .fresh⟩ machine = (seen, spawned, machine₁) ∧
    spawned.peekLine stopped.registry.readMillis machine₁ = (next, server, s'.machine) ∧
    s'.server = some server ∧
    (next ≠ .timedOut → ∀ (millis : Nat) (machine : σ), (server.readLine millis machine).1 = next) ∧
    startup.length = expected.length ∧
    s'.report = s.report.recordAll (startup ++ unready next) ∧
    (ready = true ↔ ∀ outcome ∈ startup ++ unready next, outcome.passed = true)

theorem stopServer_keeps (s : Session σ) : Ends stopServer s fun _ s' =>
    s' = stopServer.after s ∧ s'.stage = s.stage ∧ s'.server = none ∧ s'.report = s.report := by
  cases hserver : s.server with
  | none =>
      rw [Ends, after_stopServer_none hserver]
      exact ⟨rfl, rfl, hserver, rfl⟩
  | some server =>
      rw [Ends, after_stopServer_some hserver]
      exact ⟨rfl, rfl, rfl, rfl⟩

theorem passed_unready_iff (next : ReadLine) :
    (∀ outcome ∈ unready next, outcome.passed = true) ↔ next.actual = waitingLine := by
  rw [unready]
  split
  · next h => exact iff_of_true nofun h
  · next h => exact iff_of_false (fun hall => nomatch hall _ List.mem_cons_self) h

theorem ends_checkReady (spawned : Spawned) : Ends (checkReady spawned) s fun read s' =>
    ∃ next machine console,
      spawned.peekLine s.registry.readMillis s.machine = (next, read.2, machine) ∧
      read.1 = decide (next.actual = waitingLine) ∧
      s' = { s with
        report := s.report.recordAll (unready next), console := console, machine := machine } := by
  refine ends_bind (ends_peekLine spawned) ?_
  rintro ⟨next, held⟩ _ ⟨machine, hpeek, rfl⟩
  dsimp only
  by_cases hready : next.actual = waitingLine
  · rw [if_pos hready]
    refine ⟨next, machine, s.console, hpeek, (decide_eq_true hready).symm, ?_⟩
    rw [unready, if_pos hready]
    rfl
  · rw [if_neg hready]
    refine ends_bind (ends_record _) ?_
    rintro _ _ ⟨console, rfl⟩
    refine ⟨next, machine, console, hpeek, (decide_eq_false hready).symm, ?_⟩
    rw [unready, if_neg hready]
    rfl

theorem ends_startServer (description : String) (banner : Banner) :
    Ends (startServer description banner) s (ServerStart banner s) := by
  refine ends_bind (stopServer_keeps s) ?_
  rintro _ stopped ⟨hstopped, hstage, hnone, hreport⟩
  refine ends_get (ends_bind (ends_print _) ?_)
  rintro _ _ ⟨console, rfl⟩
  refine ends_bind (ends_print _) ?_
  rintro _ _ ⟨console, rfl⟩
  rcases hlaunch : stopped.registry.launch stopped.stage.config.server.commandLine stopped.machine
    with ⟨e | process, machine⟩
  · refine ends_bind (ends_spawn_refused hlaunch) ?_
    rintro _ _ ⟨rfl, rfl⟩
    refine ends_bind (ends_record _) ?_
    rintro _ _ ⟨console, rfl⟩
    show ServerStart _ _ false _
    rw [ServerStart]
    dsimp only
    rw [← hstopped, ← hstage, hlaunch, ← hreport]
    exact ⟨rfl, hnone, rfl, _, rfl⟩
  · refine ends_bind (ends_spawn_started hlaunch) ?_
    rintro _ _ ⟨rfl, rfl⟩
    refine ends_bind (ends_readLines _ _) ?_
    rintro ⟨seen, spawned⟩ _ ⟨machine₁, hseen, rfl⟩
    refine ends_bind (ends_recordAll _) ?_
    rintro _ _ ⟨console₁, rfl⟩
    refine ends_bind (ends_checkReady spawned) ?_
    rintro ⟨ready, server⟩ _ ⟨next, machine₂, console₂, hnext, rfl, rfl⟩
    show ServerStart _ _ (List.all _ _ && decide _) _
    rw [ServerStart]
    dsimp only
    rw [← hstopped, ← hstage, hlaunch, ← hreport]
    refine ⟨seen, spawned, machine₁, next, server, hseen, hnext, rfl,
      Spawned.readLine_of_peekLine hnext,
      Expectation.length_lines _ _ _ (Spawned.length_of_readLines hseen),
      (Report.recordAll_append _ _ _).symm, ?_⟩
    rw [Bool.and_eq_true, List.all_eq_true, decide_eq_true_iff, ← passed_unready_iff,
      List.forall_mem_append]

/-- **What the end of a server comes to.** Without a server that is recorded. With one, three lines are
    read: those of its last connection, each recorded if it is out of place, and the one that says that
    the server has ended, which is recorded in any case; and the server is waited for. The verdict is
    that the last line came as it should and that the process ended in time. -/
def ServerEnd (description : String) (s : Session σ) (passed : Bool) (s' : Session σ) : Prop :=
  let millis := s.stage.config.timeouts.shutdownMillis
  s'.server = none ∧
  match s.server with
  | none =>
    passed = false ∧
    s'.report = s.report.record (.infrastructure description terminatedLine "no server is running")
  | some server => ∃ waiting connected last left machine,
    let ended := (s.registry.wait server.id millis machine).1
    Spawned.readLines 3 s.registry.readMillis server s.machine =
      ([waiting, connected, last], left, machine) ∧
    s'.report = s.report.recordAll (Expectation.outOfPlace 0 [waiting, connected] ++
      Expectation.termination description last :: overdue "  Server exit" "server exits" ended) ∧
    (passed = true ↔ last = .line terminatedLine ∧ ∃ found rest status,
      s.registry.take server.id = some (found, rest) ∧
      (Machine.await machine found.process millis).1 = .ended status)

theorem ends_awaitEnd (server : Spawned) : Ends (awaitEnd server) s fun ended s' =>
    let awaited := (s.registry.wait server.id s.stage.config.timeouts.shutdownMillis s.machine).1
    s'.server = s.server ∧
    s'.report = s.report.recordAll (overdue "  Server exit" "server exits" awaited) ∧
    (ended = true ↔ ∃ status, awaited = .ok status) := by
  refine ends_bind (ends_wait server.id) ?_
  rintro ended _ ⟨registry, machine, hwait, rfl⟩
  rw [hwait]
  cases ended with
  | ok status => exact ⟨rfl, rfl, iff_of_true rfl ⟨status, rfl⟩⟩
  | error e =>
      refine ends_bind (ends_record _) ?_
      rintro _ _ ⟨console, rfl⟩
      exact ⟨rfl, rfl, iff_of_false nofun nofun⟩

theorem ends_awaitServer (description : String) :
    Ends (awaitServer description) s (ServerEnd description s) := by
  refine ends_get ?_
  cases hserver : s.server with
  | none =>
      refine ends_bind (ends_record _) ?_
      rintro _ _ ⟨console, rfl⟩
      show ServerEnd _ _ false _
      rw [ServerEnd, hserver]
      exact ⟨rfl, rfl, rfl⟩
  | some server =>
      have hheld : Ends (holdServer none) s fun _ s' => s' = { s with server := none } := rfl
      refine ends_bind hheld ?_
      rintro _ _ rfl
      refine ends_bind (ends_readConnection server) ?_
      rintro ⟨anomalies, server₁⟩ _ ⟨waiting, connected, machine₁, hconnection, rfl, rfl⟩
      refine ends_bind (ends_recordAll _) ?_
      rintro _ _ ⟨console₁, rfl⟩
      refine ends_bind (ends_readLine server₁) ?_
      rintro ⟨last, server₂⟩ _ ⟨machine₂, hlast, rfl⟩
      refine ends_bind (ends_recordVerdict _) ?_
      rintro _ _ ⟨rfl, console₂, rfl⟩
      refine ends_bind (ends_awaitEnd server₂) ?_
      rintro ended s₁ ⟨hnone, hreport, hended⟩
      have hlines := Spawned.readLines_concat hconnection hlast
      rw [Spawned.id_of_readLines hlines] at hreport hended
      show ServerEnd _ _ ((Expectation.termination description last).passed && ended) _
      rw [ServerEnd, hserver]
      refine ⟨hnone, waiting, connected, last, server₂, machine₂, hlines, ?_, ?_⟩
      · rw [Report.recordAll_append, Expectation.outOfPlace_connection]
        exact hreport.trans (congrArg (fun outcomes => Report.recordAll
          ((s.report.recordAll outcomes).record (Expectation.termination description last)) _)
          (List.append_nil _).symm)
      · rw [Bool.and_eq_true, hended, Expectation.termination_passed_iff,
          Registry.exists_wait_eq_ok_iff]

end Session

end Conformance
