import Conformance.Machine.Host.Answer

/-!
# Running a host

A host goes on one answer at a time, and every answer takes time. The checker starts processes on it,
receives what they write, and waits for their ends; while it waits the host runs.
-/

namespace Conformance.Host

variable (host : Host)

/-! ## Time -/

/-- How long one answer takes, in microseconds. -/
def answerTime : Nat := 20

/-- When the next sleeping process wakes. -/
def nextWaking : Option Nat :=
  (host.processes.filterMap fun process =>
    if process.ended.isNone then process.wakeAt else none).min?

/-- Answer the first process that need not wait; if all have to, let time pass until one wakes. Nothing
    goes on past the deadline. -/
def step (deadline : Nat) : Host :=
  match host.processes.findSome? host.perform with
  | some next => { next with clock := next.clock + answerTime }
  | none => { host with clock := min deadline (max (host.clock + 1) (host.nextWaking.getD deadline)) }

/-- Let time pass until a condition holds or the deadline is reached. Every step takes time, so there
    are no more steps than microseconds. -/
def run (condition : Host → Bool) (deadline : Nat) : Nat → Host → Host
  | 0, host => host
  | steps + 1, host =>
    if condition host ∨ deadline ≤ host.clock then host
    else run condition deadline steps (host.step deadline)

/-- Let time pass until a condition holds, but no longer than a number of microseconds. -/
def runFor (condition : Host → Bool) (micros : Nat) : Host :=
  host.run condition (host.clock + micros) micros

/-! ## Processes that the checker started -/

/-- Start a program in a directory, with nothing to read and its output in a pipe. -/
def start (directory : Path) (line : CommandLine) : Except OsError Nat × Host :=
  let found := do
    let place ← host.files.locate host.files.home directory
    match host.files.get? place with
    | some .directory =>
      let program ← host.findProgram place line.program line.args
      .ok (place, program)
    | some _ => .error .notDirectory
    | none => .error .notFound
  match found with
  | .error e => (.error e, host)
  | .ok (place, program) =>
    let number := host.unused
    let pipe := number + 1
    let blank : Process :=
      ⟨number, Process.checker, program [], none, none, none, place, [], [], []⟩
    let host := { host with unused := number + 2, outputs := (number, pipe) :: host.outputs }
    let (_, process, host) := host.attach blank (.device .null) { reading := true }
    let (_, process, host) := host.attach process (.pipe pipe) { writing := true }
    let (_, process, host) := host.attach process (.device .null) { writing := true }
    (.ok number, host.put process)

/-- How many bytes are received at once. -/
def receiveUnit : Nat := 8192

/-- Receive from a pipe until there is a line feed among what was received or nothing more can come, or
    until the deadline. -/
def receiveFrom (pipe deadline : Nat) : Nat → List Arrival → Host → Receipt × Host
  | 0, arrived, host => (⟨arrived.reverse, false⟩, host)
  | rounds + 1, arrived, host =>
    let ready := fun (host : Host) => !(host.held pipe).isEmpty || !host.hasWriter pipe
    let host := host.run ready deadline (deadline - host.clock)
    let content := host.held pipe
    if content.isEmpty then (⟨arrived.reverse, !host.hasWriter pipe⟩, host)
    else
      let chunk := content.take receiveUnit
      let host := host.hold pipe (content.drop receiveUnit)
      if chunk.contains 10 then (⟨(.bytes chunk :: arrived).reverse, false⟩, host)
      else receiveFrom pipe deadline rounds (.bytes chunk :: arrived) host

/-- Receive output of a process. -/
def receive (process millis : Nat) : Receipt × Host :=
  match host.outputs.lookup process with
  | none => (⟨[], true⟩, host)
  | some pipe =>
    let micros := millis * 1000
    receiveFrom pipe (host.clock + micros) (8 * micros + 9) [] host

/-- Whether a process has ended. -/
def hasEnded (number : Nat) (host : Host) : Bool :=
  match host.process? number with
  | none => true
  | some process => process.ended.isSome

/-- Wait for the end of a process. -/
def await (number millis : Nat) : Awaited × Host :=
  let host := host.runFor (hasEnded number) (millis * 1000)
  match (host.process? number).bind Process.ended with
  | some status => (.ended status, host.forget number)
  | none => (.late, host)

/-- Kill a process. -/
def kill (number : Nat) : Host :=
  match host.process? number with
  | none => host
  | some process =>
    if process.ended.isSome then host.forget number
    else (host.finish process (.signalled killSignal)).forget number

instance : Machine Host where
  files := Host.files
  withFiles host files := { host with files := files }
  start := Host.start
  receive := Host.receive
  await := Host.await
  kill := Host.kill

end Conformance.Host
