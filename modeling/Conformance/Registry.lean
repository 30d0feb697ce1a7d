import Conformance.Fault
import Conformance.Machine.Basic

/-!
# The registry of processes

Every process that the checker starts is tracked from its start until it was waited for or killed, so
that nothing is left behind and nothing else is ever touched. A process is known by a handle; handles
are numbered upwards and never used again. Whatever comes of waiting for a process, it is not tracked
afterwards; one that does not end in time, or cannot be waited for, is killed first.
-/

namespace Conformance

/-- A handle of a process that the checker started. -/
structure ProcessId where
  number : Nat
deriving DecidableEq, Repr

/-- A process that is tracked: its handle, its role, and its number on the machine. -/
structure Tracked where
  id : ProcessId
  role : Role
  process : Nat
deriving DecidableEq, Repr

/-- A process with its output. -/
structure Spawned where
  id : ProcessId
  process : Nat
  output : LineReader
deriving DecidableEq, Repr

/-- The processes that are tracked, the number of the next handle, where processes are started, and how
    long a read may take. -/
structure Registry where
  workDir : Path
  readMillis : Nat
  nextId : Nat
  tracked : List Tracked
deriving DecidableEq, Repr

/-- The list without the element at a position, whose place the last element takes. -/
def swapRemove {α : Type} (xs : List α) (position : Nat) : List α :=
  match xs.getLast? with
  | none => []
  | some last => (xs.set position last).dropLast

namespace Registry

/-- A registry that tracks nothing. -/
def new (workDir : Path) (readMillis : Nat) : Registry := ⟨workDir, readMillis, 0, []⟩

variable {σ : Type} [Machine σ] (registry : Registry)

/-- The handles of the tracked processes. -/
def ids : List ProcessId := registry.tracked.map Tracked.id

/-- The path by which a program is started: bare names are searched for, other relative names are seen
    from the working directory. -/
def programPath (program : Path) : Path :=
  if program.isBareOrAbsolute then program else registry.workDir.join program

/-- Start a program and track it. -/
def spawn (role : Role) (line : CommandLine) (machine : σ) :
    Except Fault Spawned × Registry × σ :=
  let program := registry.programPath line.program
  match Machine.start machine registry.workDir { line with program := program } with
  | (.error e, machine) => (.error (.spawn program e), registry, machine)
  | (.ok process, machine) =>
    let id : ProcessId := ⟨registry.nextId⟩
    (.ok ⟨id, process, .fresh⟩,
      { registry with
        nextId := registry.nextId + 1
        tracked := registry.tracked ++ [⟨id, role, process⟩] },
      machine)

/-- Stop tracking a process. -/
def take (id : ProcessId) : Option (Tracked × Registry) :=
  match registry.tracked.findIdx? (·.id = id) with
  | none => none
  | some position =>
    match registry.tracked[position]? with
    | none => none
    | some found =>
      some (found, { registry with tracked := swapRemove registry.tracked position })

/-- Wait for a process to end, at most a number of milliseconds, and stop tracking it. One that is late
    is killed, and so is one whose end cannot be waited for. -/
def wait (id : ProcessId) (millis : Nat) (machine : σ) :
    Except Fault ExitStatus × Registry × σ :=
  match registry.take id with
  | none => (.error (.io .untracked), registry, machine)
  | some (found, registry) =>
    match Machine.await machine found.process millis with
    | (.ended status, machine) => (.ok status, registry, machine)
    | (.failed e, machine) =>
      (.error (.io (.os e)), registry, Machine.kill machine found.process)
    | (.late, machine) =>
      (.error (.timeout found.role (millis / 1000)), registry, Machine.kill machine found.process)

/-- Kill a process and stop tracking it. -/
def kill (id : ProcessId) (machine : σ) : Registry × σ :=
  match registry.take id with
  | none => (registry, machine)
  | some (found, registry) => (registry, Machine.kill machine found.process)

/-- Kill everything that is tracked, and tell how much that was. -/
def terminateAll (machine : σ) : Nat × Registry × σ :=
  (registry.tracked.length, { registry with tracked := [] },
    registry.tracked.foldl (fun machine found => Machine.kill machine found.process) machine)

end Registry

namespace Spawned

variable {σ : Type} [Machine σ] (spawned : Spawned)

/-- Receive what the next read needs; nothing if it has arrived already. -/
def fill (millis : Nat) (machine : σ) : Spawned × σ :=
  if spawned.output.isReady then (spawned, machine)
  else
    let (receipt, machine) := Machine.receive machine spawned.process millis
    ({ spawned with output := spawned.output.deliver receipt }, machine)

/-- Take the next line of the output. -/
def readLine (millis : Nat) (machine : σ) : ReadLine × Spawned × σ :=
  let (spawned, machine) := spawned.fill millis machine
  let (line, output) := spawned.output.read
  (line, { spawned with output := output }, machine)

/-- Look at the next line of the output. -/
def peekLine (millis : Nat) (machine : σ) : ReadLine × Spawned × σ :=
  let (spawned, machine) := spawned.fill millis machine
  let (line, output) := spawned.output.peek
  (line, { spawned with output := output }, machine)

/-- Take a number of lines of the output. -/
def readLines : Nat → Nat → Spawned → σ → List ReadLine × Spawned × σ
  | 0, _, spawned, machine => ([], spawned, machine)
  | n + 1, millis, spawned, machine =>
    let (line, spawned, machine) := spawned.readLine millis machine
    let (lines, spawned, machine) := readLines n millis spawned machine
    (line :: lines, spawned, machine)

end Spawned

end Conformance
