import Conformance.Machine.Program

/-!
# Hosts

A host runs programs: files, processes with their descriptors, and pipes. Descriptors refer to open
files, which processes share; a pipe keeps what was written until it is read.
-/

namespace Conformance

/-- What an open file refers to. -/
inductive Target where
  | place (place : Place)
  | pipe (number : Nat)
  | device (which : Device)
deriving DecidableEq, Repr

/-- An open file: what it refers to, how it was opened, and how far it was read or written. -/
structure OpenFile where
  number : Nat
  target : Target
  mode : OpenMode
  offset : Nat
deriving DecidableEq, Repr

/-- A process. One that has ended is kept until its parent has learnt of it. -/
structure Process where
  number : Nat
  parent : Nat
  program : Program
  ended : Option ExitStatus
  /-- When a sleeping process wakes. -/
  wakeAt : Option Nat
  /-- The descriptor of a pipe that waits for its other end. -/
  opened : Option Nat
  directory : Place
  descriptors : List (Nat × Nat)
  /-- What the process does about signals, where that is not the usual. -/
  dispositions : List (Nat × Disposition)
  /-- The signals that were noted, last one first. -/
  noted : List Nat

/-- A host at one moment. -/
structure Host where
  files : FileSystem
  catalog : Catalog
  /-- Microseconds since the host was started. -/
  clock : Nat
  processes : List Process
  openFiles : List OpenFile
  pipes : List (Nat × Bytes)
  /-- The pipe that holds the output of each process that the checker started. -/
  outputs : List (Nat × Nat)
  /-- The next number for a process, an open file or a pipe. -/
  unused : Nat

/-- The parent of processes that the checker started. -/
def Process.checker : Nat := 0

/-- The parent of processes whose parent has ended. -/
def Process.nobody : Nat := 1

namespace Host

/-- The first number that is given to a process. -/
def firstNumber : Nat := 1000

/-- A host with files on which nothing runs. -/
def new (catalog : Catalog) (files : FileSystem) : Host where
  files := files
  catalog := catalog
  clock := 0
  processes := []
  openFiles := []
  pipes := []
  outputs := []
  unused := firstNumber

variable (host : Host)

/-! ## Open files and pipes -/

/-- How many bytes a pipe holds. -/
def pipeCapacity : Nat := 65536

/-- Up to this many bytes are written to a pipe at once or not at all. -/
def pipeUnit : Nat := 4096

/-- What a pipe holds. -/
def held (pipe : Nat) : Bytes := (host.pipes.lookup pipe).getD []

/-- Change what a pipe holds. -/
def hold (pipe : Nat) (content : Bytes) : Host :=
  { host with pipes := (pipe, content) :: host.pipes.filter (·.1 ≠ pipe) }

/-- Whether somebody can still write to a pipe. -/
def hasWriter (pipe : Nat) : Bool :=
  host.openFiles.any fun entry => entry.target = .pipe pipe && entry.mode.writing

/-- Whether somebody can still read from a pipe. -/
def hasReader (pipe : Nat) : Bool :=
  host.outputs.any (·.2 = pipe) ||
    host.openFiles.any fun entry => entry.target = .pipe pipe && entry.mode.reading

/-- Forget open files that no process refers to, and what nobody can read. -/
def tidy : Host :=
  let openFiles := host.openFiles.filter fun entry =>
    host.processes.any fun process => process.descriptors.any (·.2 = entry.number)
  let pipes := host.pipes.filter fun pipe =>
    host.outputs.any (·.2 = pipe.1) || openFiles.any (·.target = .pipe pipe.1)
  { host with openFiles := openFiles, pipes := pipes }

/-- The open file behind a descriptor of a process. -/
def openFile? (process : Process) (descriptor : Nat) : Option OpenFile :=
  (process.descriptors.lookup descriptor).bind fun number =>
    host.openFiles.find? (·.number = number)

/-- Change how far an open file was read or written. -/
def seek (entry : OpenFile) (offset : Nat) : Host :=
  { host with
    openFiles := host.openFiles.map fun other =>
      if other.number = entry.number then { other with offset := offset } else other }

/-! ## Processes -/

/-- Put a process behind all others. -/
def put (process : Process) : Host :=
  { host with processes := host.processes.filter (·.number ≠ process.number) ++ [process] }

/-- Let a process go on. -/
def proceed (process : Process) (program : Program) : Host :=
  host.put { process with program := program }

/-- A process by its number. -/
def process? (number : Nat) : Option Process := host.processes.find? (·.number = number)

/-- Forget a process. -/
def forget (number : Nat) : Host :=
  { host with processes := host.processes.filter (·.number ≠ number) }

/-- What becomes of a process when another one ends: it loses its parent, and if it has ended too there
    is nobody to learn of it. -/
def orphan (parent : Nat) (process : Process) : Option Process :=
  if process.parent ≠ parent then some process
  else if process.ended.isSome then none
  else some { process with parent := Process.nobody }

/-- End a process. -/
def finish (process : Process) (status : ExitStatus) : Host :=
  let others := (host.forget process.number).processes.filterMap (orphan process.number)
  let rest :=
    if process.parent = Process.nobody then []
    else [{ process with ended := some status, program := .exit 0, descriptors := [] }]
  { host with processes := others ++ rest }.tidy

/-- The least descriptor that a process does not use, from a number on. -/
def freeDescriptor (process : Process) (least : Nat) : Nat :=
  let used := process.descriptors.map (·.1)
  ((List.range (used.length + 1)).find? fun n => least + n ∉ used).getD 0 + least

/-- Give a process a descriptor of a new open file. -/
def attach (process : Process) (target : Target) (mode : OpenMode) : Nat × Process × Host :=
  let descriptor := freeDescriptor process 0
  let number := host.unused
  (descriptor,
    { process with descriptors := (descriptor, number) :: process.descriptors },
    { host with
      openFiles := ⟨number, target, mode, 0⟩ :: host.openFiles
      unused := number + 1 })

end Host

end Conformance
