import Conformance.FileSystem
import Conformance.Machine.Basic

/-!
# Programs

A program is what it does next: end, or ask the machine for something and go on with the answer. A
running program is therefore a value, and what it will do depends on nothing but the answers it gets.

`Task` is a piece of a program that gives a value: it takes what is to be done with the value. Tasks
form a monad, in which programs are written.
-/

namespace Conformance

/-- How a file is opened. -/
structure OpenMode where
  reading : Bool := false
  writing : Bool := false
  appending : Bool := false
  creating : Bool := false
  truncating : Bool := false
deriving DecidableEq, Repr

namespace OpenMode

/-- For reading what is there. -/
def input : OpenMode := { reading := true }

/-- For writing from the start, made if it is not there. -/
def output : OpenMode := { writing := true, creating := true, truncating := true }

/-- For writing at the end, made if it is not there. -/
def append : OpenMode := { writing := true, appending := true, creating := true }

/-- For reading and writing from the start, made if it is not there. -/
def both : OpenMode := { reading := true, writing := true, creating := true }

end OpenMode

/-- What is known of what stands at a path. -/
inductive FileKind where
  | file
  | directory
  | pipe
  | device
deriving DecidableEq, Repr

/-- What a program can learn about what stands at a path. -/
structure FileInfo where
  kind : FileKind
  size : Nat
  executable : Bool
  readable : Bool
deriving DecidableEq, Repr

/-- What a process does about a signal. -/
inductive Disposition where
  | usual
  | ignored
  | noted
deriving DecidableEq, Repr

/-- A change that a program asks for: of files, or of its own descriptors, directory and dealing with
    signals. -/
inductive Change where
  | makeDirectory (path : Path)
  | makePipe (path : Path)
  | removeFile (path : Path)
  | removeDirectory (path : Path)
  | rename (old new : Path)
  | setExecutable (path : Path) (executable : Bool)
  | enter (path : Path)
  | duplicate (source target : Nat)
  | close (descriptor : Nat)
  | handle (signal : Nat) (disposition : Disposition)
deriving DecidableEq, Repr

/-- The variables that a program is given. -/
abbrev Environment := List (String × String)

/-- What a program does next. -/
inductive Program where
  | exit (code : Nat)
  | rest (next : Unit → Program)
  | sleep (micros : Nat) (next : Unit → Program)
  | openFile (path : Path) (mode : OpenMode) (next : Except OsError Nat → Program)
  | read (descriptor count : Nat) (next : Except OsError Bytes → Program)
  | write (descriptor : Nat) (bytes : Bytes) (next : Except OsError Unit → Program)
  | makeChannel (next : Nat × Nat → Program)
  | inspect (path : Path) (next : Except OsError FileInfo → Program)
  | names (path : Path) (next : Except OsError (List String) → Program)
  | change (what : Change) (next : Except OsError Unit → Program)
  | whereAmI (next : Path → Program)
  | whoAmI (next : Nat → Program)
  | fork (child : Program) (next : Nat → Program)
  | become (program : Path) (args : List String) (environment : Environment)
      (refused : OsError → Program)
  | await (process : Option Nat) (next : Option (Nat × ExitStatus) → Program)
  | signal (process number : Nat) (next : Except OsError Unit → Program)
  | notedSignals (next : List Nat → Program)

/-- Programs by the name or path under which they are found. Each takes its arguments and its
    environment. -/
abbrev Catalog := String → Option (List String → Environment → Program)

/-- A piece of a program that gives a value. -/
def Task (α : Type) : Type := (α → Program) → Program

namespace Task

instance : Monad Task where
  pure value := fun next => next value
  bind task following := fun next => task fun value => following value next

/-- End the program. -/
def exit {α : Type} (code : Nat) : Task α := fun _ => Program.exit code

/-- Let other programs go on. -/
def rest : Task Unit := Program.rest

/-- Sleep for a time. -/
def sleep (micros : Nat) : Task Unit := Program.sleep micros

/-- Open a file. -/
def openFile (path : Path) (mode : OpenMode) : Task (Except OsError Nat) := Program.openFile path mode

/-- Read at most a number of bytes; none at the end. -/
def read (descriptor count : Nat) : Task (Except OsError Bytes) := Program.read descriptor count

/-- Write bytes, all of them. -/
def write (descriptor : Nat) (bytes : Bytes) : Task (Except OsError Unit) :=
  Program.write descriptor bytes

/-- Make a channel: a descriptor to read from, and one to write to. -/
def makeChannel : Task (Nat × Nat) := Program.makeChannel

/-- Learn what stands at a path. -/
def inspect (path : Path) : Task (Except OsError FileInfo) := Program.inspect path

/-- The names in a directory. -/
def names (path : Path) : Task (Except OsError (List String)) := Program.names path

/-- Change something. -/
def change (what : Change) : Task (Except OsError Unit) := Program.change what

/-- Close a descriptor. -/
def close (descriptor : Nat) : Task Unit := fun next => Program.change (.close descriptor) fun _ => next ()

/-- The directory in which the program runs. -/
def whereAmI : Task Path := Program.whereAmI

/-- The number of the process. -/
def whoAmI : Task Nat := Program.whoAmI

/-- Start a process that runs another piece of the program, with the same descriptors. -/
def fork (child : Program) : Task Nat := Program.fork child

/-- Become another program; the answer comes only if that is refused. -/
def become (program : Path) (args : List String) (environment : Environment) : Task OsError :=
  Program.become program args environment

/-- Wait for the end of one child, or of any. -/
def await (process : Option Nat) : Task (Option (Nat × ExitStatus)) := Program.await process

/-- Send a signal to a process. -/
def signal (process number : Nat) : Task (Except OsError Unit) := Program.signal process number

/-- The signals that came since they were asked for, first one first. -/
def notedSignals : Task (List Nat) := Program.notedSignals

end Task

/-- A bound on how often a program goes round; no program comes near it. -/
def lifetime : Nat := Nat.pow 2 50

end Conformance
