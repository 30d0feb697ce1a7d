import Conformance.Machine.Tasks
import Conformance.Shell.Arithmetic
import Conformance.Shell.Fields

/-!
# What a shell knows

The state of a running shell, and `Act`: a piece of a shell's work, which uses that state, may ask
the machine for something, and may leave the commands around it before their end.
-/

namespace Conformance.Shell

/-- A variable. It may be marked before it has a value. -/
structure Variable where
  value : Option Chars
  exported : Bool
  readOnly : Bool
deriving DecidableEq, Repr

/-- The state of a shell. -/
structure Memory where
  bindings : List (Chars × Variable)
  functions : List (Chars × Command)
  /-- The variables of a function that is being called, as they were before it. -/
  hidden : List (Chars × Option Variable)
  arguments : List Chars
  /-- The name of the shell or script. -/
  name : Chars
  /-- The line of the script on which the command stands. -/
  line : Nat
  status : Nat
  /-- The status of the last commands whose output was taken. -/
  takenStatus : Nat
  process : Nat
  lastBackground : Option Nat
  options : List Char
  /-- What is to be done when a signal comes; number 0 stands for the end of the shell. -/
  traps : List (Nat × Chars)
  /-- The next descriptor under which another one is kept for later. -/
  spare : Nat
  /-- How many loops are around the command. -/
  loops : Nat
  /-- How many calls of functions are around the command. -/
  calls : Nat
  /-- How many commands are around this one that only ask for its status. -/
  tests : Nat
  /-- The number of the argument at which the reading of options goes on. -/
  optionIndex : Nat
  /-- How much was read of the argument in front of it; zero if all of it. -/
  optionOffset : Nat

/-- Why commands are left before their end: a loop is left or goes on, a function or script is left, the
    shell is to end, or there was a mistake that ends it if nothing tolerates it. -/
inductive Jump where
  | leave (loops : Nat)
  | goOn (loops : Nat)
  | back
  | exit
  | mistake
deriving DecidableEq, Repr

/-- A piece of a shell's work. -/
abbrev Act := ExceptT Jump (StateT Memory Task)

namespace Act

/-- Do something and tell how it ended, also if it leaves the commands around it. -/
def attempt {α : Type} (action : Act α) : Act (Except Jump α) :=
  ExceptT.mk do return .ok (← action.run)

/-- Do something, then something else in any case, and go on as the first ended. -/
def andFinally {α : Type} (action : Act α) (cleanup : Act Unit) : Act α := do
  let outcome ← attempt action
  cleanup
  match outcome with
  | .ok value => return value
  | .error jump => throw jump

/-- Carry out a task. -/
def lift {α : Type} (task : Task α) : Act α := ExceptT.lift (StateT.lift task)

/-- The shell's work as a program that ends in the shell's status. -/
def program (action : Act Unit) (memory : Memory) : Program :=
  (StateT.run (ExceptT.run action) memory) fun (_, final) => Program.exit final.status

/-- Set the status. -/
def setStatus (status : Nat) : Act Unit := modify fun memory => { memory with status := status }

/-- Say something where problems are told. -/
def complain (problem : String) : Act Unit := do
  let memory ← get
  lift (Task.complain
    (Text.widen memory.name ++ ": " ++ Text.decimal memory.line ++ ": " ++ problem))

/-- Complain about a mistake, which ends the shell if nothing tolerates it. -/
def abandon {α : Type} (problem : String) : Act α := do
  complain problem
  setStatus 2
  throw .mistake

/-- Do something and go on after a mistake. -/
def tolerate (action : Act Unit) : Act Unit := do
  match ← attempt action with
  | .ok () | .error .mistake => return ()
  | .error jump => throw jump

/-- Do something as if nothing around it asked for its status. -/
def untested (action : Act Unit) : Act Unit := do
  let tests := (← get).tests
  modify fun memory => { memory with tests := 0 }
  andFinally action <| modify fun memory => { memory with tests := tests }

end Act

open Act

/-! ## Variables -/

/-- The value of a variable. -/
def Memory.value? (memory : Memory) (name : Chars) : Option Chars :=
  (memory.bindings.lookup name).bind Variable.value

/-- Replace or forget a variable. -/
def Memory.setVariable (memory : Memory) (name : Chars) (new : Option Variable) : Memory :=
  let others := memory.bindings.filter (·.1 ≠ name)
  { memory with
    bindings :=
      match new with
      | some v => (name, v) :: others
      | none => others }

/-- The argument at which the reading of options goes on when the variable that tells it is assigned. -/
def Memory.resumeOptions (memory : Memory) (name value : Chars) : Memory :=
  if name = "OPTIND".toList then
    { memory with optionIndex := (Text.digits? value).getD 1, optionOffset := 0 }
  else memory

/-- Give a variable a value. Those that are for reading only end the shell. -/
def assign (name value : Chars) : Act Unit := do
  let memory ← get
  let old := (memory.bindings.lookup name).getD ⟨none, false, false⟩
  if old.readOnly then abandon (Text.widen name ++ ": is read only")
  let exported := old.exported || memory.options.contains 'a'
  let memory := memory.resumeOptions name value
  set (memory.setVariable name (some { old with value := some value, exported := exported }))

/-- The characters at which fields are split. -/
def Memory.separators (memory : Memory) : Chars :=
  (memory.value? "IFS".toList).getD [' ', '\t', '\n']

/-- The variables that programs are given. -/
def Memory.environment (memory : Memory) : Environment :=
  memory.bindings.reverse.filterMap fun (name, v) =>
    match v.exported, v.value with
    | true, some value => some (Text.widen name, Text.widen value)
    | _, _ => none

/-- Whether an option of the shell is set. -/
def Memory.hasOption (memory : Memory) (letter : Char) : Bool := memory.options.contains letter

/-! ## Parameters -/

/-- The value of a parameter, if it has one. All arguments together are joined by the first
    separator. -/
def Memory.parameter? (memory : Memory) (name : Chars) : Option Chars :=
  match name with
  | ['@'] =>
    if memory.arguments.isEmpty then none else some (List.intercalate [' '] memory.arguments)
  | ['*'] =>
    if memory.arguments.isEmpty then none
    else some (List.intercalate (memory.separators.take 1) memory.arguments)
  | ['#'] => some (numeral (Int.ofNat memory.arguments.length))
  | ['?'] => some (numeral (Int.ofNat memory.status))
  | ['$'] => some (numeral (Int.ofNat memory.process))
  | ['!'] => memory.lastBackground.map fun n => numeral (Int.ofNat n)
  | ['-'] => some memory.options
  | name =>
    match Text.digits? name with
    | some 0 => some memory.name
    | some n => memory.arguments[n - 1]?
    | none => memory.value? name

/-! ## The knot

Expanding a word may need commands to be run, and running commands needs words to be expanded. Both are
given by one function from what is to be evaluated, which the parts of the shell take as an argument. -/

/-- What is to be evaluated: commands, with whether the process ends with them, or pieces of a word. -/
inductive Work where
  | commands (isLast : Bool) (body : List Command)
  | pieces (isQuoted : Bool) (pieces : Word)

/-- A way to evaluate. Commands give no glyphs. -/
abbrev Evaluator := Work → Act (List Glyph)

namespace Evaluator

/-- Run commands. -/
def run (evaluator : Evaluator) (isLast : Bool) (body : List Command) : Act Unit := do
  let _ ← evaluator (.commands isLast body)

/-- Expand pieces of a word. -/
def expand (evaluator : Evaluator) (isQuoted : Bool) (pieces : Word) : Act (List Glyph) :=
  evaluator (.pieces isQuoted pieces)

end Evaluator

/-- The status that tells how a process ended. -/
def statusOf : ExitStatus → Nat
  | .exited code => code
  | .signalled signal => 128 + signal

/-- The state in which another process goes on with the shell's work. Of the traps, it keeps those that
    do nothing. -/
def Memory.forked (memory : Memory) : Memory :=
  { memory with traps := memory.traps.filter (·.2.isEmpty), loops := 0, tests := 0 }

/-- What a process does about a signal for which there is a trap. -/
def trapDisposition (script : Chars) : Disposition := if script.isEmpty then .ignored else .noted

/-- Set what is done when a signal comes, or leave it to the machine. -/
def setTrap (signal : Nat) (script : Option Chars) : Act Unit := do
  modify fun memory =>
    let others := memory.traps.filter (·.1 ≠ signal)
    { memory with
      traps :=
        match script with
        | some script => others ++ [(signal, script)]
        | none => others }
  if signal ≠ 0 then
    let disposition :=
      match script with
      | some script => trapDisposition script
      | none => .usual
    let _ ← lift (Task.change (.handle signal disposition))

/-- Leave signals to the machine. -/
def dropTraps : List (Nat × Chars) → Act Unit
  | [] => return ()
  | (signal, script) :: rest => do
    if signal ≠ 0 ∧ !script.isEmpty then
      let _ ← lift (Task.change (.handle signal .usual))
    dropTraps rest

end Conformance.Shell
