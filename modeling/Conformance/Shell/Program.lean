import Conformance.Shell.Run

/-!
# The shell as a program

The command line of the shell: options, then a script in a file, a script that is given as an argument,
or a script that is read from descriptor 0, and the arguments of the script.
-/

namespace Conformance.Shell

open Act

/-- Where the script comes from. -/
inductive Source where
  | input
  | file (path : Chars)
  | given (script : Chars)
deriving DecidableEq, Repr

/-- What the shell takes from its command line. -/
structure Invocation where
  source : Source
  name : Chars
  arguments : List Chars
  options : List Char
deriving DecidableEq, Repr

namespace Invocation

/-- Read a command line. The flag tells whether the script is an argument. -/
def ofArgs (options : List Char) (isGiven isInput : Bool) : List Chars → Invocation
  | ['-', '-'] :: rest => ofOperands options isGiven isInput rest
  | ['-', 'o'] :: name :: rest =>
    ofArgs (options ++ (Builtin.longOptions.lookup (String.ofList name)).toList) isGiven isInput rest
  | ('-' :: c :: letters) :: rest =>
    let all := c :: letters
    let kept := all.filter fun letter => letter ≠ 'c' ∧ letter ≠ 's' ∧ letter ≠ 'i'
    ofArgs (options ++ kept) (isGiven || all.contains 'c') (isInput || all.contains 's') rest
  | ('+' :: c :: letters) :: rest =>
    ofArgs (options.filter fun letter => !(c :: letters).contains letter) isGiven isInput rest
  | operands => ofOperands options isGiven isInput operands
where
  /-- Read what follows the options. -/
  ofOperands (options : List Char) (isGiven isInput : Bool) (operands : List Chars) : Invocation :=
    match isGiven, isInput, operands with
    | true, _, script :: name :: arguments => ⟨.given script, name, arguments, options⟩
    | true, _, [script] => ⟨.given script, ['s', 'h'], [], options⟩
    | true, _, [] => ⟨.given [], ['s', 'h'], [], options⟩
    | false, true, arguments => ⟨.input, ['s', 'h'], arguments, options⟩
    | false, false, path :: arguments => ⟨.file path, path, arguments, options⟩
    | false, false, [] => ⟨.input, ['s', 'h'], [], options⟩

end Invocation

/-- The variables that a shell begins with: those it is given, and a few that it needs. -/
def initialVariables (environment : Environment) (directory : Path) : List (Chars × Variable) :=
  let inherited := environment.filterMap fun (name, value) =>
    let name := Text.narrow name
    if isName name then some (name, (⟨some (Text.narrow value), true, false⟩ : Variable)) else none
  let own : List (Chars × Variable) :=
    [("IFS".toList, ⟨some [' ', '\t', '\n'], false, false⟩),
      ("OPTIND".toList, ⟨some ['1'], false, false⟩),
      ("PATH".toList, ⟨some usualPath, true, false⟩),
      ("PWD".toList, ⟨some (Text.narrow directory), true, false⟩)]
  let isInherited := fun (entry : Chars × Variable) =>
    entry.1 = "PATH".toList && inherited.any (·.1 = entry.1)
  let kept := own.filter fun entry => !isInherited entry
  kept ++ inherited.filter fun entry => !kept.any (·.1 = entry.1)

/-- What a shell knows when it begins. -/
def initialMemory (invocation : Invocation) (environment : Environment) (process : Nat)
    (directory : Path) : Memory where
  bindings := initialVariables environment directory
  functions := []
  hidden := []
  arguments := invocation.arguments
  name := invocation.name
  line := 0
  status := 0
  takenStatus := 0
  process := process
  lastBackground := none
  options := invocation.options.eraseDups
  traps := []
  spare := 10
  loops := 0
  calls := 0
  tests := 0
  optionIndex := 1
  optionOffset := 0

/-- The script that is to be run. -/
def scriptOf : Source → Task (Except OsError Chars)
  | .given script => return .ok script
  | .input => do return (← Task.readAll 0).map Text.octets
  | .file path => do return (← Task.load (Text.widen path)).map Text.octets

/-- Run the script. -/
def runInvocation (invocation : Invocation) : Act Unit := do
  match ← lift (scriptOf invocation.source) with
  | .error _ =>
    complain ("cannot open " ++ Text.widen invocation.name ++ ": No such file")
    setStatus 2
  | .ok script =>
    let evaluator := evaluate lifetime
    let endsToo :=
      match invocation.source with
      | .given _ => true
      | _ => false
    closing evaluator (runScript evaluator endsToo script)

/-- The shell. -/
def program (args : List String) (environment : Environment) : Program :=
  let invocation := Invocation.ofArgs [] false false (args.map Text.narrow)
  (do
    let process ← Task.whoAmI
    let directory ← Task.whereAmI
    let memory := initialMemory invocation environment process directory
    fun _ => Act.program (runInvocation invocation) memory : Task Unit) fun _ => .exit 0

/-- The shell under its names. -/
def catalog : Catalog := fun name =>
  match Tool.plainName name with
  | "sh" | "dash" | "ash" => some program
  | _ => none

end Conformance.Shell
