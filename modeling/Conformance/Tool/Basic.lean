import Conformance.Machine.Tasks
import Conformance.Text.Octets

/-!
# Tools

Small programs that work on files and text, and what they share: options in front of operands, and
input that comes from the files that are named or else from descriptor 0.
-/

namespace Conformance

/-- A tool: what it does with its arguments, and the status in which it ends. -/
abbrev Tool := List Chars → Task Nat

namespace Tool

/-- A tool as a program. -/
def program (tool : Tool) (args : List String) (_ : Environment) : Program :=
  tool (args.map Text.narrow) Program.exit

/-- The status for success or failure. -/
def statusOf (success : Bool) : Nat := if success then 0 else 1

/-- Print characters. -/
def put (text : Chars) : Task Unit := Task.print (Text.ofOctets text)

/-- Print a text. -/
def putText (text : String) : Task Unit := Task.print (Text.encode text)

/-- Complain in the name of a tool. -/
def complain (tool problem : String) : Task Unit := Task.complain (tool ++ ": " ++ problem)

/-- What a tool does that has no more to say than what is wrong: a status, and problems to complain
    about. -/
abbrev Judgement := List Chars → Task (Nat × List String)

/-- A judgement as a tool of a name. -/
def judging (name : String) (judgement : Judgement) : Tool := fun args => do
  let (status, problems) ← judgement args
  Task.forEach (complain name) problems
  return status

/-! ## Options -/

/-- An option of one letter, with its value if it takes one. -/
structure Flag where
  letter : Char
  value : Chars := []
deriving DecidableEq, Repr

/-- Options and the operands that follow them. -/
structure Arguments where
  options : List Flag
  operands : List Chars
deriving DecidableEq, Repr

namespace Arguments

/-- Whether an option is given. -/
def has (args : Arguments) (letter : Char) : Bool := args.options.any (·.letter = letter)

/-- The value of an option, of the last one if there are more. -/
def value? (args : Arguments) (letter : Char) : Option Chars :=
  (args.options.reverse.find? (·.letter = letter)).map Flag.value

end Arguments

/-- The options in one argument, behind its dash; nothing for a letter that is no option. The flag tells
    whether the last option still lacks its value. -/
def cluster? (plain valued : List Char) : Chars → Option (List Flag × Option Char)
  | [] => some ([], none)
  | c :: rest =>
    if valued.contains c then
      if rest.isEmpty then some ([], some c) else some ([⟨c, rest⟩], none)
    else if plain.contains c then
      (cluster? plain valued rest).map fun (found, lacking) => (⟨c, []⟩ :: found, lacking)
    else none

/-- Options in front of operands: letters behind a dash, those in one list alone and those in the other
    with a value. Two dashes end the options. The error is the argument that cannot be read. -/
def arguments? (plain valued : String) : List Chars → Except Chars Arguments
  | ['-', '-'] :: rest => .ok ⟨[], rest⟩
  | ('-' :: c :: letters) :: rest =>
    match cluster? plain.toList valued.toList (c :: letters) with
    | none => .error ('-' :: c :: letters)
    | some (found, none) => do
      let later ← arguments? plain valued rest
      .ok { later with options := found ++ later.options }
    | some (found, some lacking) =>
      match rest with
      | [] => .error ('-' :: c :: letters)
      | value :: rest => do
        let later ← arguments? plain valued rest
        .ok { later with options := found ++ ⟨lacking, value⟩ :: later.options }
  | operands => .ok ⟨[], operands⟩

/-- Go on with the options and operands, or complain. -/
def withArguments (tool plain valued : String) (args : List Chars) (run : Arguments → Task Nat) :
    Task Nat := do
  match arguments? plain valued args with
  | .ok found => run found
  | .error arg => complain tool ("invalid option '" ++ Text.widen arg ++ "'"); return 1

/-! ## Input -/

/-- The content of an operand; a dash stands for descriptor 0. -/
def content (operand : Chars) : Task (Except OsError Bytes) :=
  if operand = ['-'] then Task.readAll 0 else Task.load (Text.widen operand)

/-- The contents of operands in their order, without those that cannot be read, and whether all could
    be. -/
def contents (tool : String) : List Chars → Task (List (Chars × Bytes) × Bool)
  | [] => return ([], true)
  | operand :: rest => do
    match ← content operand with
    | .ok bytes =>
      let (more, fine) ← contents tool rest
      return ((operand, bytes) :: more, fine)
    | .error e =>
      complain tool (Text.widen operand ++ ": " ++ e.words)
      let (more, _) ← contents tool rest
      return (more, false)

/-- All input together: of the operands, or of descriptor 0 if there are none. -/
def input (tool : String) (operands : List Chars) : Task (Chars × Bool) := do
  let (found, fine) ← contents tool (if operands.isEmpty then [['-']] else operands)
  return (Text.octets (found.map (·.2)).flatten, fine)

/-- The lines of a text, each without the feed that ends it. -/
def lines (text : Chars) : List Chars :=
  let found := text.splitOn '\n'
  if found.getLast? = some [] then found.dropLast else found

/-- Lines as text, each with a feed behind it. -/
def ofLines (found : List Chars) : Chars := (found.map (· ++ ['\n'])).flatten

/-- A decimal number. -/
def number? (text : Chars) : Option Nat := Text.digits? text

end Tool

end Conformance
