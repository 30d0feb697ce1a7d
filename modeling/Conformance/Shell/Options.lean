import Conformance.Shell.Script

/-!
# Taking options from arguments

Options are letters behind a dash; several may share one. A text says which letters there are, and a
colon behind a letter that it takes an argument: what is left of the letters, or else the next argument.
Two dashes end the options, and so does the first argument that is none. If the text begins with a
colon, a mistake is told by the values alone.
-/

namespace Conformance.Shell.Options

/-- What taking an option gives: the argument at which the next one goes on and how much was read of the
    argument in front of it, the value of the variable, and what becomes of `OPTARG`. -/
structure Taken where
  index : Nat
  offset : Nat
  value : Char
  /-- Nothing to leave `OPTARG` as it is, or the value that it gets if any. -/
  argument : Option (Option Chars)
  problem : Option String
deriving DecidableEq, Repr

/-- What is left of the letters of an option that was begun in the argument in front of an index. -/
def lettersLeft (arguments : List Chars) (index offset : Nat) : Chars :=
  if index ≤ 1 ∨ offset = 0 then [] else ((arguments[index - 2]?).getD []).drop offset

/-- Whether an option takes an argument; nothing for a letter that is no option. -/
def takesArgument? (letter : Char) : Chars → Option Bool
  | [] => none
  | c :: ':' :: rest => if c = letter then some true else takesArgument? letter rest
  | c :: rest => if c = letter then some false else takesArgument? letter rest

/-- Take the first of the letters of an option. -/
def takeLetter (options : Chars) (arguments : List Chars) (index : Nat) (letter : Char) (left : Chars) :
    Taken :=
  let offset := ((arguments[index - 2]?).getD []).length - left.length
  let silent := options.head? = some ':'
  let shown := String.ofList [letter]
  match takesArgument? letter (if silent then options.drop 1 else options) with
  | none =>
    if silent then ⟨index, offset, '?', some (some [letter]), none⟩
    else ⟨index, offset, '?', some none, some ("Illegal option -" ++ shown)⟩
  | some false => ⟨index, offset, letter, some (some []), none⟩
  | some true =>
    if !left.isEmpty then ⟨index, 0, letter, some (some left), none⟩
    else
      match arguments[index - 1]? with
      | some argument => ⟨index + 1, 0, letter, some (some argument), none⟩
      | none =>
        if silent then ⟨index, 0, ':', some (some [letter]), none⟩
        else ⟨index, 0, '?', some none, some ("No arg for -" ++ shown ++ " option")⟩

/-- Take the next option from arguments; the flag tells whether there was one. -/
def take (options : Chars) (arguments : List Chars) (index offset : Nat) : Bool × Taken :=
  match lettersLeft arguments index offset with
  | letter :: left => (true, takeLetter options arguments index letter left)
  | [] =>
    match arguments[index - 1]? with
    | some ['-', '-'] => (false, ⟨index + 1, 0, '?', none, none⟩)
    | some ('-' :: letter :: left) => (true, takeLetter options arguments (index + 1) letter left)
    | _ => (false, ⟨index, 0, '?', none, none⟩)

end Conformance.Shell.Options
