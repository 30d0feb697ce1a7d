import Conformance.Text.Octets

/-!
# Echoed text

What the shell's `echo` makes of its arguments: they are joined by spaces and end in a line feed, and a
backslash begins an escape in any of them. Escapes are letters for controls, octal numbers of up to
three digits, and `\c`, which ends the output at once. A first argument `-n` keeps the line feed away.
-/

namespace Conformance.Text

/-- The value of an octal digit. -/
def octalValue? (c : Char) : Option Nat :=
  if '0' ≤ c ∧ c ≤ '7' then some (c.toNat - '0'.toNat) else none

/-- The number that the next octal digits give, at most so many of them, after the value so far. -/
def octal (value : Nat) : Nat → List Char → Nat × List Char
  | 0, cs => (value, cs)
  | _, [] => (value, [])
  | more + 1, c :: rest =>
    match octalValue? c with
    | some digit => octal (value * 8 + digit) more rest
    | none => (value, c :: rest)

/-- The control that a letter stands for behind a backslash. -/
def controlLetter? : Char → Option Char
  | 'a' => some '\x07'
  | 'b' => some '\x08'
  | 'e' => some '\x1b'
  | 'f' => some '\x0C'
  | 'n' => some '\n'
  | 'r' => some '\r'
  | 't' => some '\t'
  | 'v' => some '\x0B'
  | '\\' => some '\\'
  | _ => none

/-- The character that an octal number stands for. -/
def octalChar (value : Nat) : Char := Char.ofNat (value % 256)

/-- What an escape inside an argument stands for, and what follows it. A backslash that begins no escape
    stands for itself. -/
def escape (cs : List Char) : Char × List Char :=
  match cs with
  | [] => ('\\', [])
  | c :: rest =>
    match controlLetter? c with
    | some control => (control, rest)
    | none =>
      match octalValue? c with
      | none => ('\\', c :: rest)
      | some digit =>
        let (value, rest) := octal digit 2 rest
        (octalChar value, rest)

/-- What an escape stands for where octal numbers may have a zero in front. -/
def echoEscape (cs : List Char) : Char × List Char :=
  match cs with
  | '0' :: c :: rest =>
    if (octalValue? c).isSome then
      let (value, rest) := octal 0 3 (c :: rest)
      (octalChar value, rest)
    else escape cs
  | _ => escape cs

/-- An argument with its escapes replaced, and whether an escape ended the output. The bound is the
    number of characters. -/
def echoArgument : Nat → List Char → List Char × Bool
  | 0, _ => ([], false)
  | _, [] => ([], false)
  | bound + 1, '\\' :: rest =>
    match rest with
    | 'c' :: _ => ([], true)
    | rest =>
      let (c, rest) := echoEscape rest
      let (cs, ended) := echoArgument bound rest
      (c :: cs, ended)
  | bound + 1, c :: rest =>
    let (cs, ended) := echoArgument bound rest
    (c :: cs, ended)

/-- Arguments joined by spaces, and whether an escape ended the output. -/
def echoArguments : List (List Char) → List Char × Bool
  | [] => ([], false)
  | [last] => echoArgument last.length last
  | first :: rest =>
    match echoArgument first.length first with
    | (cs, true) => (cs, true)
    | (cs, false) =>
      let (more, ended) := echoArguments rest
      (cs ++ ' ' :: more, ended)

/-- What is printed for arguments. -/
def echo (args : List (List Char)) : List Char :=
  match args with
  | ['-', 'n'] :: rest => (echoArguments rest).1
  | args =>
    match echoArguments args with
    | (cs, true) => cs
    | (cs, false) => cs ++ ['\n']

/-- What is printed for one text. -/
def echoLine (text : String) : Bytes := ofOctets (echo [narrow text])

end Conformance.Text
