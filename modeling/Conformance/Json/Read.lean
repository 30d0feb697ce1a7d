import Conformance.Data.Basic
import Conformance.Text.Decimal

/-!
# Reading JSON

A document is one value with blanks around it. Reading is strict about commas, quotes, escapes and
the form of numbers, and keeps repeated names for whoever uses the table to judge. A string may
escape halves of surrogate pairs that do not meet; it is then read as a value that is no text.
-/

namespace Conformance.Json

/-- Blanks between tokens. -/
def isBlank (c : Char) : Bool := c = ' ' || c = '\n' || c = '\t' || c = '\r'

/-- What follows the blanks. -/
def skipBlanks (cs : List Char) : List Char := cs.dropWhile isBlank

/-- The number that four hexadecimal digits spell. -/
def unit? (a b c d : Char) : Option Nat := Text.numeral? Text.hexValue? 16 0 [a, b, c, d]

/-- Whether a number is the first half of a surrogate pair. -/
def isHighHalf (unit : Nat) : Bool := 0xD800 ≤ unit && unit < 0xDC00

/-- Whether a number is the second half of a surrogate pair. -/
def isLowHalf (unit : Nat) : Bool := 0xDC00 ≤ unit && unit < 0xE000

/-- The character of a surrogate pair. -/
def pairedChar (high low : Nat) : Char :=
  Char.ofNat (0x10000 + (high - 0xD800) * 0x400 + (low - 0xDC00))

/-- The character that a letter after a backslash stands for. -/
def escape? : Char → Option Char
  | '"' => some '"'
  | '\\' => some '\\'
  | '/' => some '/'
  | 'b' => some '\x08'
  | 'f' => some '\x0C'
  | 'n' => some '\n'
  | 'r' => some '\r'
  | 't' => some '\t'
  | _ => none

/-- What has been read of a string: its characters, last first, unless half a pair was left over,
    and the first half of a pair that waits for its second. -/
structure Partial where
  chars : Option (List Char)
  half : Option Nat

namespace Partial

/-- Before the first character. -/
def start : Partial := ⟨some [], none⟩

/-- Add a character. A half that waited stays alone. -/
def push (c : Char) (before : Partial) : Partial :=
  match before.half with
  | none => ⟨before.chars.map (c :: ·), none⟩
  | some _ => ⟨none, none⟩

/-- Add an escaped number, which is a character or half of one. -/
def pushUnit (unit : Nat) (before : Partial) : Partial :=
  match before.half with
  | some high => ⟨if isLowHalf unit then before.chars.map (pairedChar high unit :: ·) else none, none⟩
  | none =>
    if isHighHalf unit then ⟨before.chars, some unit⟩
    else if isLowHalf unit then ⟨none, none⟩
    else ⟨before.chars.map (Char.ofNat unit :: ·), none⟩

/-- The text, if it is one. -/
def finish (all : Partial) : Option String :=
  match all.half with
  | none => all.chars.map fun cs => String.ofList cs.reverse
  | some _ => none

end Partial

/-- Read a string up to its closing quote, after what was read before: the text, if it is one, and
    what follows. -/
def string? (before : Partial) : List Char → Option (Option String × List Char)
  | [] => none
  | '"' :: rest => some (before.finish, rest)
  | '\\' :: 'u' :: a :: b :: c :: d :: rest =>
    match unit? a b c d with
    | none => none
    | some unit => string? (before.pushUnit unit) rest
  | '\\' :: letter :: rest =>
    match escape? letter with
    | none => none
    | some c => string? (before.push c) rest
  | c :: rest => if c.toNat < 0x20 then none else string? (before.push c) rest

/-- A run of digits, possibly empty, and what follows. -/
def digitRun (cs : List Char) : List Char × List Char := cs.span fun c => '0' ≤ c && c ≤ '9'

/-- The digits before a point: a lone zero, or a run that does not begin with one. -/
def wholeDigits? (cs : List Char) : Option (List Char × List Char) :=
  match digitRun cs with
  | ([], _) => none
  | ('0' :: _ :: _, _) => none
  | run => some run

/-- What follows a point and its digits, if there is a point. -/
def skipFraction? : List Char → Option (Bool × List Char)
  | '.' :: rest =>
    match digitRun rest with
    | ([], _) => none
    | (_, rest) => some (true, rest)
  | rest => some (false, rest)

/-- What follows an exponent, if there is one. -/
def skipExponent? : List Char → Option (Bool × List Char)
  | c :: rest =>
    if c = 'e' || c = 'E' then
      let unsigned := match rest with
        | '+' :: rest => rest
        | '-' :: rest => rest
        | rest => rest
      match digitRun unsigned with
      | ([], _) => none
      | (_, rest) => some (true, rest)
    else some (false, c :: rest)
  | [] => some (false, [])

/-- A number. It is an integer if it has neither point nor exponent and is not a negative zero. -/
def number? (cs : List Char) : Option (Data × List Char) :=
  let (negative, unsigned) := match cs with
    | '-' :: rest => (true, rest)
    | cs => (false, cs)
  match wholeDigits? unsigned with
  | none => none
  | some (digits, rest) =>
    match skipFraction? rest with
    | none => none
    | some (pointed, rest) =>
      match skipExponent? rest with
      | none => none
      | some (scaled, rest) =>
        let size := (Text.digits? digits).getD 0
        if pointed || scaled || (negative && size = 0) then some (.fractional, rest)
        else some (.whole (if negative then -(size : Int) else size), rest)

mutual

/-- A value after blanks, and what follows it. The count bounds the depth of the search; twice the
    length of the text is always enough. -/
def value? : Nat → List Char → Option (Data × List Char)
  | 0, _ => none
  | fuel + 1, cs =>
    match skipBlanks cs with
    | '{' :: rest =>
      match skipBlanks rest with
      | '}' :: rest => some (.table [], rest)
      | rest => members? fuel [] rest
    | '[' :: rest =>
      match skipBlanks rest with
      | ']' :: rest => some (.list [], rest)
      | rest => items? fuel [] rest
    | '"' :: rest =>
      match string? .start rest with
      | some (some text, rest) => some (.text text, rest)
      | some (none, rest) => some (.unpaired, rest)
      | none => none
    | 'n' :: 'u' :: 'l' :: 'l' :: rest => some (.null, rest)
    | 't' :: 'r' :: 'u' :: 'e' :: rest => some (.flag true, rest)
    | 'f' :: 'a' :: 'l' :: 's' :: 'e' :: rest => some (.flag false, rest)
    | cs => number? cs

/-- The items of a list up to its end, after those already read, last first. -/
def items? : Nat → List Data → List Char → Option (Data × List Char)
  | 0, _, _ => none
  | fuel + 1, before, cs =>
    match value? fuel cs with
    | none => none
    | some (item, rest) =>
      match skipBlanks rest with
      | ',' :: rest => items? fuel (item :: before) rest
      | ']' :: rest => some (.list (item :: before).reverse, rest)
      | _ => none

/-- The members of a table up to its end, after those already read, last first. -/
def members? : Nat → List (Option String × Data) → List Char → Option (Data × List Char)
  | 0, _, _ => none
  | fuel + 1, before, cs =>
    match skipBlanks cs with
    | '"' :: rest =>
      match string? .start rest with
      | none => none
      | some (key, rest) =>
        match skipBlanks rest with
        | ':' :: rest =>
          match value? fuel rest with
          | none => none
          | some (value, rest) =>
            match skipBlanks rest with
            | ',' :: rest => members? fuel ((key, value) :: before) rest
            | '}' :: rest => some (.table ((key, value) :: before).reverse, rest)
            | _ => none
        | _ => none
    | _ => none

end

/-- The value of a document. -/
def read? (text : String) : Option Data :=
  let cs := text.toList
  match value? (2 * cs.length + 2) cs with
  | some (data, rest) => if skipBlanks rest = [] then some data else none
  | none => none

end Conformance.Json
