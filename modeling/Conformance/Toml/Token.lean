import Conformance.Text.Decimal

/-!
# TOML: blanks, keys and strings

The pieces that a TOML document is made of below the level of values. Every reader takes the
characters that are left and gives what it read and the characters after it, or nothing if the
document is malformed there.
-/

namespace Conformance.Toml

/-- A reader of something from the characters that are left. -/
abbrev Reader (α : Type) := List Char → Option (α × List Char)

/-- Blanks within a line. -/
def isBlank (c : Char) : Bool := c = ' ' || c = '\t'

/-- What follows the blanks. -/
def skipBlanks (cs : List Char) : List Char := cs.dropWhile isBlank

/-- Whether a character may stand in a line: a tab, or anything that is no control of ASCII. -/
def isInLine (c : Char) : Bool := c = '\t' || (' ' ≤ c && c ≠ '\x7F')

/-- What follows a line end, which is a line feed with or without a carriage return before it. -/
def newline? : List Char → Option (List Char)
  | '\n' :: rest => some rest
  | '\r' :: '\n' :: rest => some rest
  | _ => none

/-- What follows a comment, if one starts here. -/
def skipComment : List Char → List Char
  | '#' :: rest => rest.dropWhile isInLine
  | cs => cs

/-- What follows the end of a line: blanks, a comment, and the line end or the end of the document. -/
def lineEnd? (cs : List Char) : Option (List Char) :=
  match skipComment (skipBlanks cs) with
  | [] => some []
  | rest => newline? rest

/-- What follows blanks, comments and line ends. A comment has to end in a line end; the count
    bounds the number of lines. -/
def skipLines? : Nat → List Char → Option (List Char)
  | 0, _ => none
  | fuel + 1, cs =>
    match skipBlanks cs with
    | '#' :: rest => (newline? (rest.dropWhile isInLine)).bind (skipLines? fuel)
    | rest =>
      match newline? rest with
      | some rest => skipLines? fuel rest
      | none => some rest

/-! ## Strings -/

/-- The character of a code point, unless it is half of a surrogate pair or too large. -/
def scalar? (n : Nat) : Option Char :=
  if n < 0xD800 ∨ (0xDFFF < n ∧ n < 0x110000) then some (Char.ofNat n) else none

/-- The character whose code point is the hexadecimal number of exactly these digits. -/
def hexChar? (digits : List Char) : Option Char :=
  (Text.numeral? Text.hexValue? 16 0 digits).bind scalar?

/-- The character of an escape, after its backslash. -/
def escape? : Reader Char
  | 'b' :: rest => some ('\x08', rest)
  | 't' :: rest => some ('\t', rest)
  | 'n' :: rest => some ('\n', rest)
  | 'f' :: rest => some ('\x0C', rest)
  | 'r' :: rest => some ('\r', rest)
  | '"' :: rest => some ('"', rest)
  | '\\' :: rest => some ('\\', rest)
  | 'u' :: rest =>
    if rest.length < 4 then none else (hexChar? (rest.take 4)).map fun c => (c, rest.drop 4)
  | 'U' :: rest =>
    if rest.length < 8 then none else (hexChar? (rest.take 8)).map fun c => (c, rest.drop 8)
  | _ => none

/-- What follows a backslash that ends a line inside a long string: the line end and all blanks and
    line ends after it. -/
def continuation? (cs : List Char) : Option (List Char) :=
  (newline? (skipBlanks cs)).map fun rest => blanks rest.length rest
where
  /-- Step over blanks and line ends. -/
  blanks : Nat → List Char → List Char
    | 0, cs => cs
    | fuel + 1, cs =>
      match newline? (skipBlanks cs) with
      | some rest => blanks fuel rest
      | none => skipBlanks cs

/-- The string up to the quote that closes it, after the characters before, last first. With
    `escapes` a backslash starts an escape. The count bounds the length. -/
def shortString? (quote : Char) (escapes : Bool) : Nat → List Char → Reader String
  | 0, _, _ => none
  | fuel + 1, before, cs =>
    match cs with
    | [] => none
    | c :: rest =>
      if c = quote then some (String.ofList before.reverse, rest)
      else if c = '\\' ∧ escapes then
        match escape? rest with
        | some (c, rest) => shortString? quote escapes fuel (c :: before) rest
        | none => none
      else if isInLine c then shortString? quote escapes fuel (c :: before) rest
      else none

/-- The string up to the three quotes that close it, after the characters before, last first. One or
    two quotes belong to the string, also right before its end. -/
def longString? (quote : Char) (escapes : Bool) : Nat → List Char → Reader String
  | 0, _, _ => none
  | fuel + 1, before, cs =>
    match cs with
    | [] => none
    | c :: rest =>
      if c = quote then
        let run := (cs.takeWhile (· = quote)).length
        if run < 3 then
          longString? quote escapes fuel (List.replicate run quote ++ before) (cs.drop run)
        else
          let kept := min (run - 3) 2
          some (String.ofList (List.replicate kept quote ++ before).reverse, cs.drop (kept + 3))
      else if c = '\\' ∧ escapes then
        match continuation? rest with
        | some rest => longString? quote escapes fuel before rest
        | none =>
          match escape? rest with
          | some (c, rest) => longString? quote escapes fuel (c :: before) rest
          | none => none
      else
        match newline? cs with
        | some rest => longString? quote escapes fuel ('\n' :: before) rest
        | none => if isInLine c then longString? quote escapes fuel (c :: before) rest else none

/-- A string on one line, at its opening quote. -/
def lineString? : Reader String
  | '"' :: rest => shortString? '"' true (rest.length + 1) [] rest
  | '\'' :: rest => shortString? '\'' false (rest.length + 1) [] rest
  | _ => none

/-- A string, at its opening quote. A line end right after three opening quotes is dropped. -/
def string? : Reader String
  | '"' :: '"' :: '"' :: rest =>
    let body := (newline? rest).getD rest
    longString? '"' true (body.length + 1) [] body
  | '\'' :: '\'' :: '\'' :: rest =>
    let body := (newline? rest).getD rest
    longString? '\'' false (body.length + 1) [] body
  | cs => lineString? cs

/-! ## Keys -/

/-- Whether a character may stand in a key without quotes. -/
def isBare (c : Char) : Bool :=
  ('A' ≤ c && c ≤ 'Z') || ('a' ≤ c && c ≤ 'z') || ('0' ≤ c && c ≤ '9') || c = '-' || c = '_'

/-- One name of a key. -/
def name? (cs : List Char) : Option (String × List Char) :=
  match cs with
  | '"' :: _ => lineString? cs
  | '\'' :: _ => lineString? cs
  | _ =>
    match cs.span isBare with
    | ([], _) => none
    | (bare, rest) => some (String.ofList bare, rest)

/-- The names of a key, with dots between them and blanks around them. The count bounds the number
    of names. -/
def key? : Nat → Reader (List String)
  | 0, _ => none
  | fuel + 1, cs =>
    match name? (skipBlanks cs) with
    | none => none
    | some (name, rest) =>
      match skipBlanks rest with
      | '.' :: rest => (key? fuel rest).map fun (names, rest) => (name :: names, rest)
      | rest => some ([name], rest)

/-- Keys have fewer names than this, and arrays and inline tables nest less deeply. -/
def depthLimit : Nat := 80

end Conformance.Toml
