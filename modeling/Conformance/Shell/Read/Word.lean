import Conformance.Shell.Read.Text

/-!
# Reading words

A word is read piece by piece. Where a piece stands decides what is special in it. A word may hold the
output of commands, so the reader of commands is given.
-/

namespace Conformance.Shell

open Reader

/-- Where a piece stands, which decides what ends it and what is special in it. -/
inductive Place where
  | word
  | double
  | brace
  | doubleBrace
  | arithmetic (depth : Nat)
  | here
deriving DecidableEq, Repr

/-- Whether double quotes are around. -/
def Place.isQuoted : Place → Bool
  | double | doubleBrace | arithmetic _ | here => true
  | word | brace => false

/-- Whether a character ends the pieces at a place. -/
def Place.isEnd (place : Place) (c : Char) : Bool :=
  match place with
  | word => isMeta c
  | double => c = '"'
  | brace | doubleBrace => c = '}'
  | arithmetic depth => depth = 0 && c = ')'
  | here => false

/-- Whether a character is not plain text at a place. -/
def Place.isActive (place : Place) (c : Char) : Bool :=
  place.isEnd c || c = '\\' || c = '$' || c = '`' ||
    match place with
    | word | brace => c = '\'' || c = '"'
    | doubleBrace => c = '"'
    | arithmetic _ => c = '(' || c = ')' || c = '"'
    | double | here => false

/-- Whether a backslash protects a character at a place. -/
def Place.isEscapable (place : Place) (c : Char) : Bool :=
  match place with
  | word | brace => true
  | double | arithmetic _ => "$`\"\\\n".toList.contains c
  | doubleBrace => "$`\"\\\n\x7d".toList.contains c
  | here => "$`\\\n".toList.contains c

/-- Plain text at a place. -/
def Place.plain (place : Place) (text : Chars) : Piece :=
  if place.isQuoted then .quoted text else .bare text

/-- Text between single quotes, behind the first of them. -/
def singleQuoted : Reader Piece := do
  let text ← takeWhile (· ≠ '\'')
  expect ['\'']
  return .quoted text

/-- The text between backquotes, behind the first of them, with its backslashes resolved. -/
def backquoted (place : Place) : Nat → Chars → Option (Chars × Chars)
  | 0, _ => none
  | _, [] => none
  | _, '`' :: rest => some ([], rest)
  | bound + 1, '\\' :: c :: rest =>
    let kept :=
      if c = '`' ∨ c = '\\' ∨ c = '$' ∨ (place.isQuoted ∧ c = '"') then [c] else ['\\', c]
    (backquoted place bound rest).map fun (text, left) => (kept ++ text, left)
  | bound + 1, c :: rest =>
    (backquoted place bound rest).map fun (text, left) => (c :: text, left)

/-- The name of a parameter: a name, digits, or one special character. -/
def parameter (inBraces : Bool) : Reader (Option Chars) := do
  match ← rest with
  | [] => return none
  | c :: left =>
    if isNameStart c then return some (← takeWhile isNameChar)
    else if c.isDigit then
      if inBraces then return some (← takeWhile Char.isDigit)
      else leave left; return some [c]
    else if isSpecial c then leave left; return some [c]
    else return none

/-- The operator behind a parameter in braces that takes another word. -/
def choice? : Char → Option Choice
  | '-' => some .default
  | '=' => some .assign
  | '?' => some .demand
  | '+' => some .alternative
  | _ => none

/-- What stands behind the name of a parameter in braces. -/
def braceTail (pieces : Place → Reader Word) (place : Place) (name : Chars) : Reader Piece := do
  let inner := if place.isQuoted then Place.doubleBrace else Place.brace
  let close := fun (piece : Piece) => do expect ['}']; return piece
  match ← rest with
  | '}' :: _ => close (.value name)
  | ':' :: c :: left =>
    match choice? c with
    | some choice => leave left; close (.choose name choice true (← pieces inner))
    | none => fail
  | '%' :: '%' :: left => leave left; close (.trim name .back true (← pieces .brace))
  | '%' :: left => leave left; close (.trim name .back false (← pieces .brace))
  | '#' :: '#' :: left => leave left; close (.trim name .front true (← pieces .brace))
  | '#' :: left => leave left; close (.trim name .front false (← pieces .brace))
  | c :: left =>
    match choice? c with
    | some choice => leave left; close (.choose name choice false (← pieces inner))
    | none => fail
  | [] => fail

/-- A parameter in braces, behind the opening one. -/
def braced (pieces : Place → Reader Word) (place : Place) : Reader Piece := do
  let now ← rest
  match now with
  | '#' :: '}' :: _ => leave (now.drop 1); braceTail pieces place ['#']
  | '#' :: left =>
    leave left
    match ← parameter true with
    | some name =>
      if ← accept ['}'] then return .length name
      else leave left; braceTail pieces place ['#']
    | none => leave left; braceTail pieces place ['#']
  | _ =>
    match ← parameter true with
    | some name => braceTail pieces place name
    | none => fail

/-- What a dollar sign begins, behind it. -/
def dollar (inner : Reader (List Command)) (pieces : Place → Reader Word) (place : Place) :
    Reader Piece := do
  let now ← rest
  match now with
  | '(' :: '(' :: left =>
    leave left
    let body ← pieces (.arithmetic 0)
    expect [')', ')']
    return .arithmetic body
  | '(' :: left =>
    leave left
    let body ← inner
    lines
    expect [')']
    return .output body
  | '{' :: left => leave left; braced pieces place
  | _ =>
    match ← parameter false with
    | some name => return .value name
    | none => return place.plain ['$']

/-- The commands between backquotes, behind the first of them. -/
def backquotedOutput (inner : Reader (List Command)) (place : Place) : Reader Piece := do
  let now ← rest
  match backquoted place (now.length + 1) now with
  | none => fail
  | some (text, left) =>
    match inner.run text with
    | some (body, _) => leave left; return .output body
    | none => fail

/-- The next piece at a place; nothing if the pieces end here. -/
def nextPiece (inner : Reader (List Command)) (pieces : Place → Reader Word) (place : Place) :
    Reader (Option (Piece × Place)) := do
  let now ← rest
  match now with
  | [] => return none
  | c :: left =>
    if place.isEnd c then return none
    else if !place.isActive c then
      return some (place.plain (← takeWhile fun c => !place.isActive c), place)
    else match c, place with
      | '\\', _ =>
        match left with
        | '\n' :: left => leave left; return some (.bare [], place)
        | c :: left =>
          leave left
          return some (.quoted (if place.isEscapable c then [c] else ['\\', c]), place)
        | [] => leave []; return some (.quoted ['\\'], place)
      | '$', _ => leave left; return some (← dollar inner pieces place, place)
      | '`', _ => leave left; return some (← backquotedOutput inner place, place)
      | '\'', _ => leave left; return some (← singleQuoted, place)
      | '"', .arithmetic _ => leave left; return some (.quoted [], place)
      | '"', _ =>
        leave left
        let body ← pieces .double
        expect ['"']
        return some (.double body, place)
      | '(', .arithmetic depth => leave left; return some (.quoted ['('], .arithmetic (depth + 1))
      | ')', .arithmetic depth => leave left; return some (.quoted [')'], .arithmetic (depth - 1))
      | _, _ => fail

/-- The pieces at a place, up to their end. -/
def piecesAt (inner : Reader (List Command)) : Nat → Place → Reader Word
  | 0, _ => fail
  | bound + 1, place => do
    match ← nextPiece inner (piecesAt inner bound) place with
    | none => return []
    | some (piece, place) => return piece :: (← piecesAt inner bound place)

/-- A bound on the number of pieces in a text. -/
def pieceBound (text : Chars) : Nat := 2 * text.length + 8

/-- A word; nothing if none begins here. -/
def word? (inner : Reader (List Command)) : Reader (Option Word) := do
  let now ← rest
  match now with
  | [] => return none
  | c :: _ =>
    if isMeta c then return none
    else return some (← piecesAt inner (pieceBound now) .word)

/-- A word that has to be there. -/
def word (inner : Reader (List Command)) : Reader Word := do
  match ← word? inner with
  | some word => return word
  | none => fail

end Conformance.Shell
