import Conformance.Tool.Basic
import Conformance.Text.CharClass

/-!
# Regular expressions

Expressions in the basic and the extended notation, and where they match: of the matches that begin
first, the longest. Groups remember what they matched.
-/

namespace Conformance.Tool

/-- A regular expression. -/
inductive Regex where
  | empty
  | char (c : Char)
  | any
  | oneOf (negated : Bool) (ranges : List (Char × Char))
  | lineStart
  | lineEnd
  | group (number : Nat) (inner : Regex)
  | again (number : Nat)
  | sequence (first second : Regex)
  | either (first second : Regex)
  | times (least : Nat) (most : Option Nat) (inner : Regex)
deriving DecidableEq, Repr

namespace Regex

/-! ## Reading -/

/-- What a reader of expressions keeps: the number of groups so far and the text that is left. -/
structure Reading where
  groups : Nat
  text : Chars
deriving DecidableEq, Repr

/-- The ranges of a bracket up to its end. -/
def bracketRanges (first : Bool) : Nat → Chars → Option (List (Char × Char) × Chars)
  | 0, _ => none
  | _, [] => none
  | bound + 1, c :: rest =>
    let goOn := fun (found : List (Char × Char)) (rest : Chars) =>
      (bracketRanges false bound rest).map fun (more, left) => (found ++ more, left)
    if c = ']' ∧ !first then some ([], rest)
    else match Text.class? (c :: rest) with
      | some (found, left) => goOn found left
      | none =>
        match rest with
        | '-' :: d :: left => if d = ']' then goOn [(c, c)] rest else goOn [(c, d)] left
        | rest => goOn [(c, c)] rest

/-- A bracket, behind the opening one. -/
def bracket? (text : Chars) : Option (Regex × Chars) :=
  let build := fun (negated : Bool) (rest : Chars) =>
    (bracketRanges true (rest.length + 1) rest).map fun (found, left) => (oneOf negated found, left)
  match text with
  | '^' :: rest => build true rest
  | rest => build false rest

/-- The bounds of a repetition in braces, behind the opening one. -/
def bounds? (extended : Bool) (text : Chars) : Option (Nat × Option Nat × Chars) :=
  let least := text.takeWhile Char.isDigit
  let rest := text.drop least.length
  let (most, rest) :=
    match rest with
    | ',' :: rest =>
      let most := rest.takeWhile Char.isDigit
      (number? most, rest.drop most.length)
    | rest => (number? least, rest)
  match rest, extended with
  | '}' :: rest, true => some ((number? least).getD 0, most, rest)
  | '\\' :: '}' :: rest, false => some ((number? least).getD 0, most, rest)
  | _, _ => none

/-- The repetition that comes next, if one does. -/
def repetition? (extended : Bool) (text : Chars) : Option (Nat × Option Nat × Chars) :=
  match text, extended with
  | '*' :: rest, _ => some (0, none, rest)
  | '+' :: rest, true | '\\' :: '+' :: rest, false => some (1, none, rest)
  | '?' :: rest, true | '\\' :: '?' :: rest, false => some (0, some 1, rest)
  | '{' :: rest, true | '\\' :: '{' :: rest, false => bounds? extended rest
  | _, _ => none

/-- An expression with the repetitions that follow it. -/
def repeated (extended : Bool) : Nat → Regex → Chars → Regex × Chars
  | 0, inner, text => (inner, text)
  | bound + 1, inner, text =>
    match repetition? extended text with
    | some (least, most, rest) => repeated extended bound (times least most inner) rest
    | none => (inner, text)

/-- Whether a group or a choice ends here. -/
def isClose (extended : Bool) (text : Chars) : Bool :=
  match text, extended with
  | [], _ => true
  | ')' :: _, true | '|' :: _, true => true
  | '\\' :: ')' :: _, false | '\\' :: '|' :: _, false => true
  | _, _ => false

/-- A character, bracket or group. The flag tells whether an expression begins here, where a star stands
    for itself. -/
def single? (whole : Reading → Option (Regex × Reading)) (extended beginning : Bool)
    (reading : Reading) : Option (Regex × Reading) :=
  let plain := fun (found : Regex) (rest : Chars) => some (found, { reading with text := rest })
  let group := fun (rest : Chars) =>
    let number := reading.groups + 1
    match whole ⟨number, rest⟩ with
    | none => none
    | some (inner, reading) =>
      match reading.text, extended with
      | ')' :: rest, true | '\\' :: ')' :: rest, false =>
        some (group number inner, { reading with text := rest })
      | _, _ => none
  match reading.text with
  | [] => none
  | '.' :: rest => plain any rest
  | '[' :: rest =>
    match bracket? rest with
    | some (found, left) => plain found left
    | none => none
  | '^' :: rest => if extended ∨ beginning then plain lineStart rest else plain (char '^') rest
  | '$' :: rest => if extended ∨ isClose extended rest then plain lineEnd rest else plain (char '$') rest
  | '(' :: rest => if extended then group rest else plain (char '(') rest
  | '\\' :: c :: rest =>
    if c = '(' ∧ !extended then group rest
    else if c.isDigit ∧ c ≠ '0' then plain (again (c.toNat - '0'.toNat)) rest
    else match c with
      | 'n' => plain (char '\n') rest
      | 't' => plain (char '\t') rest
      | c => plain (char c) rest
  | '\\' :: [] => none
  | c :: rest => plain (char c) rest

/-- Expressions one behind the other. -/
def sequence? (whole : Reading → Option (Regex × Reading)) (extended : Bool) :
    Nat → Bool → Reading → Option (Regex × Reading)
  | 0, _, _ => none
  | bound + 1, beginning, reading =>
    if isClose extended reading.text then some (empty, reading)
    else
      match single? whole extended beginning reading with
      | none => none
      | some (first, reading) =>
        let (first, rest) :=
          if first = lineStart then (first, reading.text)
          else repeated extended reading.text.length first reading.text
        match sequence? whole extended bound (first = lineStart) { reading with text := rest } with
        | none => none
        | some (second, reading) => some (sequence first second, reading)

/-- A choice of expressions. -/
def choice? (whole : Reading → Option (Regex × Reading)) (extended : Bool) :
    Nat → Reading → Option (Regex × Reading)
  | 0, _ => none
  | bound + 1, reading =>
    match sequence? whole extended (reading.text.length + 1) true reading with
    | none => none
    | some (first, reading) =>
      match reading.text, extended with
      | '|' :: rest, true | '\\' :: '|' :: rest, false =>
        (choice? whole extended bound { reading with text := rest }).map fun (second, reading) =>
          (either first second, reading)
      | _, _ => some (first, reading)

/-- A whole expression, nested no deeper than a bound. -/
def whole? (extended : Bool) : Nat → Reading → Option (Regex × Reading)
  | 0, _ => none
  | depth + 1, reading => choice? (whole? extended depth) extended (reading.text.length + 1) reading

/-- The expression that a text stands for. -/
def read? (extended : Bool) (text : Chars) : Option Regex :=
  match whole? extended (text.length + 1) ⟨0, text⟩ with
  | some (found, reading) => if reading.text.isEmpty then some found else none
  | none => none

/-! ## Matching -/

/-- Where matching stands: whether at the beginning of the line, the text that is left, and what the
    groups matched. -/
structure Point where
  atStart : Bool
  text : Chars
  groups : List (Nat × Chars)
deriving DecidableEq, Repr

/-- The point behind one character that passes a test. -/
def Point.step (point : Point) (test : Char → Bool) : List Point :=
  match point.text with
  | c :: rest => if test c then [{ point with atStart := false, text := rest }] else []
  | [] => []

/-- The points that repetition leads to, those after more rounds first. -/
def rounds (step : Point → List Point) : Nat → Nat → Nat → Point → List Point
  | 0, _, _, point => [point]
  | bound + 1, least, most, point =>
    let onward :=
      if most = 0 then []
      else
        ((step point).filter fun next => 0 < least || next.text.length < point.text.length).flatMap
          (rounds step bound (least - 1) (most - 1))
    if least = 0 then onward ++ [point] else onward

/-- The points behind the matches that begin at a point. -/
def points : Regex → Point → List Point
  | empty, point => [point]
  | char c, point => point.step (· = c)
  | any, point => point.step fun _ => true
  | oneOf negated ranges, point =>
    point.step fun c => (ranges.any fun range => range.1 ≤ c && c ≤ range.2) != negated
  | lineStart, point => if point.atStart then [point] else []
  | lineEnd, point => if point.text.isEmpty then [point] else []
  | group number inner, point =>
    (points inner point).map fun next =>
      let taken := point.text.take (point.text.length - next.text.length)
      { next with groups := (number, taken) :: next.groups }
  | again number, point =>
    let taken := (point.groups.lookup number).getD []
    if taken.isPrefixOf point.text then
      [{ point with
          atStart := point.atStart && taken.isEmpty
          text := point.text.drop taken.length }]
    else []
  | sequence first second, point => (points first point).flatMap (points second)
  | either first second, point => points first point ++ points second point
  | times least most inner, point =>
    rounds (points inner) (point.text.length + least + 1) least
      (most.getD (point.text.length + least + 1)) point

/-- The longest match that begins at a point. -/
def longest (regex : Regex) (point : Point) : Option Point :=
  (points regex point).foldl (fun best next =>
    match best with
    | some found => if next.text.length < found.text.length then some next else some found
    | none => some next) none

/-- A match: the text in front of it, the text that it takes, and the point behind it. -/
structure Found where
  before : Chars
  taken : Chars
  behind : Point
deriving DecidableEq, Repr

/-- The match that begins in front of a text; what stands in front of it is given last character
    first. -/
def findHere (regex : Regex) (atStart : Bool) (before text : Chars) : Option Found :=
  (longest regex ⟨atStart, text, []⟩).map fun point =>
    ⟨before.reverse, text.take (text.length - point.text.length), point⟩

/-- The first match that begins in front of a text or later. -/
def findFrom (regex : Regex) (atStart : Bool) (before : Chars) : Chars → Option Found
  | [] => findHere regex atStart before []
  | c :: rest =>
    (findHere regex atStart before (c :: rest)).orElse fun _ =>
      findFrom regex false (c :: before) rest

/-- The first match in a line. -/
def find? (regex : Regex) (line : Chars) : Option Found := findFrom regex true [] line

/-- Whether an expression matches somewhere in a line. -/
def occursIn (regex : Regex) (line : Chars) : Bool := (find? regex line).isSome

end Regex

end Conformance.Tool
