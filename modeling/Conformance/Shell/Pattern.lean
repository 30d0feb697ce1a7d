import Conformance.Shell.Script
import Conformance.Text.CharClass

/-!
# Patterns

Patterns stand for texts: a star for any characters, a question mark for one, brackets for one out of a
set. Characters that were quoted stand for themselves.
-/

namespace Conformance.Shell

/-- A character, and whether it was quoted. -/
structure Mark where
  char : Char
  quoted : Bool
deriving DecidableEq, Repr

/-- An element of a pattern. -/
inductive Matcher where
  | exactly (c : Char)
  | anyOne
  | anything
  | oneOf (negated : Bool) (ranges : List (Char × Char))
deriving DecidableEq, Repr

namespace Matcher

/-- Whether one character passes; stars are handled apart. -/
def passes : Matcher → Char → Bool
  | exactly c, d => c = d
  | anyOne, _ => true
  | anything, _ => true
  | oneOf negated ranges, d =>
    (ranges.any fun range => range.1 ≤ d && d ≤ range.2) != negated

/-- The ranges of a bracket, up to its end; a closing bracket in front stands for itself. -/
def ranges (first : Bool) : Nat → List Mark → Option (List (Char × Char) × List Mark)
  | 0, _ => none
  | _, [] => none
  | bound + 1, mark :: rest =>
    let goOn := fun (found : List (Char × Char)) (rest : List Mark) =>
      (ranges false bound rest).map fun (more, left) => (found ++ more, left)
    if mark.char = ']' ∧ !mark.quoted ∧ !first then some ([], rest)
    else match classAt (mark :: rest) with
      | some (found, left) => goOn found left
      | none =>
        match rest with
        | ⟨'-', false⟩ :: upper :: left =>
          if upper.char = ']' ∧ !upper.quoted then goOn [(mark.char, mark.char)] rest
          else goOn [(mark.char, upper.char)] left
        | rest => goOn [(mark.char, mark.char)] rest
where
  /-- A class of characters at the beginning, if there is one. -/
  classAt (marks : List Mark) : Option (List (Char × Char) × List Mark) :=
    if (marks.take 2).any Mark.quoted then none
    else
      (Text.class? (marks.map Mark.char)).map fun (found, left) =>
        (found, marks.drop (marks.length - left.length))

/-- A bracket, behind the opening one; nothing if it is never closed. -/
def bracket (marks : List Mark) : Option (Matcher × List Mark) :=
  let build := fun (negated : Bool) (rest : List Mark) =>
    (ranges true (rest.length + 1) rest).map fun (found, left) => (oneOf negated found, left)
  match marks with
  | ⟨'!', false⟩ :: rest => build true rest
  | ⟨'^', false⟩ :: rest => build true rest
  | rest => build false rest

/-- The elements of a pattern. -/
def ofMarks : Nat → List Mark → List Matcher
  | 0, _ => []
  | _, [] => []
  | bound + 1, mark :: rest =>
    if mark.quoted then exactly mark.char :: ofMarks bound rest
    else match mark.char with
      | '*' => anything :: ofMarks bound rest
      | '?' => anyOne :: ofMarks bound rest
      | '[' =>
        match bracket rest with
        | some (found, left) => found :: ofMarks bound left
        | none => exactly '[' :: ofMarks bound rest
      | '\\' =>
        match rest with
        | next :: rest => exactly next.char :: ofMarks bound rest
        | [] => [exactly '\\']
      | c => exactly c :: ofMarks bound rest

/-- Whether some end of a text passes a test. -/
def someEnd (test : Chars → Bool) : Chars → Bool
  | [] => test []
  | c :: text => test (c :: text) || someEnd test text

/-- Whether a text is one that a pattern stands for. -/
def isMatch : List Matcher → Chars → Bool
  | [], text => text.isEmpty
  | matcher :: rest, text =>
    match matcher, text with
    | anything, text => someEnd (isMatch rest) text
    | _, [] => false
    | matcher, c :: text => matcher.passes c && isMatch rest text

/-- Whether an element is more than a character. -/
def isActive : Matcher → Bool
  | exactly _ => false
  | _ => true

end Matcher

/-- The elements of a pattern. -/
def pattern (marks : List Mark) : List Matcher := Matcher.ofMarks marks.length marks

/-- Whether a text is one that a pattern stands for. -/
def isMatch (marks : List Mark) (text : Chars) : Bool := Matcher.isMatch (pattern marks) text

/-- The beginnings of a text, shortest first, each with what follows it. -/
def cuts (text : Chars) : List (Chars × Chars) :=
  (List.range (text.length + 1)).map fun n => (text.take n, text.drop n)

/-- A value without the shortest or longest part at one end that a pattern stands for. -/
def trimmed (side : Side) (longest : Bool) (marks : List Mark) (value : Chars) : Chars :=
  let matchers := pattern marks
  match side with
  | .front =>
    let order := if longest then (cuts value).reverse else cuts value
    match order.find? fun cut => Matcher.isMatch matchers cut.1 with
    | some cut => cut.2
    | none => value
  | .back =>
    let order := if longest then cuts value else (cuts value).reverse
    match order.find? fun cut => Matcher.isMatch matchers cut.2 with
    | some cut => cut.1
    | none => value

end Conformance.Shell
