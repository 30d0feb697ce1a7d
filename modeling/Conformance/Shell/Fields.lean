import Conformance.Shell.Pattern

/-!
# Fields

A word is first expanded into glyphs, which remember where their characters came from: only what an
expansion outside quotes gave is split at separators. Splitting turns glyphs into fields, each a list of
marks that still know what was quoted.
-/

namespace Conformance.Shell

/-- A character of an expanded word, or a sign between characters. -/
inductive Glyph where
  /-- A character that was written outside quotes. -/
  | bare (c : Char)
  /-- A character that was quoted. -/
  | quoted (c : Char)
  /-- A character that an expansion outside quotes gave. -/
  | soft (c : Char)
  /-- Quotes, which make a field even if nothing is between them. -/
  | presence
  /-- The border between two parameters that stay apart. -/
  | border
deriving DecidableEq, Repr

namespace Glyph

/-- The mark of a glyph that is a character. -/
def mark? : Glyph → Option Mark
  | bare c => some ⟨c, false⟩
  | quoted c => some ⟨c, true⟩
  | soft c => some ⟨c, false⟩
  | presence | border => none

/-- Whether a glyph stands for blank space between fields. -/
def isBlankSeparator (separators : Chars) : Glyph → Bool
  | soft c => separators.contains c && (c = ' ' || c = '\t' || c = '\n')
  | _ => false

/-- Whether a glyph separates fields by itself. -/
def isHardSeparator (separators : Chars) : Glyph → Bool
  | soft c => separators.contains c && !(c = ' ' || c = '\t' || c = '\n')
  | _ => false

end Glyph

/-- Where splitting stands: the fields so far, last first, the marks of the field that was begun, last
    first, whether it counts even if it is empty, and whether blank space has just ended a field. -/
structure Splitting where
  fields : List (List Mark)
  marks : List Mark
  present : Bool
  afterBlank : Bool
deriving DecidableEq, Repr

namespace Splitting

/-- End the field that was begun, if there is one. -/
def close (s : Splitting) : Splitting :=
  if s.present then { s with fields := s.marks.reverse :: s.fields, marks := [], present := false }
  else s

/-- Take a glyph. -/
def step (separators : Chars) (s : Splitting) (glyph : Glyph) : Splitting :=
  if glyph.isBlankSeparator separators then
    if s.present then { s.close with afterBlank := true } else s
  else if glyph.isHardSeparator separators then
    if s.afterBlank ∧ !s.present then { s with afterBlank := false }
    else { ({ s with present := true }.close) with afterBlank := false }
  else match glyph with
    | .border => { s.close with afterBlank := false }
    | .presence => { s with present := true, afterBlank := false }
    | glyph =>
      match glyph.mark? with
      | some mark => { s with marks := mark :: s.marks, present := true, afterBlank := false }
      | none => s

end Splitting

/-- The fields of an expanded word. -/
def split (separators : Chars) (glyphs : List Glyph) : List (List Mark) :=
  (glyphs.foldl (Splitting.step separators) ⟨[], [], false, false⟩).close.fields.reverse

/-- The characters of an expanded word that is not split; parameters that stay apart are joined by
    spaces. -/
def joined (glyphs : List Glyph) : List Mark :=
  glyphs.filterMap fun glyph =>
    match glyph with
    | .border => some ⟨' ', true⟩
    | glyph => glyph.mark?

/-- The text of marks. -/
def text (marks : List Mark) : Chars := marks.map Mark.char

/-- A line cut into as many values as there are names: the last one takes what is left, without the
    blank space at its end. -/
def distribute (separators : Chars) : Nat → List Mark → List Chars
  | 0, _ => []
  | more + 1, marks =>
    let isBlank := fun (mark : Mark) =>
      !mark.quoted && separators.contains mark.char &&
        (mark.char = ' ' || mark.char = '\t' || mark.char = '\n')
    let isSeparator := fun (mark : Mark) => !mark.quoted && separators.contains mark.char
    let line := marks.dropWhile isBlank
    if more = 0 then
      let trimmed := (line.reverse.dropWhile isBlank).reverse
      let first := trimmed.takeWhile (!isSeparator ·)
      let left := trimmed.dropWhile (!isSeparator ·)
      -- A separator that only ends the last value does not belong to it.
      if left.length = 1 then [text first] else [text trimmed]
    else
      let first := line.takeWhile (!isSeparator ·)
      let left := (line.dropWhile (!isSeparator ·)).dropWhile isBlank
      let left :=
        match left with
        | mark :: rest => if isSeparator mark ∧ !isBlank mark then rest else left
        | [] => []
      text first :: distribute separators more left

end Conformance.Shell
