import Conformance.Text.Utf8

/-!
# Lines of a text

A line ends at a line feed, and a carriage return right before the feed belongs to the terminator.
`lines` splits a whole text; the end of the text ends its last line, unless nothing stands after the
last feed. `entries` are the lines of a list, which lose all carriage returns at their end.
-/

namespace Conformance.Text

/-- The text without one given character at its end. -/
def dropLastIf (c : Char) (cs : List Char) : List Char :=
  if cs.getLast? = some c then cs.dropLast else cs

theorem dropLastIf_concat (c : Char) (cs : List Char) : dropLastIf c (cs ++ [c]) = cs := by
  rw [dropLastIf, if_pos List.getLast?_concat, List.dropLast_concat]

theorem dropLastIf_of_ne {c : Char} {cs : List Char} (h : cs.getLast? ≠ some c) :
    dropLastIf c cs = cs :=
  if_neg h

/-- What is left when a character goes had it at the end or not. -/
theorem dropLastIf_eq_iff {c : Char} {cs left : List Char} (h : left.getLast? ≠ some c) :
    dropLastIf c cs = left ↔ cs = left ∨ cs = left ++ [c] := by
  constructor
  · intro hdrop
    by_cases hlast : cs.getLast? = some c
    · obtain ⟨init, rfl⟩ := List.getLast?_eq_some_iff.mp hlast
      rw [dropLastIf_concat] at hdrop
      exact Or.inr (hdrop ▸ rfl)
    · rw [dropLastIf_of_ne hlast] at hdrop
      exact Or.inl hdrop
  · rintro (rfl | rfl)
    · exact dropLastIf_of_ne h
    · exact dropLastIf_concat c left

/-- A line without its terminator: first one line feed goes, then one carriage return. -/
def trimTerminator (line : String) : String :=
  String.ofList (dropLastIf '\r' (dropLastIf '\n' line.toList))

/-- The lines of a text: a line feed ends each, and a carriage return before the feed goes with it. A
    carriage return at the end of the text stays, as no feed follows it. -/
def lines (text : String) : List String :=
  let pieces := text.toList.splitOn '\n'
  let ended := pieces.dropLast.map (dropLastIf '\r')
  let last := pieces.getLast?.getD []
  (ended ++ if last = [] then [] else [last]).map String.ofList

/-- The entries of a list: its lines without carriage returns at their end. -/
def entries (text : String) : List String :=
  (lines text).map fun line => String.ofList (line.toList.reverse.dropWhile (· = '\r')).reverse

end Conformance.Text
