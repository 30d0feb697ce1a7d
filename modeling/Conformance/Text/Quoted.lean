import Conformance.Text.Decimal
import Conformance.Text.Unseen

/-!
# Quoted text

Messages and summaries show observed text between double quotes. A quotation never spans lines and
never hides a character: the quote and the backslash take a backslash, four controls have a letter,
and every other unseen character is written as its code point in braces.
-/

namespace Conformance.Text

/-- One character inside a quotation. -/
def quotedChar (c : Char) : List Char :=
  match c with
  | '"' => ['\\', '"']
  | '\\' => ['\\', '\\']
  | '\n' => ['\\', 'n']
  | '\r' => ['\\', 'r']
  | '\t' => ['\\', 't']
  | '\x00' => ['\\', '0']
  | c => if isUnseen c then ['\\', 'u', '{'] ++ Nat.toDigits 16 c.toNat ++ ['}'] else [c]

/-- No character is written as a feed, not even the feed. -/
theorem feed_notMem_quotedChar (c : Char) : '\n' ∉ quotedChar c := by
  unfold quotedChar
  split
  · decide
  · decide
  · decide
  · decide
  · decide
  · decide
  · next hfeed _ _ _ =>
      split
      · intro hmem
        have hdigits : ∀ d, d < 16 → '\n' ≠ Nat.digitChar d := by decide
        simp only [List.mem_append, List.mem_cons, List.not_mem_nil, or_false] at hmem
        rcases hmem with ((h | h | h) | h) | h
        · exact absurd h (by decide)
        · exact absurd h (by decide)
        · exact absurd h (by decide)
        · obtain ⟨d, hd, heq⟩ := exists_digitChar_of_mem_toDigits (by decide) h
          exact hdigits d hd heq
        · exact absurd h (by decide)
      · intro hmem
        exact hfeed (List.mem_singleton.mp hmem).symm

/-- A text between double quotes. -/
def quoted (text : String) : String :=
  String.ofList (['"'] ++ text.toList.flatMap quotedChar ++ ['"'])

/-- **A quotation never spans lines**, whatever it quotes. -/
theorem feed_notMem_quoted (text : String) : '\n' ∉ (quoted text).toList := by
  rw [quoted, String.toList_ofList]
  intro hmem
  rcases List.mem_append.mp hmem with hmem | hmem
  · rcases List.mem_append.mp hmem with hmem | hmem
    · exact absurd hmem (by decide)
    · obtain ⟨c, -, hc⟩ := List.mem_flatMap.mp hmem
      exact feed_notMem_quotedChar c hc
  · exact absurd hmem (by decide)

theorem getLast?_quoted (text : String) : (quoted text).toList.getLast? = some '"' := by
  rw [quoted, String.toList_ofList, List.getLast?_concat]

end Conformance.Text
