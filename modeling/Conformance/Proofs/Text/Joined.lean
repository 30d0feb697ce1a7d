import Mathlib.Data.List.Basic
import Mathlib.Data.List.TakeDrop
import Mathlib.Data.List.TakeWhile

/-!
# Joined texts

Texts joined by a separator can be told apart again only as far as they do not hold the separator
themselves. Cutting the whole at the separator cuts every text in it (`splitOn_intercalate_flatMap`), so
there are at least as many pieces as texts. A list of texts without separators is therefore found again
from its joined form among all lists that are not shorter: `eq_of_joined_eq`.

Cut at its first separator only, a text is found again with all that was joined to it, whatever that is:
`span_separator`, `separator_inj`.
-/

namespace Conformance.Text

variable {α : Type} [DecidableEq α] {separator : α}

/-! ## The first separator -/

theorem forall_ne_separator {text : List α} (h : separator ∉ text) :
    ∀ c ∈ text, decide (c ≠ separator) = true :=
  fun _ hc => decide_eq_true fun heq => h (heq ▸ hc)

theorem span_of_notMem {text : List α} (h : separator ∉ text) :
    text.span (· ≠ separator) = (text, []) := by
  rw [List.span_eq_takeWhile_dropWhile, List.takeWhile_eq_self_iff.mpr (forall_ne_separator h),
    List.dropWhile_eq_nil_iff.mpr (forall_ne_separator h)]

/-- **A text is cut at its first separator**, whatever stands behind it. -/
theorem span_separator {text : List α} (h : separator ∉ text) (rest : List α) :
    (text ++ separator :: rest).span (· ≠ separator) = (text, separator :: rest) := by
  rw [List.span_eq_takeWhile_dropWhile, List.takeWhile_append_of_pos (forall_ne_separator h),
    List.dropWhile_append_of_pos (forall_ne_separator h), List.takeWhile_cons_of_neg (by simp),
    List.dropWhile_cons_of_neg (by simp), List.append_nil]

/-- There is only one first separator. -/
theorem separator_inj {text text' rest rest' : List α} (htext : separator ∉ text)
    (htext' : separator ∉ text') (h : text ++ separator :: rest = text' ++ separator :: rest') :
    text = text' ∧ rest = rest' := by
  have hspan := span_separator htext rest
  rw [h, span_separator htext' rest'] at hspan
  obtain ⟨rfl, hrest⟩ := Prod.mk.inj hspan
  exact ⟨rfl, (List.cons.inj hrest).2.symm⟩

/-! ## Pieces -/

/-- The pieces of joined texts are the pieces of the texts. -/
theorem splitOn_intercalate_flatMap {texts : List (List α)} (h : texts ≠ []) :
    ([separator].intercalate texts).splitOn separator = texts.flatMap (List.splitOn separator) := by
  induction texts with
  | nil => exact absurd rfl h
  | cons text rest ih =>
      by_cases hrest : rest = []
      · rw [hrest, List.intercalate_singleton, List.flatMap_singleton]
      · rw [List.intercalate_cons_of_ne_nil hrest, List.append_assoc, List.singleton_append,
          List.splitOn_append_cons_self, ih hrest, List.flatMap_cons]

theorem length_splitOn_pos (separator : α) (text : List α) :
    0 < (text.splitOn separator).length :=
  List.length_pos_of_ne_nil (List.splitOn_ne_nil separator text)

theorem length_le_length_pieces (separator : α) (texts : List (List α)) :
    texts.length ≤ (texts.flatMap (List.splitOn separator)).length := by
  induction texts with
  | nil => exact Nat.zero_le _
  | cons text rest ih =>
      have hpos := length_splitOn_pos separator text
      rw [List.flatMap_cons, List.length_append, List.length_cons]
      omega

/-- A text with a single piece is that piece. -/
theorem eq_of_splitOn_eq_singleton {text piece : List α}
    (h : text.splitOn separator = [piece]) : piece = text := by
  have hjoined : [separator].intercalate (text.splitOn separator) = text :=
    List.intercalate_splitOn separator
  rwa [h, List.intercalate_singleton] at hjoined

/-- With no more pieces than texts, every text is one piece. -/
theorem pieces_eq_of_length_le {texts : List (List α)}
    (h : (texts.flatMap (List.splitOn separator)).length ≤ texts.length) :
    texts.flatMap (List.splitOn separator) = texts := by
  induction texts with
  | nil => rfl
  | cons text rest ih =>
      have hpos := length_splitOn_pos separator text
      have hrest := length_le_length_pieces separator rest
      rw [List.flatMap_cons, List.length_append, List.length_cons] at h
      obtain ⟨piece, hpiece⟩ : ∃ piece, text.splitOn separator = [piece] :=
        List.length_eq_one_iff.mp (by omega)
      rw [List.flatMap_cons, ih (by omega), hpiece, eq_of_splitOn_eq_singleton hpiece,
        List.singleton_append]

/-- **Texts without separators are found again from their joined form**, among all lists of texts that
    are not shorter and hold no empty text. -/
theorem eq_of_joined_eq {texts others : List (List α)} (hpieces : ∀ text ∈ texts, separator ∉ text)
    (hlength : texts.length ≤ others.length) (hothers : ∀ other ∈ others, other ≠ [])
    (h : [separator].intercalate texts = [separator].intercalate others) : texts = others := by
  cases texts with
  | nil =>
      -- nothing joined is nothing, and a text in the other list would be seen
      cases others with
      | nil => rfl
      | cons other rest =>
          obtain ⟨first, more, hother⟩ := List.exists_cons_of_ne_nil (hothers other List.mem_cons_self)
          rw [hother, List.intercalate_cons_cons_left] at h
          exact absurd h (List.cons_ne_nil _ _).symm
  | cons text rest =>
      have hne : others ≠ [] := List.ne_nil_of_length_pos (Nat.lt_of_lt_of_le (Nat.succ_pos _) hlength)
      have hsplit := congrArg (List.splitOn separator) h
      rw [List.splitOn_intercalate separator hpieces (List.cons_ne_nil _ _),
        splitOn_intercalate_flatMap hne] at hsplit
      rw [hsplit] at hlength ⊢
      exact pieces_eq_of_length_le hlength

end Conformance.Text
