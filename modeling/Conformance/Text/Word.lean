import Conformance.Text.Decimal

/-!
# Decimal words

Reading a 64-bit number as a user types it: digits, after one plus sign at most. Characters are taken
from the left, and the first one at which reading has to stop decides what is wrong.
-/

namespace Conformance.Text

/-- Why a text is no 64-bit number. -/
inductive WordError where
  | empty
  | invalidDigit
  | tooLarge
deriving DecidableEq, Repr

/-- The message of the error. -/
def WordError.message : WordError → String
  | empty => "cannot parse integer from empty string"
  | invalidDigit => "invalid digit found in string"
  | tooLarge => "number too large to fit in target type"

/-- Read digits after those that gave a value. -/
def wordDigits (value : Nat) : List Char → Except WordError Nat
  | [] => .ok value
  | c :: rest =>
    match digitValue? c with
    | none => .error .invalidDigit
    | some d =>
      if value * 10 + d < UInt64.size then wordDigits (value * 10 + d) rest else .error .tooLarge

/-- Read a 64-bit number. -/
def word (text : String) : Except WordError Nat :=
  match text.toList with
  | [] => .error .empty
  | ['+'] => .error .invalidDigit
  | '+' :: digits => wordDigits 0 digits
  | digits => wordDigits 0 digits

/-! ## What is a word -/

/-- Whether a text writes a number in decimal: digits, at least one, after one plus sign at most.
    Leading zeros do not count. -/
def Writes (text : String) (n : Nat) : Prop :=
  ∃ digits, (text.toList = digits ∨ text.toList = '+' :: digits) ∧ digits ≠ [] ∧
    (∀ c ∈ digits, c.isDigit = true) ∧ Nat.ofDigitChars 10 digits 0 = n

theorem writes_decimal (n : Nat) : Writes (decimal n) n := by
  refine ⟨Nat.toDigits 10 n, Or.inl String.toList_ofList, Nat.toDigits_ne_nil, fun c hc => ?_,
    Nat.ofDigitChars_ten_toDigits⟩
  exact Nat.isDigit_of_mem_toDigits (by decide) (by decide) hc

/-- Digits that follow never make a number smaller. -/
theorem le_ofDigitChars (digits : List Char) (value : Nat) :
    value ≤ Nat.ofDigitChars 10 digits value := by
  rw [Nat.ofDigitChars_eq_ofDigitChars_zero]
  exact Nat.le_trans (Nat.le_mul_of_pos_left _ (Nat.pow_pos (by decide))) (Nat.le_add_right _ _)

/-- Digits are all that is read, and a value that has left the words never comes back. -/
theorem wordDigits_eq_ok_iff {value n : Nat} {cs : List Char} (hvalue : value < UInt64.size) :
    wordDigits value cs = .ok n ↔
      (∀ c ∈ cs, c.isDigit = true) ∧ Nat.ofDigitChars 10 cs value = n ∧ n < UInt64.size := by
  induction cs generalizing value with
  | nil =>
      rw [wordDigits, Nat.ofDigitChars_nil, Except.ok.injEq]
      exact ⟨fun h => ⟨nofun, h, h ▸ hvalue⟩, fun h => h.2.1⟩
  | cons c rest ih =>
      rw [wordDigits, List.forall_mem_cons, Nat.ofDigitChars_cons, Nat.mul_comm 10]
      by_cases hc : c.isDigit = true
      · rw [digitValue?_of_isDigit hc, and_iff_right hc]
        dsimp only
        split
        · next hfits => exact ih hfits
        · next hlarge =>
          refine iff_of_false nofun fun ⟨_, hn, hsmall⟩ => hlarge ?_
          exact Nat.lt_of_le_of_lt (le_ofDigitChars rest _) (hn ▸ hsmall)
      · rw [digitValue?_of_not_isDigit hc]
        exact iff_of_false nofun fun h => hc h.1.1

/-- A plus sign is no digit, so what it stands in front of is the number. -/
theorem writes_plus_iff {text : String} {digits : List Char} (h : text.toList = '+' :: digits)
    {n : Nat} :
    Writes text n ↔
      digits ≠ [] ∧ (∀ c ∈ digits, c.isDigit = true) ∧ Nat.ofDigitChars 10 digits 0 = n := by
  rw [Writes, h]
  constructor
  · rintro ⟨written, rfl | heq, hwritten⟩
    · exact absurd (hwritten.2.1 '+' List.mem_cons_self) (by decide)
    · obtain ⟨-, rfl⟩ := List.cons.inj heq
      exact hwritten
  · exact fun hdigits => ⟨digits, Or.inr rfl, hdigits⟩

theorem writes_plain_iff {text : String} {digits : List Char} (h : text.toList = digits)
    (hplus : digits.head? ≠ some '+') {n : Nat} :
    Writes text n ↔
      digits ≠ [] ∧ (∀ c ∈ digits, c.isDigit = true) ∧ Nat.ofDigitChars 10 digits 0 = n := by
  rw [Writes, h]
  constructor
  · rintro ⟨written, rfl | rfl, hwritten⟩
    · exact hwritten
    · exact absurd rfl hplus
  · exact fun hdigits => ⟨digits, Or.inl rfl, hdigits⟩

/-- **A text is read just if it writes a word**, and as the number that it writes. -/
theorem word_eq_ok_iff {text : String} {n : Nat} :
    word text = .ok n ↔ Writes text n ∧ n < UInt64.size := by
  have hread (digits : List Char) (hdigits : digits ≠ []) : wordDigits 0 digits = .ok n ↔
      (digits ≠ [] ∧ (∀ c ∈ digits, c.isDigit = true) ∧ Nat.ofDigitChars 10 digits 0 = n) ∧
        n < UInt64.size := by
    rw [wordDigits_eq_ok_iff (by decide), and_iff_right hdigits, and_assoc]
  unfold word
  split
  · next hempty =>
    rw [writes_plain_iff hempty nofun]
    exact iff_of_false nofun fun h => h.1.1 rfl
  · next hplus =>
    rw [writes_plus_iff hplus]
    exact iff_of_false nofun fun h => h.1.1 rfl
  · next digits hdigits hplus =>
    rw [writes_plus_iff hplus]
    exact hread digits hdigits
  · next hempty _ hsigned =>
    have hplus : text.toList.head? ≠ some '+' := fun hhead =>
      have ⟨rest, hrest⟩ := List.head?_eq_some_iff.mp hhead
      hsigned rest hrest
    rw [writes_plain_iff rfl hplus]
    exact hread text.toList hempty

end Conformance.Text
