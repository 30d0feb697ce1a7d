import Conformance.Text.Utf8

/-!
# Text survives being bytes

Whatever text is written is read back as itself: `decode_encode`. The reader takes one byte at a time,
so the proof follows the bytes of one character through it, from a state without an unfinished
character to the next such state (`foldl_step_utf8EncodeChar`), once for each of the four lengths that
a character can have. Along the way: an ASCII byte stands in an encoding only for its own character.
-/

namespace Conformance.Text

/-! ## One byte -/

theorem toNat_ofNat_byte {n : Nat} (h : n < 256) : (UInt8.ofNat n).toNat = n := by
  rw [UInt8.toNat_ofNat', Nat.mod_eq_of_lt h]

namespace Reading

theorem begin_ascii (chars : List Char) {b : UInt8} (h : b.toNat < 0x80) :
    begin chars b = ⟨Char.ofNat b.toNat :: chars, none⟩ := by
  have hb : b < 0x80 := UInt8.lt_iff_toNat_lt.mpr h
  rw [begin, if_pos hb]

theorem begin_two (chars : List Char) {b : UInt8} (hlow : 0xC2 ≤ b.toNat) (hhigh : b.toNat < 0xE0) :
    begin chars b = ⟨chars, some ⟨b.toNat - 0xC0, 1, 0x80, 0xBF⟩⟩ := by
  have h₀ : ¬ b < 0x80 := by rw [UInt8.lt_iff_toNat_lt]; show ¬ b.toNat < 0x80; omega
  have h₁ : ¬ b < 0xC2 := by rw [UInt8.lt_iff_toNat_lt]; show ¬ b.toNat < 0xC2; omega
  have h₂ : b < 0xE0 := UInt8.lt_iff_toNat_lt.mpr hhigh
  rw [begin, if_neg h₀, Unfinished.start?, if_neg h₁, if_pos h₂]

theorem begin_three (chars : List Char) {b : UInt8} (hlow : 0xE0 ≤ b.toNat)
    (hhigh : b.toNat < 0xF0) :
    begin chars b = ⟨chars, some ⟨b.toNat - 0xE0, 2, if b = 0xE0 then 0xA0 else 0x80,
      if b = 0xED then 0x9F else 0xBF⟩⟩ := by
  have h₀ : ¬ b < 0x80 := by rw [UInt8.lt_iff_toNat_lt]; show ¬ b.toNat < 0x80; omega
  have h₁ : ¬ b < 0xC2 := by rw [UInt8.lt_iff_toNat_lt]; show ¬ b.toNat < 0xC2; omega
  have h₂ : ¬ b < 0xE0 := by rw [UInt8.lt_iff_toNat_lt]; show ¬ b.toNat < 0xE0; omega
  have h₃ : b < 0xF0 := UInt8.lt_iff_toNat_lt.mpr hhigh
  rw [begin, if_neg h₀, Unfinished.start?, if_neg h₁, if_neg h₂, if_pos h₃]

theorem begin_four (chars : List Char) {b : UInt8} (hlow : 0xF0 ≤ b.toNat)
    (hhigh : b.toNat < 0xF5) :
    begin chars b = ⟨chars, some ⟨b.toNat - 0xF0, 3, if b = 0xF0 then 0x90 else 0x80,
      if b = 0xF4 then 0x8F else 0xBF⟩⟩ := by
  have h₀ : ¬ b < 0x80 := by rw [UInt8.lt_iff_toNat_lt]; show ¬ b.toNat < 0x80; omega
  have h₁ : ¬ b < 0xC2 := by rw [UInt8.lt_iff_toNat_lt]; show ¬ b.toNat < 0xC2; omega
  have h₂ : ¬ b < 0xE0 := by rw [UInt8.lt_iff_toNat_lt]; show ¬ b.toNat < 0xE0; omega
  have h₃ : ¬ b < 0xF0 := by rw [UInt8.lt_iff_toNat_lt]; show ¬ b.toNat < 0xF0; omega
  have h₄ : b < 0xF5 := UInt8.lt_iff_toNat_lt.mpr hhigh
  rw [begin, if_neg h₀, Unfinished.start?, if_neg h₁, if_neg h₂, if_neg h₃, if_pos h₄]

/-- A byte in range is taken into the unfinished character. -/
theorem step_within (chars : List Char) {bits owed : Nat} {low high b : UInt8}
    (hlow : low ≤ b) (hhigh : b ≤ high) (howed : 1 < owed) :
    step ⟨chars, some ⟨bits, owed, low, high⟩⟩ b =
      ⟨chars, some ⟨bits * 64 + (b.toNat - 0x80), owed - 1, 0x80, 0xBF⟩⟩ := by
  show (if low ≤ b ∧ b ≤ high then _ else _) = _
  rw [if_pos ⟨hlow, hhigh⟩, if_neg (Nat.not_le_of_lt howed)]

/-- The last byte of a character completes it. -/
theorem step_last (chars : List Char) {bits : Nat} {low high b : UInt8}
    (hlow : low ≤ b) (hhigh : b ≤ high) :
    step ⟨chars, some ⟨bits, 1, low, high⟩⟩ b =
      ⟨Char.ofNat (bits * 64 + (b.toNat - 0x80)) :: chars, none⟩ := by
  show (if low ≤ b ∧ b ≤ high then _ else _) = _
  rw [if_pos ⟨hlow, hhigh⟩, if_pos (Nat.le_refl 1)]

end Reading

/-! ## One character -/

/-- The byte that carries six bits behind the first byte of a character. -/
def tailByte (n : Nat) : UInt8 := UInt8.ofNat (n % 0x40 + 0x80)

theorem toNat_tailByte (n : Nat) : (tailByte n).toNat = n % 0x40 + 0x80 :=
  toNat_ofNat_byte (by omega)

theorem le_tailByte (n : Nat) : 0x80 ≤ tailByte n := by
  rw [UInt8.le_iff_toNat_le, toNat_tailByte]
  exact Nat.le_add_left _ _

theorem tailByte_le (n : Nat) : tailByte n ≤ 0xBF := by
  rw [UInt8.le_iff_toNat_le, toNat_tailByte]
  show n % 0x40 + 0x80 ≤ 0xBF
  omega

theorem foldl_step_two (chars : List Char) {v : Nat} (hlow : 0x7F < v) (hhigh : v ≤ 0x7FF) :
    [UInt8.ofNat (v / 64 % 0x20 + 0xC0), tailByte v].foldl Reading.step ⟨chars, none⟩ =
      ⟨Char.ofNat v :: chars, none⟩ := by
  have h₀ : (UInt8.ofNat (v / 64 % 0x20 + 0xC0)).toNat = v / 64 % 0x20 + 0xC0 :=
    toNat_ofNat_byte (by omega)
  show Reading.step (Reading.begin chars (UInt8.ofNat (v / 64 % 0x20 + 0xC0))) _ = _
  rw [Reading.begin_two chars (by omega) (by omega),
    Reading.step_last chars (le_tailByte v) (tailByte_le v), h₀, toNat_tailByte]
  have hv : (v / 64 % 0x20 + 0xC0 - 0xC0) * 64 + (v % 0x40 + 0x80 - 0x80) = v := by omega
  rw [hv]

theorem foldl_step_three (chars : List Char) {v : Nat} (hlow : 0x7FF < v) (hhigh : v ≤ 0xFFFF)
    (hvalid : v < 0xD800 ∨ 0xDFFF < v) :
    [UInt8.ofNat (v / 4096 % 0x10 + 0xE0), tailByte (v / 64), tailByte v].foldl
        Reading.step ⟨chars, none⟩ =
      ⟨Char.ofNat v :: chars, none⟩ := by
  have h₀ : (UInt8.ofNat (v / 4096 % 0x10 + 0xE0)).toNat = v / 4096 % 0x10 + 0xE0 :=
    toNat_ofNat_byte (by omega)
  -- the narrowed ranges: no overlong form, no surrogate
  have hfrom : (if UInt8.ofNat (v / 4096 % 0x10 + 0xE0) = 0xE0 then 0xA0 else 0x80) ≤
      tailByte (v / 64) := by
    split
    · next he =>
      have hv := congrArg UInt8.toNat he
      rw [h₀, show (0xE0 : UInt8).toNat = 0xE0 from rfl] at hv
      rw [UInt8.le_iff_toNat_le, toNat_tailByte]
      show 0xA0 ≤ v / 64 % 0x40 + 0x80
      omega
    · exact le_tailByte _
  have hto : tailByte (v / 64) ≤
      if UInt8.ofNat (v / 4096 % 0x10 + 0xE0) = 0xED then 0x9F else 0xBF := by
    split
    · next he =>
      have hv := congrArg UInt8.toNat he
      rw [h₀, show (0xED : UInt8).toNat = 0xED from rfl] at hv
      rw [UInt8.le_iff_toNat_le, toNat_tailByte]
      show v / 64 % 0x40 + 0x80 ≤ 0x9F
      omega
    · exact tailByte_le _
  show Reading.step (Reading.step (Reading.begin chars
    (UInt8.ofNat (v / 4096 % 0x10 + 0xE0))) _) _ = _
  rw [Reading.begin_three chars (by omega) (by omega),
    Reading.step_within chars hfrom hto (by decide),
    Reading.step_last chars (le_tailByte v) (tailByte_le v), h₀, toNat_tailByte, toNat_tailByte]
  have hv : ((v / 4096 % 0x10 + 0xE0 - 0xE0) * 64 + (v / 64 % 0x40 + 0x80 - 0x80)) * 64 +
      (v % 0x40 + 0x80 - 0x80) = v := by omega
  rw [hv]

theorem foldl_step_four (chars : List Char) {v : Nat} (hlow : 0xFFFF < v) (hhigh : v < 0x110000) :
    [UInt8.ofNat (v / 262144 % 0x08 + 0xF0), tailByte (v / 4096), tailByte (v / 64),
        tailByte v].foldl Reading.step ⟨chars, none⟩ =
      ⟨Char.ofNat v :: chars, none⟩ := by
  have h₀ : (UInt8.ofNat (v / 262144 % 0x08 + 0xF0)).toNat = v / 262144 % 0x08 + 0xF0 :=
    toNat_ofNat_byte (by omega)
  -- the narrowed ranges: no overlong form, nothing past the last character
  have hfrom : (if UInt8.ofNat (v / 262144 % 0x08 + 0xF0) = 0xF0 then 0x90 else 0x80) ≤
      tailByte (v / 4096) := by
    split
    · next he =>
      have hv := congrArg UInt8.toNat he
      rw [h₀, show (0xF0 : UInt8).toNat = 0xF0 from rfl] at hv
      rw [UInt8.le_iff_toNat_le, toNat_tailByte]
      show 0x90 ≤ v / 4096 % 0x40 + 0x80
      omega
    · exact le_tailByte _
  have hto : tailByte (v / 4096) ≤
      if UInt8.ofNat (v / 262144 % 0x08 + 0xF0) = 0xF4 then 0x8F else 0xBF := by
    split
    · next he =>
      have hv := congrArg UInt8.toNat he
      rw [h₀, show (0xF4 : UInt8).toNat = 0xF4 from rfl] at hv
      rw [UInt8.le_iff_toNat_le, toNat_tailByte]
      show v / 4096 % 0x40 + 0x80 ≤ 0x8F
      omega
    · exact tailByte_le _
  show Reading.step (Reading.step (Reading.step (Reading.begin chars
    (UInt8.ofNat (v / 262144 % 0x08 + 0xF0))) _) _) _ = _
  rw [Reading.begin_four chars (by omega) (by omega),
    Reading.step_within chars hfrom hto (by decide),
    Reading.step_within chars (le_tailByte _) (tailByte_le _) (by decide),
    Reading.step_last chars (le_tailByte v) (tailByte_le v), h₀, toNat_tailByte, toNat_tailByte,
    toNat_tailByte]
  have hv : (((v / 262144 % 0x08 + 0xF0 - 0xF0) * 64 + (v / 4096 % 0x40 + 0x80 - 0x80)) * 64 +
      (v / 64 % 0x40 + 0x80 - 0x80)) * 64 + (v % 0x40 + 0x80 - 0x80) = v := by omega
  rw [hv]

/-- **The reader takes a character as a whole**, from between two characters to between two. -/
theorem foldl_step_utf8EncodeChar (chars : List Char) (c : Char) :
    (String.utf8EncodeChar c).foldl Reading.step ⟨chars, none⟩ = ⟨c :: chars, none⟩ := by
  have hvalid : c.val.toNat < 0xD800 ∨ 0xDFFF < c.val.toNat ∧ c.val.toNat < 0x110000 := c.valid
  have hchar : Char.ofNat c.val.toNat = c := Char.ofNat_toNat c
  unfold String.utf8EncodeChar
  generalize c.val.toNat = v at hvalid hchar
  subst hchar
  dsimp only
  split
  · next h₁ =>
    have h₀ : (UInt8.ofNat v).toNat = v := toNat_ofNat_byte (by omega)
    show Reading.begin chars (UInt8.ofNat v) = _
    rw [Reading.begin_ascii chars (by omega), h₀]
  · next h₁ =>
    split
    · next h₂ => exact foldl_step_two chars (Nat.lt_of_not_le h₁) h₂
    · next h₂ =>
      split
      · next h₃ => exact foldl_step_three chars (Nat.lt_of_not_le h₂) h₃ (by omega)
      · next h₃ => exact foldl_step_four chars (Nat.lt_of_not_le h₃) (by omega)

theorem foldl_step_encode (chars cs : List Char) :
    (cs.flatMap String.utf8EncodeChar).foldl Reading.step ⟨chars, none⟩ =
      ⟨cs.reverse ++ chars, none⟩ := by
  induction cs generalizing chars with
  | nil => rfl
  | cons c cs ih =>
      rw [List.flatMap_cons, List.foldl_append, foldl_step_utf8EncodeChar, ih,
        List.reverse_cons, List.append_assoc]
      rfl

/-- **A text that was written is read back as itself.** -/
theorem decode_encode (text : String) : decode (encode text) = text := by
  rw [decode, encode, foldl_step_encode, List.append_nil]
  show String.ofList text.toList.reverse.reverse = text
  rw [List.reverse_reverse, String.ofList_toList]

theorem encode_injective : Function.Injective encode :=
  Function.LeftInverse.injective decode_encode

/-! ## Every byte counts -/

/-- Once a byte has been taken, a character was read or has begun. -/
theorem Reading.begun_step (r : Reading) (b : UInt8) :
    (r.step b).chars ≠ [] ∨ (r.step b).unfinished ≠ none := by
  have hbegin : ∀ chars, (begin chars b).chars ≠ [] ∨ (begin chars b).unfinished ≠ none := by
    intro chars
    unfold begin
    split
    · exact Or.inl (List.cons_ne_nil _ _)
    · split
      · exact Or.inr (Option.some_ne_none _)
      · exact Or.inl (List.cons_ne_nil _ _)
  unfold step
  split
  · exact hbegin r.chars
  · split
    · dsimp only
      split
      · exact Or.inl (List.cons_ne_nil _ _)
      · exact Or.inr (Option.some_ne_none _)
    · exact hbegin _

/-- Only no bytes at all are read as no text. -/
theorem decode_ne_empty {bytes : Bytes} (h : bytes ≠ []) : (decode bytes).toList ≠ [] := by
  rw [decode, String.toList_ofList, ← List.dropLast_concat_getLast h, List.foldl_append,
    List.foldl_cons, List.foldl_nil, Reading.finish]
  split
  · next hnone =>
    have hchars := (Reading.begun_step _ _).resolve_right (fun hne => hne hnone)
    exact fun hnil => hchars (List.reverse_eq_nil_iff.mp hnil)
  · exact fun hnil => List.cons_ne_nil _ _ (List.reverse_eq_nil_iff.mp hnil)

/-! ## ASCII -/

/-- An ASCII byte stands in the bytes of a character only for that character. -/
theorem toNat_eq_of_mem_utf8EncodeChar {b : UInt8} {c : Char} (hb : b.toNat < 0x80)
    (h : b ∈ String.utf8EncodeChar c) : b.toNat = c.toNat := by
  have hvalid : c.val.toNat < 0xD800 ∨ 0xDFFF < c.val.toNat ∧ c.val.toNat < 0x110000 := c.valid
  have hhigh : ∀ n : Nat, 0x80 ≤ n → n < 256 → b ≠ UInt8.ofNat n := by
    intro n hlow hn heq
    rw [heq, toNat_ofNat_byte hn] at hb
    omega
  show b.toNat = c.val.toNat
  unfold String.utf8EncodeChar at h
  generalize c.val.toNat = v at hvalid h
  dsimp only at h
  split at h
  · next h₁ =>
    rw [List.mem_singleton.mp h]
    exact toNat_ofNat_byte (by omega)
  · exfalso
    split at h
    · simp only [List.mem_cons, List.not_mem_nil, or_false] at h
      rcases h with h | h <;> exact hhigh _ (by omega) (by omega) h
    · split at h
      · simp only [List.mem_cons, List.not_mem_nil, or_false] at h
        rcases h with h | h | h <;> exact hhigh _ (by omega) (by omega) h
      · simp only [List.mem_cons, List.not_mem_nil, or_false] at h
        rcases h with h | h | h | h <;> exact hhigh _ (by omega) (by omega) h

/-- A text without line feeds has none among its bytes. -/
theorem feed_notMem_encode {text : String} (h : '\n' ∉ text.toList) : 10 ∉ encode text := by
  intro hmem
  obtain ⟨c, hc, hb⟩ := List.mem_flatMap.mp hmem
  have hnat : c.toNat = 10 := (toNat_eq_of_mem_utf8EncodeChar (by decide) hb).symm
  have hfeed : c = '\n' := by rw [← Char.ofNat_toNat c, hnat]
  exact h (hfeed ▸ hc)

theorem encode_append (a b : String) : encode (a ++ b) = encode a ++ encode b := by
  rw [encode, String.toList_append, List.flatMap_append]
  rfl

end Conformance.Text
