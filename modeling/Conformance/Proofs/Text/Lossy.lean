import Conformance.Proofs.Text.Utf8
import Mathlib.Data.List.Induction

/-!
# What reading bytes as text loses

Reading is forgiving, so different bytes may be read as one text. Two things are never lost.

* **Bytes that are text throughout.** If no replacement character was read, the bytes are those of the
  text that was read (`encode_decode`). The proof follows the reader: the bytes that it has taken are
  those of the characters that it has read and of one that it has begun (`Reading.Took`).
* **ASCII.** An ASCII byte is read as its character wherever it stands, even behind a character that was
  cut off, and what follows it is read as if nothing had come before (`toList_decode_ascii`). No other
  bytes are read as an ASCII character (`mem_of_mem_decode`, `decode_eq_concat_iff`).
-/

namespace Conformance.Text

/-! ## Characters from bytes -/

theorem toNat_ofNat {n : Nat} (h : n.isValidChar) : (Char.ofNat n).toNat = n := by
  rw [Char.ofNat, dif_pos h]
  rfl

theorem between_tail {b : UInt8} (h : 0x80 ≤ b) (h' : b ≤ 0xBF) : 0x80 ≤ b.toNat ∧ b.toNat ≤ 0xBF :=
  ⟨UInt8.le_iff_toNat_le.mp h, UInt8.le_iff_toNat_le.mp h'⟩

/-- A bound that is raised for one first byte, as numbers. -/
theorem ite_toNat_le {a b n : UInt8} {low : UInt8} (h : (if a = n then low else 0x80) ≤ b) :
    (a.toNat = n.toNat → low.toNat ≤ b.toNat) ∧ (a.toNat ≠ n.toNat → 0x80 ≤ b.toNat) := by
  split at h
  · next heq => exact ⟨fun _ => UInt8.le_iff_toNat_le.mp h, fun hne => absurd (congrArg _ heq) hne⟩
  · next hne => exact ⟨fun heq => absurd (UInt8.toNat_inj.mp heq) hne,
      fun _ => UInt8.le_iff_toNat_le.mp h⟩

/-- A bound that is lowered for one first byte, as numbers. -/
theorem le_ite_toNat {a b n : UInt8} {high : UInt8} (h : b ≤ if a = n then high else 0xBF) :
    (a.toNat = n.toNat → b.toNat ≤ high.toNat) ∧ (a.toNat ≠ n.toNat → b.toNat ≤ 0xBF) := by
  split at h
  · next heq => exact ⟨fun _ => UInt8.le_iff_toNat_le.mp h, fun hne => absurd (congrArg _ heq) hne⟩
  · next hne => exact ⟨fun heq => absurd (UInt8.toNat_inj.mp heq) hne,
      fun _ => UInt8.le_iff_toNat_le.mp h⟩

theorem utf8EncodeChar_ascii {c : Char} (h : c.toNat < 0x80) :
    String.utf8EncodeChar c = [UInt8.ofNat c.toNat] := by
  have hv : c.val.toNat < 0x80 := h
  unfold String.utf8EncodeChar
  dsimp only
  rw [if_pos (by omega)]
  rfl

theorem utf8EncodeChar_two {a b : UInt8} (ha : 0xC2 ≤ a.toNat) (ha' : a.toNat < 0xE0)
    (hb : 0x80 ≤ b.toNat) (hb' : b.toNat ≤ 0xBF) :
    String.utf8EncodeChar (Char.ofNat ((a.toNat - 0xC0) * 64 + (b.toNat - 0x80))) = [a, b] := by
  generalize hn : (a.toNat - 0xC0) * 64 + (b.toNat - 0x80) = n
  have hv : (Char.ofNat n).val.toNat = n := toNat_ofNat (Or.inl (by omega))
  have h₀ : n / 64 % 32 + 192 = a.toNat := by omega
  have h₁ : n % 64 + 128 = b.toNat := by omega
  unfold String.utf8EncodeChar
  rw [hv]
  dsimp only
  rw [if_neg (by omega), if_pos (by omega), h₀, h₁, UInt8.ofNat_toNat, UInt8.ofNat_toNat]

theorem utf8EncodeChar_three {a b c : UInt8} (ha : 0xE0 ≤ a.toNat) (ha' : a.toNat < 0xF0)
    (hb : (if a = 0xE0 then 0xA0 else 0x80) ≤ b) (hb' : b ≤ if a = 0xED then 0x9F else 0xBF)
    (hc : 0x80 ≤ c) (hc' : c ≤ 0xBF) :
    String.utf8EncodeChar (Char.ofNat
      (((a.toNat - 0xE0) * 64 + (b.toNat - 0x80)) * 64 + (c.toNat - 0x80))) = [a, b, c] := by
  have hlow : (a.toNat = 0xE0 → 0xA0 ≤ b.toNat) ∧ (a.toNat ≠ 0xE0 → 0x80 ≤ b.toNat) :=
    ite_toNat_le hb
  have hhigh : (a.toNat = 0xED → b.toNat ≤ 0x9F) ∧ (a.toNat ≠ 0xED → b.toNat ≤ 0xBF) :=
    le_ite_toNat hb'
  have hc₀ := between_tail hc hc'
  generalize hn : ((a.toNat - 0xE0) * 64 + (b.toNat - 0x80)) * 64 + (c.toNat - 0x80) = n
  -- the narrowed ranges keep surrogates out
  have hvalid : n.isValidChar := by
    by_cases h : n < 0xD800
    · exact Or.inl h
    · exact Or.inr ⟨by omega, by omega⟩
  have hv : (Char.ofNat n).val.toNat = n := toNat_ofNat hvalid
  have h₀ : n / 4096 % 16 + 224 = a.toNat := by omega
  have h₁ : n / 64 % 64 + 128 = b.toNat := by omega
  have h₂ : n % 64 + 128 = c.toNat := by omega
  unfold String.utf8EncodeChar
  rw [hv]
  dsimp only
  rw [if_neg (by omega), if_neg (by omega), if_pos (by omega), h₀, h₁, h₂, UInt8.ofNat_toNat,
    UInt8.ofNat_toNat, UInt8.ofNat_toNat]

theorem utf8EncodeChar_four {a b c d : UInt8} (ha : 0xF0 ≤ a.toNat) (ha' : a.toNat < 0xF5)
    (hb : (if a = 0xF0 then 0x90 else 0x80) ≤ b) (hb' : b ≤ if a = 0xF4 then 0x8F else 0xBF)
    (hc : 0x80 ≤ c) (hc' : c ≤ 0xBF) (hd : 0x80 ≤ d) (hd' : d ≤ 0xBF) :
    String.utf8EncodeChar (Char.ofNat
      ((((a.toNat - 0xF0) * 64 + (b.toNat - 0x80)) * 64 + (c.toNat - 0x80)) * 64 +
        (d.toNat - 0x80))) = [a, b, c, d] := by
  have hlow : (a.toNat = 0xF0 → 0x90 ≤ b.toNat) ∧ (a.toNat ≠ 0xF0 → 0x80 ≤ b.toNat) :=
    ite_toNat_le hb
  have hhigh : (a.toNat = 0xF4 → b.toNat ≤ 0x8F) ∧ (a.toNat ≠ 0xF4 → b.toNat ≤ 0xBF) :=
    le_ite_toNat hb'
  have hc₀ := between_tail hc hc'
  have hd₀ := between_tail hd hd'
  generalize hn : (((a.toNat - 0xF0) * 64 + (b.toNat - 0x80)) * 64 + (c.toNat - 0x80)) * 64 +
    (d.toNat - 0x80) = n
  have hv : (Char.ofNat n).val.toNat = n := toNat_ofNat (Or.inr ⟨by omega, by omega⟩)
  have h₀ : n / 262144 % 8 + 240 = a.toNat := by omega
  have h₁ : n / 4096 % 64 + 128 = b.toNat := by omega
  have h₂ : n / 64 % 64 + 128 = c.toNat := by omega
  have h₃ : n % 64 + 128 = d.toNat := by omega
  unfold String.utf8EncodeChar
  rw [hv]
  dsimp only
  rw [if_neg (by omega), if_neg (by omega), if_neg (by omega), h₀, h₁, h₂, h₃, UInt8.ofNat_toNat,
    UInt8.ofNat_toNat, UInt8.ofNat_toNat, UInt8.ofNat_toNat]

/-! ## Unfinished characters -/

/-- Bytes that begin a character, and how the reader stands with it unfinished: after the first byte of
    two, of three and of four, after the second of three and of four, and after the third of four. -/
inductive Unfinished.Begun : Bytes → Unfinished → Prop where
  | oneOfTwo {a : UInt8} (ha : 0xC2 ≤ a.toNat) (ha' : a.toNat < 0xE0) :
      Begun [a] ⟨a.toNat - 0xC0, 1, 0x80, 0xBF⟩
  | oneOfThree {a : UInt8} (ha : 0xE0 ≤ a.toNat) (ha' : a.toNat < 0xF0) :
      Begun [a] ⟨a.toNat - 0xE0, 2, if a = 0xE0 then 0xA0 else 0x80,
        if a = 0xED then 0x9F else 0xBF⟩
  | oneOfFour {a : UInt8} (ha : 0xF0 ≤ a.toNat) (ha' : a.toNat < 0xF5) :
      Begun [a] ⟨a.toNat - 0xF0, 3, if a = 0xF0 then 0x90 else 0x80,
        if a = 0xF4 then 0x8F else 0xBF⟩
  | twoOfThree {a b : UInt8} (ha : 0xE0 ≤ a.toNat) (ha' : a.toNat < 0xF0)
      (hb : (if a = 0xE0 then 0xA0 else 0x80) ≤ b) (hb' : b ≤ if a = 0xED then 0x9F else 0xBF) :
      Begun [a, b] ⟨(a.toNat - 0xE0) * 64 + (b.toNat - 0x80), 1, 0x80, 0xBF⟩
  | twoOfFour {a b : UInt8} (ha : 0xF0 ≤ a.toNat) (ha' : a.toNat < 0xF5)
      (hb : (if a = 0xF0 then 0x90 else 0x80) ≤ b) (hb' : b ≤ if a = 0xF4 then 0x8F else 0xBF) :
      Begun [a, b] ⟨(a.toNat - 0xF0) * 64 + (b.toNat - 0x80), 2, 0x80, 0xBF⟩
  | threeOfFour {a b c : UInt8} (ha : 0xF0 ≤ a.toNat) (ha' : a.toNat < 0xF5)
      (hb : (if a = 0xF0 then 0x90 else 0x80) ≤ b) (hb' : b ≤ if a = 0xF4 then 0x8F else 0xBF)
      (hc : 0x80 ≤ c) (hc' : c ≤ 0xBF) :
      Begun [a, b, c] ⟨((a.toNat - 0xF0) * 64 + (b.toNat - 0x80)) * 64 + (c.toNat - 0x80), 1,
        0x80, 0xBF⟩

namespace Unfinished

variable {bytes : Bytes} {u : Unfinished} {b : UInt8}

theorem begun_start (h : start? b = some u) : Begun [b] u := by
  have hle (n : UInt8) (h : ¬ b < n) : n.toNat ≤ b.toNat :=
    Nat.le_of_not_lt fun hlt => h (UInt8.lt_iff_toNat_lt.mpr hlt)
  unfold start? at h
  split at h
  · exact nomatch h
  · next h₁ =>
    split at h
    · next h₂ =>
      obtain rfl := Option.some.inj h
      exact .oneOfTwo (hle _ h₁) (UInt8.lt_iff_toNat_lt.mp h₂)
    · next h₂ =>
      split at h
      · next h₃ =>
        obtain rfl := Option.some.inj h
        exact .oneOfThree (hle _ h₂) (UInt8.lt_iff_toNat_lt.mp h₃)
      · next h₃ =>
        split at h
        · next h₄ =>
          obtain rfl := Option.some.inj h
          exact .oneOfFour (hle _ h₃) (UInt8.lt_iff_toNat_lt.mp h₄)
        · exact nomatch h

/-- A byte in range goes on with a character that owes more than one. -/
theorem Begun.next (h : Begun bytes u) (hlow : u.low ≤ b) (hhigh : b ≤ u.high) (howed : 1 < u.owed) :
    Begun (bytes ++ [b]) ⟨u.bits * 64 + (b.toNat - 0x80), u.owed - 1, 0x80, 0xBF⟩ := by
  cases h with
  | oneOfTwo | twoOfThree | threeOfFour => exact absurd howed (Nat.lt_irrefl 1)
  | oneOfThree ha ha' => exact .twoOfThree ha ha' hlow hhigh
  | oneOfFour ha ha' => exact .twoOfFour ha ha' hlow hhigh
  | twoOfFour ha ha' hb hb' => exact .threeOfFour ha ha' hb hb' hlow hhigh

/-- **A byte in range completes a character that owes one**, and all its bytes are its encoding. -/
theorem Begun.complete (h : Begun bytes u) (hlow : u.low ≤ b) (hhigh : b ≤ u.high)
    (howed : u.owed ≤ 1) :
    String.utf8EncodeChar (Char.ofNat (u.bits * 64 + (b.toNat - 0x80))) = bytes ++ [b] := by
  cases h with
  | oneOfThree | twoOfFour => exact absurd howed (Nat.not_succ_le_self 1)
  | oneOfFour => exact absurd (Nat.le_of_succ_le howed) (Nat.not_succ_le_self 1)
  | oneOfTwo ha ha' =>
      exact utf8EncodeChar_two ha ha' (UInt8.le_iff_toNat_le.mp hlow)
        (UInt8.le_iff_toNat_le.mp hhigh)
  | twoOfThree ha ha' hb hb' =>
      exact utf8EncodeChar_three ha ha' hb hb' hlow hhigh
  | threeOfFour ha ha' hb hb' hc hc' =>
      exact utf8EncodeChar_four ha ha' hb hb' hc hc' hlow hhigh

/-- No ASCII byte goes on with a character. -/
theorem Begun.low_le (h : Begun bytes u) : 0x80 ≤ u.low := by
  cases h with
  | oneOfTwo | twoOfThree | twoOfFour | threeOfFour => exact UInt8.le_refl _
  | oneOfThree | oneOfFour =>
      dsimp only
      split <;> decide

/-- What is completed is no ASCII character. -/
theorem Begun.complete_high (h : Begun bytes u) (hlow : u.low ≤ b) (hhigh : b ≤ u.high)
    (howed : u.owed ≤ 1) : 0x80 ≤ (Char.ofNat (u.bits * 64 + (b.toNat - 0x80))).toNat := by
  refine Nat.le_of_not_lt fun hascii => ?_
  have hone := congrArg List.length
    ((utf8EncodeChar_ascii hascii).symm.trans (h.complete hlow hhigh howed))
  rw [List.length_append] at hone
  have hempty : bytes = [] := List.eq_nil_of_length_eq_zero (Nat.add_right_cancel hone).symm
  subst hempty
  exact nomatch h

end Unfinished

/-! ## Bytes that are text throughout -/

theorem toNat_ofNat_toNat (b : UInt8) : (Char.ofNat b.toNat).toNat = b.toNat :=
  toNat_ofNat (Or.inl (Nat.lt_trans b.toNat_lt (by decide)))

namespace Reading

/-- The reader has taken bytes: those of a character that it has begun, if it has, behind those of the
    characters that it has read. A replacement among these stands for any bytes. -/
def Took (r : Reading) (bytes : Bytes) : Prop :=
  ∃ done begun, bytes = done ++ begun ∧
    (r.unfinished = none ∧ begun = [] ∨ ∃ u, r.unfinished = some u ∧ u.Begun begun) ∧
    (replacement ∉ r.chars → r.chars.reverse.flatMap String.utf8EncodeChar = done)

variable {r : Reading} {bytes : Bytes} {b : UInt8}

theorem took_begin {chars : List Char} {done : Bytes}
    (hdone : replacement ∉ chars → chars.reverse.flatMap String.utf8EncodeChar = done) (b : UInt8) :
    Took (begin chars b) (done ++ [b]) := by
  unfold begin
  split
  · next hb =>
    refine ⟨done ++ [b], [], (List.append_nil _).symm, .inl ⟨rfl, rfl⟩, fun hmem => ?_⟩
    have hascii : (Char.ofNat b.toNat).toNat < 0x80 := by
      rw [toNat_ofNat_toNat]
      exact UInt8.lt_iff_toNat_lt.mp hb
    rw [List.reverse_cons, List.flatMap_append, hdone fun h => hmem (List.mem_cons_of_mem _ h),
      List.flatMap_singleton, utf8EncodeChar_ascii hascii, toNat_ofNat_toNat, UInt8.ofNat_toNat]
  · split
    · next u hstart => exact ⟨done, [b], rfl, .inr ⟨u, rfl, Unfinished.begun_start hstart⟩, hdone⟩
    · exact ⟨done ++ [b], [], (List.append_nil _).symm, .inl ⟨rfl, rfl⟩,
        fun hmem => absurd List.mem_cons_self hmem⟩

/-- **Every byte is taken**: it completes a character, goes on with one or begins one, or what was begun
    is replaced. -/
theorem took_step (h : r.Took bytes) (b : UInt8) : (r.step b).Took (bytes ++ [b]) := by
  obtain ⟨done, begun, rfl, ⟨hnone, rfl⟩ | ⟨u, hsome, hbegun⟩, hdone⟩ := h
  · rw [Reading.step, hnone, List.append_nil]
    exact took_begin hdone b
  · rw [Reading.step, hsome]
    dsimp only
    split
    · next hrange =>
      split
      · next howed =>
        refine ⟨done ++ (begun ++ [b]), [], by rw [List.append_nil, List.append_assoc],
          .inl ⟨rfl, rfl⟩, fun hmem => ?_⟩
        rw [List.reverse_cons, List.flatMap_append, hdone fun h => hmem (List.mem_cons_of_mem _ h),
          List.flatMap_singleton, hbegun.complete hrange.1 hrange.2 howed]
      · next howed =>
        exact ⟨done, begun ++ [b], List.append_assoc _ _ _,
          .inr ⟨_, rfl, hbegun.next hrange.1 hrange.2 (Nat.lt_of_not_le howed)⟩, hdone⟩
    · exact took_begin (fun hmem => absurd List.mem_cons_self hmem) b

theorem took_foldl (bytes : Bytes) : Took (bytes.foldl step ⟨[], none⟩) bytes := by
  induction bytes using List.reverseRecOn with
  | nil => exact ⟨[], [], rfl, .inl ⟨rfl, rfl⟩, fun _ => rfl⟩
  | append_singleton bytes b ih =>
      rw [List.foldl_append]
      exact took_step ih b

end Reading

/-- **Bytes read without a replacement are those of the text that was read.** -/
theorem encode_decode {bytes : Bytes} (h : replacement ∉ (decode bytes).toList) :
    encode (decode bytes) = bytes := by
  obtain ⟨done, begun, hbytes, hunfinished, hdone⟩ := Reading.took_foldl bytes
  rw [encode]
  rw [decode, String.toList_ofList, Reading.finish] at h ⊢
  rcases hunfinished with ⟨hnone, rfl⟩ | ⟨u, hsome, _⟩
  · rw [hnone] at h ⊢
    rw [hdone fun hmem => h (List.mem_reverse.mpr hmem), hbytes, List.append_nil]
  · rw [hsome] at h
    exact absurd (List.mem_reverse.mpr List.mem_cons_self) h

/-- Only its own bytes are read as a text without a replacement. -/
theorem decode_eq_iff {bytes : Bytes} {text : String} (h : replacement ∉ text.toList) :
    decode bytes = text ↔ bytes = encode text := by
  constructor
  · rintro rfl
    exact (encode_decode h).symm
  · rintro rfl
    exact decode_encode text

/-! ## ASCII -/

namespace Reading

variable {r : Reading} {bytes : Bytes} {b : UInt8}

/-- An ASCII byte is read as its character; what was begun before it is replaced. -/
theorem Took.step_ascii (h : r.Took bytes) (hb : b.toNat < 0x80) :
    r.step b = ⟨Char.ofNat b.toNat :: r.finish.reverse, none⟩ := by
  obtain ⟨_, _, _, ⟨hnone, _⟩ | ⟨u, hsome, hbegun⟩, _⟩ := h
  · rw [step, finish, hnone]
    dsimp only
    rw [begin_ascii _ hb, List.reverse_reverse]
  · have hout : ¬ (u.low ≤ b ∧ b ≤ u.high) := fun hrange =>
      absurd (Nat.le_trans (UInt8.le_iff_toNat_le.mp hbegun.low_le)
        (UInt8.le_iff_toNat_le.mp hrange.1)) (Nat.not_le_of_lt hb)
    rw [step, finish, hsome]
    dsimp only
    rw [if_neg hout, begin_ascii _ hb, List.reverse_reverse]

/-- A byte that is not ASCII is not read as an ASCII character. -/
theorem finish_begin_high (chars : List Char) (hb : 0x80 ≤ b.toNat) :
    (begin chars b).finish = chars.reverse ++ [replacement] := by
  have hge : ¬ b < 0x80 := fun hlt => absurd (UInt8.lt_iff_toNat_lt.mp hlt) (Nat.not_lt_of_le hb)
  rw [begin, if_neg hge]
  split
  · exact List.reverse_cons
  · exact List.reverse_cons

/-- A byte that is not ASCII brings no ASCII character, and another one stands last behind it. -/
theorem Took.step_high (h : r.Took bytes) (hb : 0x80 ≤ b.toNat) :
    ∃ front c, front <+: r.finish ∧ 0x80 ≤ c.toNat ∧ (r.step b).finish = front ++ [c] := by
  have hreplacement : 0x80 ≤ replacement.toNat := by decide
  obtain ⟨_, _, _, ⟨hnone, _⟩ | ⟨u, hsome, hbegun⟩, _⟩ := h
  · have hfinish : r.finish = r.chars.reverse := by rw [finish, hnone]
    refine ⟨r.finish, replacement, List.prefix_refl _, hreplacement, ?_⟩
    rw [step, hnone, hfinish]
    exact finish_begin_high r.chars hb
  · have hfinish : r.finish = r.chars.reverse ++ [replacement] := by
      rw [finish, hsome]
      exact List.reverse_cons
    rw [step, hsome]
    dsimp only
    split
    · next hrange =>
      split
      · next howed =>
        refine ⟨r.chars.reverse, _, hfinish ▸ List.prefix_append _ _,
          hbegun.complete_high hrange.1 hrange.2 howed, ?_⟩
        exact List.reverse_cons
      · refine ⟨r.chars.reverse, replacement, hfinish ▸ List.prefix_append _ _, hreplacement, ?_⟩
        exact List.reverse_cons
    · refine ⟨r.finish, replacement, List.prefix_refl _, hreplacement, ?_⟩
      rw [finish_begin_high _ hb, hfinish, List.reverse_cons]

/-- What was read before stays in front of what is read. -/
theorem foldl_step_front (front : List Char) (bytes : Bytes) (r : Reading) :
    bytes.foldl step ⟨r.chars ++ front, r.unfinished⟩ =
      ⟨(bytes.foldl step r).chars ++ front, (bytes.foldl step r).unfinished⟩ := by
  have hbegin (chars : List Char) (b : UInt8) : begin (chars ++ front) b =
      ⟨(begin chars b).chars ++ front, (begin chars b).unfinished⟩ := by
    unfold begin
    split
    · rfl
    · split <;> rfl
  induction bytes generalizing r with
  | nil => rfl
  | cons b rest ih =>
      have hstep : step ⟨r.chars ++ front, r.unfinished⟩ b =
          ⟨(r.step b).chars ++ front, (r.step b).unfinished⟩ := by
        unfold step
        dsimp only
        split
        · exact hbegin r.chars b
        · split
          · split <;> rfl
          · exact hbegin (replacement :: r.chars) b
      rw [List.foldl_cons, List.foldl_cons, hstep, ih]

theorem finish_front (front : List Char) (r : Reading) :
    finish ⟨r.chars ++ front, r.unfinished⟩ = front.reverse ++ r.finish := by
  unfold finish
  dsimp only
  split
  · exact List.reverse_append
  · rw [← List.cons_append, List.reverse_append]

end Reading

variable {bytes : Bytes} {b : UInt8}

theorem toList_decode (bytes : Bytes) :
    (decode bytes).toList = (bytes.foldl Reading.step ⟨[], none⟩).finish :=
  String.toList_ofList

/-- **An ASCII byte is read as its character, and cuts what is read before it from what is read behind
    it.** -/
theorem toList_decode_ascii (bytes rest : Bytes) (hb : b.toNat < 0x80) :
    (decode (bytes ++ b :: rest)).toList =
      (decode bytes).toList ++ Char.ofNat b.toNat :: (decode rest).toList := by
  have hstep := (Reading.took_foldl bytes).step_ascii hb
  have hrest := Reading.foldl_step_front
    (Char.ofNat b.toNat :: (decode bytes).toList.reverse) rest ⟨[], none⟩
  rw [List.nil_append] at hrest
  rw [toList_decode (bytes ++ b :: rest), List.foldl_append, List.foldl_cons, hstep,
    ← toList_decode bytes, hrest, Reading.finish_front, ← toList_decode rest, List.reverse_cons,
    List.reverse_reverse, List.append_assoc]
  rfl

theorem toList_decode_concat (bytes : Bytes) (hb : b.toNat < 0x80) :
    (decode (bytes ++ [b])).toList = (decode bytes).toList ++ [Char.ofNat b.toNat] :=
  toList_decode_ascii bytes [] hb

theorem toList_decode_high (bytes : Bytes) (hb : 0x80 ≤ b.toNat) :
    ∃ front c, front <+: (decode bytes).toList ∧ 0x80 ≤ c.toNat ∧
      (decode (bytes ++ [b])).toList = front ++ [c] := by
  rw [toList_decode, toList_decode, List.foldl_append]
  exact (Reading.took_foldl bytes).step_high hb

/-- **Only its own byte is read as an ASCII character.** -/
theorem mem_of_mem_decode {c : Char} (hc : c.toNat < 0x80) (h : c ∈ (decode bytes).toList) :
    UInt8.ofNat c.toNat ∈ bytes := by
  induction bytes using List.reverseRecOn with
  | nil => exact absurd h List.not_mem_nil
  | append_singleton bytes b ih =>
      rw [List.mem_append, List.mem_singleton]
      by_cases hb : b.toNat < 0x80
      · rw [toList_decode_concat bytes hb, List.mem_append, List.mem_singleton] at h
        refine h.imp ih fun heq => ?_
        rw [heq, toNat_ofNat_toNat, UInt8.ofNat_toNat]
      · obtain ⟨front, last, hfront, hlast, hdecode⟩ :=
          toList_decode_high bytes (Nat.le_of_not_lt hb)
        rw [hdecode, List.mem_append, List.mem_singleton] at h
        rcases h with h | rfl
        · exact .inl (ih (hfront.subset h))
        · exact absurd hc (Nat.not_lt_of_le hlast)

/-- **A text ends with an ASCII character just if the bytes end with its byte.** -/
theorem decode_eq_concat_iff {front : List Char} (hb : b.toNat < 0x80) :
    (decode bytes).toList = front ++ [Char.ofNat b.toNat] ↔
      ∃ init, bytes = init ++ [b] ∧ (decode init).toList = front := by
  constructor
  · intro h
    rcases List.eq_nil_or_concat bytes with rfl | ⟨init, last, rfl⟩
    · exact absurd (congrArg List.length h) (by simp [toList_decode, Reading.finish])
    · rw [List.concat_eq_append] at h ⊢
      by_cases hlast : last.toNat < 0x80
      · rw [toList_decode_concat init hlast] at h
        obtain ⟨hfront, hchar⟩ := List.append_inj' h rfl
        have hbyte : last.toNat = b.toNat := by
          rw [← toNat_ofNat_toNat last, (List.cons.inj hchar).1, toNat_ofNat_toNat]
        exact ⟨init, by rw [UInt8.toNat_inj.mp hbyte], hfront⟩
      · obtain ⟨_, c, _, hc, hdecode⟩ := toList_decode_high init (Nat.le_of_not_lt hlast)
        obtain ⟨_, hchar⟩ := List.append_inj' (hdecode.symm.trans h) rfl
        rw [(List.cons.inj hchar).1, toNat_ofNat_toNat] at hc
        exact absurd hb (Nat.not_lt_of_le hc)
  · rintro ⟨init, rfl, rfl⟩
    exact toList_decode_concat init hb

end Conformance.Text
