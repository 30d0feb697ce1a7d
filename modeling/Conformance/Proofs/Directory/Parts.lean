import Conformance.Proofs.Directory.RoundTrip

/-!
# Where a byte of a directory file stands

A place in a file lies in one record, and a place in a record lies in its padding or in one of its
parts: the marker, a length field or a body. That holds of any pieces that stand side by side
(`exists_piece`, `piece_unique`), so it is proved once, for records in a file and for parts in a record.

* `encoded_eq_parts`, `encoded_around` — a record is its parts in stored order and the padding, also
  seen from one of the parts;
* `exists_inPart`, `inPart_unique` — a place in front of the padding lies in exactly one part;
* `encode_cut`, `encode_set` — what becomes of a file that is cut, or changed in one byte, in one of
  its records.
-/

namespace Conformance

/-! ## Pieces side by side -/

section Pieces

variable {α : Type} {bytes : α → Bytes}

/-- A place that lies in front of the end lies in a piece. -/
theorem exists_piece {pieces : List α} {n : Nat} (h : n < (pieces.flatMap bytes).length) :
    ∃ before piece after j, pieces = before ++ piece :: after ∧
      n = (before.flatMap bytes).length + j ∧ j < (bytes piece).length := by
  induction pieces generalizing n with
  | nil => exact absurd h (Nat.not_lt_zero n)
  | cons piece pieces ih =>
      rw [List.flatMap_cons, List.length_append] at h
      by_cases hfirst : n < (bytes piece).length
      · exact ⟨[], piece, pieces, n, rfl, (Nat.zero_add n).symm, hfirst⟩
      · obtain ⟨before, found, after, j, rfl, hn, hj⟩ :=
          ih (n := n - (bytes piece).length) (by omega)
        refine ⟨piece :: before, found, after, j, rfl, ?_, hj⟩
        rw [List.flatMap_cons, List.length_append]
        omega

/-- A place lies in one piece only. -/
theorem piece_unique {before before' after after' : List α} {piece piece' : α} {j j' : Nat}
    (hpieces : before ++ piece :: after = before' ++ piece' :: after')
    (hplace : (before.flatMap bytes).length + j = (before'.flatMap bytes).length + j')
    (hj : j < (bytes piece).length) (hj' : j' < (bytes piece').length) : piece = piece' := by
  induction before generalizing before' with
  | nil =>
      cases before' with
      | nil => exact (List.cons.inj hpieces).1
      | cons first before' =>
          -- the second place would lie behind the whole first piece
          obtain ⟨rfl, -⟩ := List.cons.inj hpieces
          rw [List.flatMap_nil, List.flatMap_cons, List.length_append, List.length_nil] at hplace
          omega
  | cons first before ih =>
      cases before' with
      | nil =>
          obtain ⟨rfl, -⟩ := List.cons.inj hpieces
          rw [List.flatMap_nil, List.flatMap_cons, List.length_append, List.length_nil] at hplace
          omega
      | cons first' before' =>
          obtain ⟨rfl, hrest⟩ := List.cons.inj hpieces
          rw [List.flatMap_cons, List.flatMap_cons, List.length_append, List.length_append]
            at hplace
          exact ih hrest (by omega)

end Pieces

namespace Directory

/-! ## The parts of a record -/

/-- The part in which the length of a field stands. -/
def SizedField.lengthPart : SizedField → Part
  | username => .usernameLength
  | salt => .saltLength
  | hash => .hashLength
  | content => .contentLength

/-- The part in which the bytes of a field stand. -/
def SizedField.bodyPart : SizedField → Part
  | username => .username
  | salt => .salt
  | hash => .hash
  | content => .content

namespace Record

/-- The bytes of a part. -/
def part (record : Record) : Part → Bytes
  | .marker => marker
  | .usernameLength => Bytes.littleEndian lengthWidth record.username.length
  | .username => record.username
  | .saltLength => Bytes.littleEndian lengthWidth record.salt.length
  | .salt => record.salt
  | .hashLength => Bytes.littleEndian lengthWidth record.hash.length
  | .hash => record.hash
  | .contentLength => Bytes.littleEndian lengthWidth record.content.length
  | .content => record.content

/-- Where a part begins, counted from the start of the record. -/
def start (record : Record) (part : Part) : Nat :=
  ((Part.all.takeWhile (· ≠ part)).flatMap record.part).length

/-- Whether a place, counted from the start of the record, lies in a part. -/
def InPart (record : Record) (part : Part) (n : Nat) : Prop :=
  record.start part ≤ n ∧ n < record.start part + (record.part part).length

instance (record : Record) (part : Part) (n : Nat) : Decidable (record.InPart part n) :=
  inferInstanceAs (Decidable (_ ∧ _))

/-- The zeros behind the parts. -/
def padding (record : Record) : Bytes :=
  List.replicate (roundUp record.rawLength - record.rawLength) 0

end Record

/-- A part is the marker, the length of a field or the body of a field. -/
theorem part_cases (part : Part) :
    part = .marker ∨ ∃ which : SizedField, part = which.lengthPart ∨ part = which.bodyPart := by
  cases part with
  | marker => exact Or.inl rfl
  | usernameLength => exact Or.inr ⟨.username, Or.inl rfl⟩
  | username => exact Or.inr ⟨.username, Or.inr rfl⟩
  | saltLength => exact Or.inr ⟨.salt, Or.inl rfl⟩
  | salt => exact Or.inr ⟨.salt, Or.inr rfl⟩
  | hashLength => exact Or.inr ⟨.hash, Or.inl rfl⟩
  | hash => exact Or.inr ⟨.hash, Or.inr rfl⟩
  | contentLength => exact Or.inr ⟨.content, Or.inl rfl⟩
  | content => exact Or.inr ⟨.content, Or.inr rfl⟩

theorem part_lengthPart (r : Record) (which : SizedField) :
    r.part which.lengthPart = Bytes.littleEndian lengthWidth (r.field which).length := by
  cases which <;> rfl

theorem part_bodyPart (r : Record) (which : SizedField) :
    r.part which.bodyPart = r.field which := by
  cases which <;> rfl

theorem encodeRaw_eq_parts (r : Record) : r.encodeRaw = Part.all.flatMap r.part := by
  simp only [Record.encodeRaw, Record.fields, Record.encodeField, Part.all, Record.part,
    List.flatMap_cons, List.flatMap_nil, List.append_nil, List.append_assoc]

theorem encoded_eq_parts (r : Record) : r.encoded = Part.all.flatMap r.part ++ r.padding := by
  rw [← encodeRaw_eq_parts]
  rfl

theorem length_parts (r : Record) : (Part.all.flatMap r.part).length = r.rawLength := by
  rw [← encodeRaw_eq_parts, length_encodeRaw]

theorem length_padding (r : Record) : r.padding.length = r.encodedLength - r.rawLength :=
  List.length_replicate

/-- The parts around a part. -/
theorem exists_parts_around (part : Part) :
    ∃ after, Part.all = Part.all.takeWhile (· ≠ part) ++ part :: after := by
  cases part <;> exact ⟨_, rfl⟩

/-- A record around one of its parts. -/
theorem encoded_around {before after : List Part} {part : Part}
    (hparts : Part.all = before ++ part :: after) (r : Record) :
    r.encoded = before.flatMap r.part ++ (r.part part ++ after.flatMap r.part) ++ r.padding := by
  rw [encoded_eq_parts, hparts, List.flatMap_append, List.flatMap_cons]

/-- The parts in front of a part are those up to its first occurrence, and there is no second. -/
theorem parts_before {before after : List Part} {part : Part}
    (h : Part.all = before ++ part :: after) : before = Part.all.takeWhile (· ≠ part) := by
  have hnodup : (before ++ part :: after).Nodup := h ▸ (by decide : Part.all.Nodup)
  have hnew : ∀ earlier ∈ before, decide (earlier ≠ part) = true := by
    intro earlier hearlier
    refine decide_eq_true fun heq => ?_
    exact List.disjoint_of_nodup_append hnodup hearlier (heq ▸ List.mem_cons_self)
  rw [h, List.takeWhile_append_of_pos hnew, List.takeWhile_cons_of_neg (by simp),
    List.append_nil]

/-- A place in front of the padding lies in a part. -/
theorem exists_inPart {r : Record} {n : Nat} (h : n < r.rawLength) :
    ∃ part, r.InPart part n := by
  rw [← length_parts] at h
  obtain ⟨before, part, after, j, hparts, rfl, hj⟩ := exists_piece h
  refine ⟨part, ?_, ?_⟩
  · rw [Record.start, ← parts_before hparts]
    exact Nat.le_add_right _ j
  · rw [Record.start, ← parts_before hparts]
    exact Nat.add_lt_add_left hj _

/-- A place lies in one part only. -/
theorem inPart_unique {r : Record} {part other : Part} {n : Nat} (h : r.InPart part n)
    (hother : r.InPart other n) : other = part := by
  obtain ⟨after, hparts⟩ := exists_parts_around part
  obtain ⟨after', hparts'⟩ := exists_parts_around other
  have hplace : r.start other + (n - r.start other) = r.start part + (n - r.start part) := by
    rw [Nat.add_sub_cancel' h.1, Nat.add_sub_cancel' hother.1]
  refine piece_unique (hparts'.symm.trans hparts) hplace ?_ ?_
  · exact Nat.sub_lt_left_of_lt_add hother.1 hother.2
  · exact Nat.sub_lt_left_of_lt_add h.1 h.2

/-! ## Changes in one record -/

/-- A place in a file lies in a record. -/
theorem exists_record {rs : List Record} {p : Nat} (h : p < (encode rs).length) :
    ∃ (before : List Record) (r : Record) (after : List Record) (n : Nat),
      rs = before ++ r :: after ∧ p = (encode before).length + n ∧ n < r.encodedLength := by
  rw [encode_eq_flatMap] at h
  obtain ⟨before, r, after, n, hrs, hp, hn⟩ := exists_piece h
  rw [length_encoded] at hn
  exact ⟨before, r, after, n, hrs, by rw [encode_eq_flatMap]; exact hp, hn⟩

/-- A file that is cut in a record. -/
theorem encode_cut (before : List Record) (r : Record) (after : List Record) {n : Nat}
    (hn : n ≤ r.encodedLength) :
    (encode (before ++ r :: after)).take ((encode before).length + n) =
      encode before ++ r.encoded.take n := by
  rw [encode_append, encode_cons, List.take_length_add_append,
    List.take_append_of_le_length (by rw [length_encoded]; exact hn)]

/-- A file in which a byte of a record is changed. -/
theorem encode_set (before : List Record) (r : Record) (after : List Record) {n : Nat}
    (hn : n < r.encodedLength) (byte : UInt8) :
    (encode (before ++ r :: after)).set ((encode before).length + n) byte =
      encode before ++ (r.encoded.set n byte ++ encode after) := by
  rw [encode_append, encode_cons, List.set_append_right _ _ (Nat.le_add_right _ n),
    Nat.add_sub_cancel_left, List.set_append_left _ _ (by rw [length_encoded]; exact hn)]

end Directory

end Conformance
