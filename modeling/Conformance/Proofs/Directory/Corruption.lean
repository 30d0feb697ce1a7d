import Conformance.Proofs.Directory.Truncation

/-!
# Files with one wrong byte

One byte of a directory file is changed. What the reader makes of it depends on where the byte stands
(`parse_set`): a wrong marker and a wrong padding are reported with the place of the record; a wrong
byte in a username, salt, hash or content comes back as just that byte of that field, because all
lengths are still right; and behind a wrong length the reader may find anything but the records that
were written. The last needs no look at the reader: the format is canonical, so the records that were
written are read from what was written only.
-/

namespace Conformance.Directory

/-! ## Records with another field -/

namespace Record

/-- The record with other bytes in one field. -/
def withField (record : Record) : SizedField → Bytes → Record
  | .username, bytes => { record with username := bytes }
  | .salt, bytes => { record with salt := bytes }
  | .hash, bytes => { record with hash := bytes }
  | .content, bytes => { record with content := bytes }

end Record

theorem part_withField_self (r : Record) (which : SizedField) (bytes : Bytes) :
    (r.withField which bytes).part which.bodyPart = bytes := by
  cases which <;> rfl

theorem field_withField (r : Record) (which other : SizedField) (bytes : Bytes) :
    (r.withField which bytes).field other = if other = which then bytes else r.field other := by
  cases which <;> cases other <;> rfl

section SameLength

variable {r : Record} {which : SizedField} {bytes : Bytes}
  (hlength : bytes.length = (r.field which).length)

include hlength

theorem length_field_withField (other : SizedField) :
    ((r.withField which bytes).field other).length = (r.field other).length := by
  rw [field_withField]
  split
  · next heq => rw [heq, hlength]
  · rfl

/-- A field of the same length leaves all parts as they are but its own. -/
theorem part_withField_of_ne {part : Part} (hpart : part ≠ which.bodyPart) :
    (r.withField which bytes).part part = r.part part := by
  rcases part_cases part with rfl | ⟨other, rfl | rfl⟩
  · rfl
  · rw [part_lengthPart, part_lengthPart, length_field_withField hlength]
  · have hother : other ≠ which := fun heq => hpart (heq ▸ rfl)
    rw [part_bodyPart, part_bodyPart, field_withField, if_neg hother]

theorem rawLength_withField : (r.withField which bytes).rawLength = r.rawLength := by
  cases which <;> simp only [Record.rawLength, Record.withField, hlength, Record.field]

/-- A field of the same length is allowed where the old one was. -/
theorem withField_complete_fits (h : r.Complete ∧ r.Fits) :
    (r.withField which bytes).Complete ∧ (r.withField which bytes).Fits := by
  refine ⟨complete_iff_least_le.mpr fun other => ?_, fun other => ?_⟩
  · rw [length_field_withField hlength]
    exact complete_iff_least_le.mp h.1 other
  · rw [length_field_withField hlength]
    exact h.2 other

end SameLength

/-! ## Records with another byte -/

/-- A byte of a part is changed: the other parts and the padding stay. -/
theorem exists_encoded_set {r : Record} {part : Part} {n : Nat} (hpart : r.InPart part n)
    (byte : UInt8) :
    ∃ after, Part.all = Part.all.takeWhile (· ≠ part) ++ part :: after ∧
      r.encoded.set n byte = (Part.all.takeWhile (· ≠ part)).flatMap r.part ++
        ((r.part part).set (n - r.start part) byte ++ after.flatMap r.part) ++ r.padding := by
  obtain ⟨after, hparts⟩ := exists_parts_around part
  obtain ⟨hstart, hend⟩ := hpart
  obtain ⟨j, rfl⟩ := Nat.exists_eq_add_of_le hstart
  have hj : j < (r.part part).length := Nat.lt_of_add_lt_add_left hend
  refine ⟨after, hparts, ?_⟩
  rw [encoded_around hparts, List.append_assoc, List.append_assoc, Nat.add_sub_cancel_left,
    List.set_append_right _ _ hstart, Record.start, Nat.add_sub_cancel_left,
    List.set_append_left _ _ hj, List.append_assoc, List.append_assoc]

/-- A changed byte in a field is a byte of another field of the same length. -/
theorem encoded_set_body {r : Record} {which : SizedField} {n : Nat}
    (hpart : r.InPart which.bodyPart n) (byte : UInt8) :
    r.encoded.set n byte =
      (r.withField which ((r.field which).set (n - r.start which.bodyPart) byte)).encoded := by
  have hlength : ((r.field which).set (n - r.start which.bodyPart) byte).length =
      (r.field which).length := List.length_set
  obtain ⟨after, hparts, hset⟩ := exists_encoded_set hpart byte
  have hnodup : (Part.all.takeWhile (· ≠ which.bodyPart) ++ which.bodyPart :: after).Nodup :=
    hparts ▸ (by decide : Part.all.Nodup)
  obtain ⟨-, hcons, hdisjoint⟩ := List.nodup_append.mp hnodup
  have hbefore : ∀ part ∈ Part.all.takeWhile (· ≠ which.bodyPart), part ≠ which.bodyPart :=
    fun part hmem => hdisjoint part hmem _ List.mem_cons_self
  have hafter : ∀ part ∈ after, part ≠ which.bodyPart :=
    fun part hmem heq => (List.nodup_cons.mp hcons).1 (heq ▸ hmem)
  rw [hset, part_bodyPart, encoded_around hparts, part_withField_self,
    List.flatMap_congr fun part hmem => part_withField_of_ne hlength (hbefore part hmem),
    List.flatMap_congr fun part hmem => part_withField_of_ne hlength (hafter part hmem),
    Record.padding, Record.padding, rawLength_withField hlength]

namespace Cursor

/-- Eight bytes that are not the marker are reported, whatever stands behind them. -/
theorem record_of_not_marker {found : Bytes} (hlength : found.length = marker.length)
    (hfound : found ≠ marker) (offset : Nat) (rest : Bytes) :
    record ⟨offset, found ++ rest⟩ = .error (.badMarker offset) := by
  have htake : take marker.length ⟨offset, found ++ rest⟩ =
      .ok (found, ⟨offset + found.length, rest⟩) := take_eq_ok_iff.mpr ⟨hlength, rfl, rfl⟩
  rw [record_eq, htake]
  exact if_pos hfound

end Cursor

/-! ## Files with another byte -/

variable {rs : List Record}

/-- The regions of a record are its marker, its length fields, its bodies and its padding. -/
theorem inPart_cases {r : Record} {n : Nat} (h : n < r.rawLength) :
    r.InPart .marker n ∨
      ∃ which : SizedField, r.InPart which.lengthPart n ∨ r.InPart which.bodyPart n := by
  obtain ⟨part, hpart⟩ := exists_inPart h
  rcases part_cases part with rfl | ⟨which, rfl | rfl⟩
  · exact Or.inl hpart
  · exact Or.inr ⟨which, Or.inl hpart⟩
  · exact Or.inr ⟨which, Or.inr hpart⟩

theorem set_ne_self {bytes : Bytes} {p : Nat} (hp : p < bytes.length) {byte : UInt8}
    (hbyte : bytes[p] ≠ byte) : bytes.set p byte ≠ bytes := by
  intro h
  have hget := List.getElem_of_eq h (i := p) (by rwa [List.length_set])
  rw [List.getElem_set_self] at hget
  exact hbyte hget.symm

/-- Another byte in the marker. -/
theorem parse_set_marker {before after : List Record} {r : Record} {n : Nat} {byte : UInt8}
    (hbefore : ∀ x ∈ before, x.Complete ∧ x.Fits) (hpart : r.InPart .marker n)
    (hchanged : r.encoded.set n byte ≠ r.encoded) :
    parse (encode before ++ (r.encoded.set n byte ++ encode after)) =
      .error (.badMarker (encode before).length) := by
  obtain ⟨parts, hparts, hset⟩ := exists_encoded_set hpart byte
  have hstart : r.start .marker = 0 := rfl
  have hmarker : marker.set n byte ≠ marker := by
    intro heq
    refine hchanged ?_
    rw [hset, encoded_around hparts, hstart, Nat.sub_zero]
    show _ ++ (marker.set n byte ++ _) ++ _ = _
    rw [heq]
    rfl
  have hrest : r.encoded.set n byte ++ encode after =
      marker.set n byte ++ (parts.flatMap r.part ++ r.padding ++ encode after) := by
    rw [hset, hstart, Nat.sub_zero]
    show [] ++ (marker.set n byte ++ _) ++ _ ++ _ = _
    rw [List.nil_append, List.append_assoc, List.append_assoc, List.append_assoc]
  have hne : marker.set n byte ++ (parts.flatMap r.part ++ r.padding ++ encode after) ≠ [] := by
    rw [← List.length_pos_iff, List.length_append, List.length_set]
    exact Nat.lt_of_lt_of_le (by decide) (Nat.le_add_right marker.length _)
  rw [hrest, parse_record_error hbefore hne
    (Cursor.record_of_not_marker List.length_set hmarker 0 _), LayoutError.shift, Nat.zero_add]

/-- Another byte in the padding. -/
theorem parse_set_padding {before after : List Record} {r : Record} {n : Nat} {byte : UInt8}
    (hbefore : ∀ x ∈ before, x.Complete ∧ x.Fits) (hr : r.Complete ∧ r.Fits)
    (hraw : r.rawLength ≤ n) (hchanged : r.encoded.set n byte ≠ r.encoded) :
    parse (encode before ++ (r.encoded.set n byte ++ encode after)) =
      .error (.misaligned ((encode before).length + r.rawLength)) := by
  have hset : r.encoded.set n byte =
      Part.all.flatMap r.part ++ r.padding.set (n - r.rawLength) byte := by
    rw [encoded_eq_parts, List.set_append_right _ _ (by rw [length_parts]; exact hraw),
      length_parts]
  have hpadding : ¬ r.padding <+: r.padding.set (n - r.rawLength) byte ++ encode after := by
    rintro ⟨rest, heq⟩
    -- both are as long, so they would be the same
    have hsame := List.append_inj_left heq List.length_set.symm
    rw [hset, ← hsame, ← encoded_eq_parts] at hchanged
    exact hchanged rfl
  have hne : Part.all.flatMap r.part ++ (r.padding.set (n - r.rawLength) byte ++ encode after) ≠
      [] := nofun
  rw [hset, List.append_assoc, parse_record_error hbefore hne
    (Cursor.record_of_not_padding hr.1 hr.2 hpadding 0), LayoutError.shift, Nat.zero_add,
    Nat.add_comm]

/-- Another byte in a field. -/
theorem parse_set_body {before after : List Record} {r : Record} {n : Nat} {byte : UInt8}
    (hrs : ∀ x ∈ before ++ r :: after, x.Complete ∧ x.Fits) {which : SizedField}
    (hpart : r.InPart which.bodyPart n) :
    parse (encode before ++ (r.encoded.set n byte ++ encode after)) =
      .ok (before ++
        r.withField which ((r.field which).set (n - r.start which.bodyPart) byte) :: after) := by
  refine parse_eq_ok_iff.mpr ⟨?_, by rw [encoded_set_body hpart, encode_append, encode_cons]⟩
  intro x hx
  rcases List.mem_append.mp hx with hmem | hmem
  · exact hrs x (List.mem_append_left _ hmem)
  · rcases List.mem_cons.mp hmem with rfl | hmem
    · exact withField_complete_fits List.length_set
        (hrs r (List.mem_append_right _ List.mem_cons_self))
    · exact hrs x (List.mem_append_right _ (List.mem_cons_of_mem _ hmem))

/-- **ONE WRONG BYTE IS DETECTED OR CONFINED.** The byte stands in one record. In its marker, the marker
    is reported; in its padding, the padding is; in a username, salt, hash or content, that byte of
    that field is read differently and nothing else; and with a byte of a length field changed the file
    is never read as the records that were written. There are no other places in a record. -/
theorem parse_set (hrs : ∀ r ∈ rs, r.Complete ∧ r.Fits) {p : Nat} (hp : p < (encode rs).length)
    {byte : UInt8} (hbyte : (encode rs)[p] ≠ byte) :
    (∃ (before : List Record) (r : Record) (after : List Record), rs = before ++ r :: after ∧
      (before.map Record.encodedLength).sum ≤ p ∧
      p < (before.map Record.encodedLength).sum + r.encodedLength) ∧
    ∀ (before : List Record) (r : Record) (after : List Record) (s : Nat),
      rs = before ++ r :: after → s = (before.map Record.encodedLength).sum →
      s ≤ p → p < s + r.encodedLength →
        (r.InPart .marker (p - s) → parse ((encode rs).set p byte) = .error (.badMarker s)) ∧
        (s + r.rawLength ≤ p →
          parse ((encode rs).set p byte) = .error (.misaligned (s + r.rawLength))) ∧
        (∀ which : SizedField, r.InPart which.bodyPart (p - s) →
          parse ((encode rs).set p byte) =
            .ok (before ++ r.withField which
              ((r.field which).set (p - s - r.start which.bodyPart) byte) :: after)) ∧
        (∀ which : SizedField, r.InPart which.lengthPart (p - s) →
          parse ((encode rs).set p byte) ≠ .ok rs) ∧
        (p < s + r.rawLength → r.InPart .marker (p - s) ∨
          ∃ which : SizedField, r.InPart which.lengthPart (p - s) ∨
            r.InPart which.bodyPart (p - s)) := by
  have hchanged := set_ne_self hp hbyte
  constructor
  · obtain ⟨before, r, after, n, rfl, rfl, hn⟩ := exists_record hp
    rw [length_encode] at *
    exact ⟨before, r, after, rfl, Nat.le_add_right _ n, Nat.add_lt_add_left hn _⟩
  · rintro before r after s rfl hs hstart hend
    rw [← length_encode] at hs
    subst hs
    obtain ⟨n, rfl⟩ := Nat.exists_eq_add_of_le hstart
    have hn : n < r.encodedLength := Nat.lt_of_add_lt_add_left hend
    have hr := hrs r (List.mem_append_right _ List.mem_cons_self)
    have hbefore : ∀ x ∈ before, x.Complete ∧ x.Fits := fun x hx =>
      hrs x (List.mem_append_left _ hx)
    rw [Nat.add_sub_cancel_left]
    have hcanonical : parse ((encode (before ++ r :: after)).set
        ((encode before).length + n) byte) ≠ .ok (before ++ r :: after) :=
      fun hread => hchanged (parse_eq_ok_iff.mp hread).2
    rw [encode_set before r after hn] at *
    have hrecord : r.encoded.set n byte ≠ r.encoded := by
      intro heq
      rw [heq, encode_append, encode_cons] at hchanged
      exact hchanged rfl
    refine ⟨fun hpart => parse_set_marker hbefore hpart hrecord, fun hraw => ?_,
      fun which hpart => parse_set_body hrs hpart, fun which _ => hcanonical, fun hraw => ?_⟩
    · exact parse_set_padding hbefore hr (Nat.le_of_add_le_add_left hraw) hrecord
    · exact inPart_cases (Nat.lt_of_add_lt_add_left hraw)

/-- A wrong byte in the second marker, in the second username, in its length, and in the padding at the
    end of the pair. -/
theorem parse_set_cutPair :
    (∀ r ∈ cutPair, r.Complete ∧ r.Fits) ∧ (encode cutPair).length = 112 ∧
    parse ((encode cutPair).set 67 0) = .error (.badMarker 64) ∧
    parse ((encode cutPair).set 81 255) = .ok [cutPair[0], ⟨[98, 255], [0], [7], []⟩] ∧
    parse ((encode cutPair).set 72 3) ≠ .ok cutPair ∧
    parse ((encode cutPair).set 110 1) = .error (.misaligned 108) := by
  have hlength : (encode cutPair).length = 112 := length_encode cutPair
  have hsplit : cutPair = [cutPair[0]] ++ cutPair[1] :: [] := rfl
  have hset : ∀ (p : Nat) (byte : UInt8),
      (∃ hp : p < (encode cutPair).length, (encode cutPair)[p] ≠ byte) → _ :=
    fun _ _ ⟨hp, hbyte⟩ =>
      (parse_set cutPair_complete_fits hp hbyte).2 _ _ _ 64 hsplit (by decide)
  refine ⟨cutPair_complete_fits, hlength, ?_, ?_, ?_, ?_⟩
  · exact (hset 67 0 (by decide +kernel) (by decide) (by decide)).1 (by decide)
  · exact (hset 81 255 (by decide +kernel) (by decide) (by decide)).2.2.1 .username (by decide)
  · exact (hset 72 3 (by decide +kernel) (by decide) (by decide)).2.2.2.1 .username (by decide)
  · exact (hset 110 1 (by decide +kernel) (by decide) (by decide)).2.1 (by decide)

end Conformance.Directory
