import Conformance.Proofs.Directory.Reading

/-!
# Reading and writing directory files

Reading undoes writing and writing undoes reading. In front of any bytes at all the encoding of
complete records is read as these records, and then reading goes on as if nothing stood before; an
incomplete record is refused at its first empty field. The other way round, a file that is accepted is
the encoding of what was read, byte for byte, so no two files hold the same directory.
-/

namespace Conformance.Directory

instance (r : Record) : Decidable r.Complete :=
  inferInstanceAs (Decidable (r.username ≠ [] ∧ r.salt ≠ [] ∧ r.hash ≠ []))

namespace Record

/-- The first field, in stored order, that is shorter than allowed. -/
def gap? (record : Record) : Option SizedField :=
  SizedField.all.find? fun which => (record.field which).length < which.least

/-- Where the length of a field stands, seen from the start of the record. -/
def lengthOffset (record : Record) (which : SizedField) : Nat :=
  marker.length +
    ((SizedField.all.takeWhile (· ≠ which)).map fun earlier =>
      lengthWidth + (record.field earlier).length).sum

end Record

/-- The three ways in which a record can be incomplete. -/
theorem gap_cases {r : Record} {which : SizedField} (h : r.gap? = some which) :
    (which = .username ∧ r.username.length < SizedField.username.least) ∨
    (which = .salt ∧ SizedField.username.least ≤ r.username.length ∧
      r.salt.length < SizedField.salt.least) ∨
    (which = .hash ∧ SizedField.username.least ≤ r.username.length ∧
      SizedField.salt.least ≤ r.salt.length ∧ r.hash.length < SizedField.hash.least) := by
  simp only [Record.gap?, SizedField.all, List.find?_cons, List.find?_nil] at h
  split at h
  · next hshort =>
    exact Or.inl ⟨(Option.some.inj h).symm, of_decide_eq_true hshort⟩
  · next husername =>
    have husername := Nat.le_of_not_lt (of_decide_eq_false husername)
    split at h
    · next hshort =>
      exact Or.inr (Or.inl ⟨(Option.some.inj h).symm, husername, of_decide_eq_true hshort⟩)
    · next hsalt =>
      have hsalt := Nat.le_of_not_lt (of_decide_eq_false hsalt)
      split at h
      · next hshort =>
        exact Or.inr (Or.inr ⟨(Option.some.inj h).symm, husername, hsalt,
          of_decide_eq_true hshort⟩)
      · exact nomatch h

/-- An incomplete record lacks one of the fields that may not be empty. -/
theorem exists_gap_of_not_complete {r : Record} (h : ¬ r.Complete) :
    ∃ which, r.gap? = some which := by
  cases hgap : r.gap? with
  | some which => exact ⟨which, rfl⟩
  | none =>
      refine absurd (complete_iff_least_le.mpr fun which => ?_) h
      have hmem : which ∈ SizedField.all := by cases which <;> decide
      exact Nat.le_of_not_lt fun hshort =>
        List.find?_eq_none.mp hgap which hmem (decide_eq_true hshort)

namespace Cursor

theorem field_of_short {which : SizedField} {c c' : Cursor} {body : Bytes}
    (hspells : c.Spells (Record.encodeField body) c') (hshort : body.length < which.least) :
    c.field which = .error (.fieldTooShort which c.offset) := by
  have hleast : which.least ≤ 1 := by cases which <;> decide
  obtain ⟨mid, hlength, -⟩ := spells_append_iff.mp hspells
  unfold field
  rw [take_eq_ok_iff.mpr ⟨Bytes.length_littleEndian _ _, hlength⟩]
  show (if Bytes.ofLittleEndian _ < which.least then _ else _) = _
  -- a field that is too short is empty, whatever its bound
  have hbound : body.length < 256 ^ lengthWidth :=
    Nat.lt_of_lt_of_le (Nat.lt_of_lt_of_le hshort hleast) (Nat.one_le_pow _ _ (by decide))
  rw [Bytes.ofLittleEndian_littleEndian _ _ hbound, if_pos hshort]

/-- An incomplete record is refused at the length of its first empty field. -/
theorem record_of_gap {c c' : Cursor} {r : Record} {which : SizedField} (hfits : r.Fits)
    (hspells : c.Spells r.encoded c') (hgap : r.gap? = some which) :
    c.record = .error (.fieldTooShort which (c.offset + r.lengthOffset which)) := by
  rw [encoded_eq] at hspells
  simp only [spells_append_iff] at hspells
  obtain ⟨c₀, h₀, c₁, h₁, c₂, h₂, c₃, h₃, -⟩ := hspells
  have e₀ := h₀.2
  have e₁ := h₁.2
  have e₂ := h₂.2
  rw [length_encodeField] at e₁ e₂
  rw [record_eq, take_eq_ok_iff.mpr ⟨rfl, h₀⟩]
  show Except.bind (c₀.field .username) _ = _
  -- the fields before the empty one are read, and the error is at the place they end
  rcases gap_cases hgap with ⟨rfl, hshort⟩ | ⟨rfl, husername, hshort⟩ |
      ⟨rfl, husername, hsalt, hshort⟩
  · rw [field_of_short h₁ hshort, e₀]
    rfl
  · rw [field_eq_ok_iff.mpr ⟨husername, hfits .username, h₁⟩]
    show Except.bind (c₁.field .salt) _ = _
    rw [field_of_short h₂ hshort, e₁, e₀, Nat.add_assoc]
    rfl
  · rw [field_eq_ok_iff.mpr ⟨husername, hfits .username, h₁⟩]
    show Except.bind (c₁.field .salt) _ = _
    rw [field_eq_ok_iff.mpr ⟨hsalt, hfits .salt, h₂⟩]
    show Except.bind (c₂.field .hash) _ = _
    rw [field_of_short h₃ hshort, e₂, e₁, e₀, Nat.add_assoc, Nat.add_assoc]
    rfl

/-- Records that stand at the beginning of a file are read, and reading goes on behind them. -/
theorem records_of_encoded {rs : List Record} (hrs : ∀ r ∈ rs, r.Complete ∧ r.Fits)
    (offset : Nat) (rest : Bytes) :
    (⟨offset, encode rs ++ rest⟩ : Cursor).records =
      ((⟨0, rest⟩ : Cursor).shift (offset + (encode rs).length)).records.map (rs ++ ·) := by
  induction rs generalizing offset with
  | nil =>
      show (⟨offset, rest⟩ : Cursor).records = Except.map id _
      rw [Except.map_id, encode_nil, List.length_nil, Nat.add_zero]
      show _ = (⟨0 + offset, rest⟩ : Cursor).records
      rw [Nat.zero_add]
  | cons r rs ih =>
      obtain ⟨⟨hcomplete, hfits⟩, hall⟩ := List.forall_mem_cons.mp hrs
      have hr : (⟨offset, encode (r :: rs) ++ rest⟩ : Cursor).record =
          .ok (r, ⟨offset + r.encoded.length, encode rs ++ rest⟩) :=
        record_eq_ok_iff.mpr ⟨hcomplete, hfits, by rw [encode_cons, List.append_assoc], rfl⟩
      rw [records_of_record_ok hr, ih hall, encode_cons, List.length_append, Nat.add_assoc]
      cases (shift (offset + (r.encoded.length + (encode rs).length)) ⟨0, rest⟩).records with
      | error e => rfl
      | ok more => rfl

end Cursor

/-! ## Reading undoes writing -/

/-- In front of other bytes, complete records are read as what they are, and the rest is read as if it
    stood alone. -/
theorem parse_complete_append {rs : List Record} (hrs : ∀ r ∈ rs, r.Complete ∧ r.Fits)
    (rest : Bytes) :
    parse (encode rs ++ rest) =
      ((parse rest).mapError (LayoutError.shift (encode rs).length)).map (rs ++ ·) := by
  show (⟨0, encode rs ++ rest⟩ : Cursor).records = _
  rw [Cursor.records_of_encoded hrs, Nat.zero_add, Cursor.records_shift]
  show Except.map _ (shifted _ id (parse rest)) = _
  cases parse rest with
  | error e => rfl
  | ok more => rfl

theorem parse_eq_ok_iff {bytes : Bytes} {rs : List Record} :
    parse bytes = .ok rs ↔ (∀ r ∈ rs, r.Complete ∧ r.Fits) ∧ bytes = encode rs :=
  Cursor.records_eq_ok_iff

/-- The first incomplete record of a list is refused, whatever stands behind it. -/
theorem parse_gap_append {before : List Record} {r : Record} {which : SizedField}
    (hbefore : ∀ x ∈ before, x.Complete ∧ x.Fits) (hfits : r.Fits) (hgap : r.gap? = some which)
    (rest : Bytes) :
    parse (encode before ++ (r.encoded ++ rest)) =
      .error (.fieldTooShort which ((encode before).length + r.lengthOffset which)) := by
  have hspells : Cursor.Spells ⟨0, r.encoded ++ rest⟩ r.encoded ⟨0 + r.encoded.length, rest⟩ :=
    ⟨rfl, rfl⟩
  have hrecord := Cursor.record_of_gap hfits hspells hgap
  have hne : r.encoded ++ rest ≠ [] := by
    intro hnil
    rw [encoded_eq] at hnil
    exact nomatch hnil
  rw [parse_complete_append hbefore, parse, Cursor.records_of_record_error hne hrecord,
    Nat.zero_add, Nat.add_comm]
  rfl

/-- A list with an incomplete record has a first one. -/
theorem exists_first_incomplete {rs : List Record} (h : ∃ r ∈ rs, ¬ r.Complete) :
    ∃ before r after, rs = before ++ r :: after ∧ (∀ x ∈ before, x.Complete) ∧ ¬ r.Complete := by
  obtain ⟨r, hr, hincomplete⟩ := h
  induction rs with
  | nil => exact absurd hr List.not_mem_nil
  | cons x rs ih =>
      by_cases hx : x.Complete
      · have hr' : r ∈ rs := by
          rcases List.mem_cons.mp hr with rfl | hr'
          · exact absurd hx hincomplete
          · exact hr'
        obtain ⟨before, y, after, rfl, hbefore, hy⟩ := ih hr'
        exact ⟨x :: before, y, after, rfl, List.forall_mem_cons.mpr ⟨hx, hbefore⟩, hy⟩
      · exact ⟨[], x, rs, rfl, fun y hy => absurd hy List.not_mem_nil, hx⟩

/-- **READING UNDOES WRITING, PIECE BY PIECE.** Complete records are read back, in front of any bytes;
    what stands behind them is read as if it stood alone, but for the offset of its error. A list that
    is not complete is refused at the first empty field of its first incomplete record. -/
theorem parse_encode_append (rs : List Record) (hfits : ∀ r ∈ rs, r.Fits) :
    ((∀ r ∈ rs, r.Complete) →
      (∀ rest, parse (encode rs ++ rest) =
        ((parse rest).mapError (LayoutError.shift (encode rs).length)).map (rs ++ ·)) ∧
      parse (encode rs) = .ok rs) ∧
    ((∃ r ∈ rs, ¬ r.Complete) →
      ∃ before r after which, rs = before ++ r :: after ∧ (∀ x ∈ before, x.Complete) ∧
        r.gap? = some which ∧
        parse (encode rs) =
          .error (.fieldTooShort which ((encode before).length + r.lengthOffset which))) := by
  constructor
  · intro hcomplete
    have hrs : ∀ r ∈ rs, r.Complete ∧ r.Fits := fun r hr => ⟨hcomplete r hr, hfits r hr⟩
    exact ⟨parse_complete_append hrs, parse_eq_ok_iff.mpr ⟨hrs, rfl⟩⟩
  · intro hincomplete
    obtain ⟨before, r, after, rfl, hbefore, hr⟩ := exists_first_incomplete hincomplete
    obtain ⟨which, hgap⟩ := exists_gap_of_not_complete hr
    refine ⟨before, r, after, which, rfl, hbefore, hgap, ?_⟩
    rw [encode_append, encode_cons]
    refine parse_gap_append (fun x hx => ⟨hbefore x hx, ?_⟩) (hfits r ?_) hgap (encode after)
    · exact hfits x (List.mem_append_left _ hx)
    · exact List.mem_append_right before List.mem_cons_self

/-- Two records whose contents look like records themselves; the second one has no hash. -/
def misleading : List Record :=
  [⟨[97], [1], [2], marker ++ marker⟩, ⟨[98, 10], [0], [], marker⟩]

theorem misleading_fits : ∀ r ∈ misleading, r.Fits := by
  intro r hr which
  rcases List.mem_cons.mp hr with rfl | hr
  · cases which <;> decide
  · rw [List.mem_singleton.mp hr]
    cases which <;> decide

theorem parse_encode_append_misleading :
    (∀ r ∈ misleading, r.Fits) ∧ (∃ r ∈ misleading, ¬ r.Complete) ∧
    ∃ before r after which, misleading = before ++ r :: after ∧ (∀ x ∈ before, x.Complete) ∧
      r.gap? = some which ∧
      parse (encode misleading) =
        .error (.fieldTooShort which ((encode before).length + r.lengthOffset which)) := by
  have hincomplete : ∃ r ∈ misleading, ¬ r.Complete := by decide
  exact ⟨misleading_fits, hincomplete,
    (parse_encode_append misleading misleading_fits).2 hincomplete⟩

/-! ## Writing undoes reading -/

/-- **THE FORMAT IS CANONICAL.** A file that is accepted is the encoding of what was read from it and
    of no other file; its records are complete, and its size is the sum of theirs. -/
theorem encode_of_parse {bytes : Bytes} {rs : List Record} (h : parse bytes = .ok rs) :
    encode rs = bytes ∧ (∀ other, parse other = .ok rs → other = bytes) ∧
      (∀ r ∈ rs, r.Complete) ∧ bytes.length = (rs.map Record.encodedLength).sum := by
  obtain ⟨hrs, rfl⟩ := parse_eq_ok_iff.mp h
  refine ⟨rfl, ?_, fun r hr => (hrs r hr).1, length_encode rs⟩
  intro other hother
  exact (parse_eq_ok_iff.mp hother).2

theorem encode_of_parse_misleading :
    parse (encode (misleading.take 1)) = .ok (misleading.take 1) ∧
    (encode (misleading.take 1)).length = 64 := by
  have hrs : ∀ r ∈ misleading.take 1, r.Complete ∧ r.Fits := by
    intro r hr
    refine ⟨?_, misleading_fits r (List.mem_of_mem_take hr)⟩
    revert r
    decide
  have hparse : parse (encode (misleading.take 1)) = .ok (misleading.take 1) :=
    parse_eq_ok_iff.mpr ⟨hrs, rfl⟩
  exact ⟨hparse, (encode_of_parse hparse).2.2.2⟩

end Conformance.Directory
