import Mathlib
import Conformance.Directory.Decode

/-!
# Reading against writing

What the cursor accepts, said through what the encoder writes. The heart is `record_eq_ok_iff`: the
reader of records succeeds exactly where the bytes of a complete record stand, and stops right behind
them. The route:

* `ofLittleEndian_littleEndian` — a length that fits its field is read back as itself;
* `encode_cons` — a file is its records side by side, each with the padding of its own;
* `take_eq_ok_iff`, `field_eq_ok_iff`, `skipPadding_eq_ok_iff` — the same for the parts of a record;
* `records_eq_ok_iff` — a whole file is accepted exactly if it is the encoding of complete records;
* `records_shift` — reading starts over at every record: how much stands before it shows only in the
  offsets of errors.
-/

namespace Conformance

/-! ## Length fields -/

namespace Bytes

/-- A number below `256 ^ width` survives being written in `width` bytes. -/
theorem ofLittleEndian_littleEndian (width n : Nat) (h : n < 256 ^ width) :
    ofLittleEndian (littleEndian width n) = n := by
  induction width generalizing n with
  | zero => simp at h ⊢; omega
  | succ width ih =>
      have hq : n / 256 < 256 ^ width := by
        rw [Nat.pow_succ] at h
        exact Nat.div_lt_of_lt_mul (by omega)
      rw [littleEndian_succ, ofLittleEndian_cons, ih _ hq, UInt8.toNat_ofNat']
      omega

/-- A byte string of a given width reads as a number below the width's bound. -/
theorem ofLittleEndian_lt (bytes : Bytes) : ofLittleEndian bytes < 256 ^ bytes.length := by
  induction bytes with
  | nil => simp
  | cons b rest ih =>
      have hb : b.toNat < 256 := b.toNat_lt
      rw [ofLittleEndian_cons, List.length_cons, Nat.pow_succ]
      omega

end Bytes

namespace Directory

/-! ## Records as bytes -/

/-- The fields behind length fields, in stored order. -/
def SizedField.all : List SizedField := [.username, .salt, .hash, .content]

namespace Record

/-- The bytes of a field. -/
def field (record : Record) : SizedField → Bytes
  | .username => record.username
  | .salt => record.salt
  | .hash => record.hash
  | .content => record.content

/-- Whether every field is as long as it has to be: only the content may be empty. -/
def Complete (record : Record) : Prop :=
  record.username ≠ [] ∧ record.salt ≠ [] ∧ record.hash ≠ []

/-- Whether the length of every field fits its length field. -/
def Fits (record : Record) : Prop := ∀ which, (record.field which).length < 2 ^ 64

/-- The record as it stands in a file. -/
def encoded (record : Record) : Bytes :=
  record.encodeRaw ++ List.replicate (roundUp record.rawLength - record.rawLength) 0

end Record

theorem le_roundUp (n : Nat) : n ≤ roundUp n := by
  unfold roundUp
  split
  · exact Nat.le_refl n
  · exact Nat.le_add_right n _

theorem length_encodeField (field : Bytes) :
    (Record.encodeField field).length = lengthWidth + field.length := by
  rw [Record.encodeField, List.length_append, Bytes.length_littleEndian]

theorem length_encodeRaw (r : Record) : r.encodeRaw.length = r.rawLength := by
  simp only [Record.encodeRaw, Record.fields, List.flatMap_cons, List.flatMap_nil,
    List.length_append, length_encodeField, List.length_nil, Record.rawLength]
  omega

theorem length_encoded (r : Record) : r.encoded.length = r.encodedLength := by
  have h := le_roundUp r.rawLength
  rw [Record.encoded, List.length_append, length_encodeRaw, List.length_replicate,
    Record.encodedLength]
  omega

theorem complete_iff_least_le {r : Record} :
    r.Complete ↔ ∀ which : SizedField, which.least ≤ (r.field which).length := by
  simp only [Record.Complete, ← List.length_pos_iff]
  constructor
  · rintro ⟨husername, hsalt, hhash⟩ which
    cases which with
    | username => exact husername
    | salt => exact hsalt
    | hash => exact hhash
    | content => exact Nat.zero_le _
  · intro h
    exact ⟨h .username, h .salt, h .hash⟩

/-- A record in a file is the marker, the four fields and the padding, one behind the other. -/
theorem encoded_eq (r : Record) :
    r.encoded = marker ++ (Record.encodeField r.username ++ (Record.encodeField r.salt ++
      (Record.encodeField r.hash ++ (Record.encodeField r.content ++
        List.replicate (roundUp r.rawLength - r.rawLength) 0)))) := by
  simp only [Record.encoded, Record.encodeRaw, Record.fields, List.flatMap_cons,
    List.flatMap_nil, List.append_nil, List.append_assoc]

/-- What is appended for a record does not depend on what stands before it. -/
theorem appendTo_eq (out : Bytes) (r : Record) : r.appendTo out = out ++ r.encoded := by
  simp only [Record.appendTo, Record.encoded, List.length_append, length_encodeRaw,
    Nat.add_sub_cancel_left, List.append_assoc]

theorem foldl_appendTo (out : Bytes) (rs : List Record) :
    rs.foldl Record.appendTo out = out ++ rs.flatMap Record.encoded := by
  induction rs generalizing out with
  | nil => rw [List.foldl_nil, List.flatMap_nil, List.append_nil]
  | cons r rs ih =>
      rw [List.foldl_cons, ih, appendTo_eq, List.flatMap_cons, List.append_assoc]

theorem encode_eq_flatMap (rs : List Record) : encode rs = rs.flatMap Record.encoded :=
  foldl_appendTo [] rs

@[simp] theorem encode_nil : encode [] = [] := rfl

@[simp] theorem encode_cons (r : Record) (rs : List Record) :
    encode (r :: rs) = r.encoded ++ encode rs := by
  rw [encode_eq_flatMap, encode_eq_flatMap, List.flatMap_cons]

@[simp] theorem encode_append (rs more : List Record) :
    encode (rs ++ more) = encode rs ++ encode more := by
  rw [encode_eq_flatMap, encode_eq_flatMap, encode_eq_flatMap, List.flatMap_append]

/-- The size of a file is the sum of the sizes of its records. -/
theorem length_encode (rs : List Record) :
    (encode rs).length = (rs.map Record.encodedLength).sum := by
  induction rs with
  | nil => rfl
  | cons r rs ih =>
      rw [encode_cons, List.length_append, ih, length_encoded, List.map_cons, List.sum_cons]

/-! ## Results in sequence -/

theorem bind_eq_ok_iff {α β : Type} {x : Except LayoutError α} {f : α → Except LayoutError β}
    {b : β} : x.bind f = .ok b ↔ ∃ a, x = .ok a ∧ f a = .ok b := by
  cases x with
  | error e => simp [Except.bind]
  | ok a => simp [Except.bind]

/-- The same error seen from a place that lies a number of bytes further to the left. -/
def LayoutError.shift (k : Nat) : LayoutError → LayoutError
  | badMarker offset => badMarker (offset + k)
  | truncated offset needed => truncated (offset + k) needed
  | fieldTooShort which offset => fieldTooShort which (offset + k)
  | misaligned offset => misaligned (offset + k)

/-- The same result seen from a place that lies a number of bytes further to the left. -/
def shifted {α : Type} (k : Nat) (move : α → α) (x : Except LayoutError α) : Except LayoutError α :=
  (x.mapError (LayoutError.shift k)).map move

theorem bind_shifted {α β : Type} {k : Nat} {move : α → α} {move' : β → β}
    {x : Except LayoutError α} {f g : α → Except LayoutError β}
    (h : ∀ a, g (move a) = shifted k move' (f a)) :
    (shifted k move x).bind g = shifted k move' (x.bind f) := by
  cases x with
  | error e => rfl
  | ok a => exact h a

namespace Cursor

/-- The record reader as a chain of the readers of its parts. -/
theorem record_eq (c : Cursor) :
    c.record = (c.take marker.length).bind fun found =>
      if found.1 ≠ marker then .error (.badMarker c.offset)
      else (found.2.field .username).bind fun username =>
        (username.2.field .salt).bind fun salt =>
          (salt.2.field .hash).bind fun hash =>
            (hash.2.field .content).bind fun content =>
              (content.2.skipPadding (content.2.offset - c.offset)).bind fun next =>
                .ok (⟨username.1, salt.1, hash.1, content.1⟩, next) := by
  rfl

/-! ## What the readers accept -/

/-- Whether the way from one place to another passes over the given bytes. -/
def Spells (here : Cursor) (bytes : Bytes) (there : Cursor) : Prop :=
  here.rest = bytes ++ there.rest ∧ there.offset = here.offset + bytes.length

theorem spells_append_iff {here there : Cursor} {xs ys : Bytes} :
    here.Spells (xs ++ ys) there ↔ ∃ mid : Cursor, here.Spells xs mid ∧ mid.Spells ys there := by
  constructor
  · rintro ⟨hrest, hoffset⟩
    rw [List.length_append] at hoffset
    refine ⟨⟨here.offset + xs.length, ys ++ there.rest⟩, ⟨?_, rfl⟩, rfl, ?_⟩
    · rw [hrest, List.append_assoc]
    · show there.offset = here.offset + xs.length + ys.length
      omega
  · rintro ⟨mid, ⟨hrest, hoffset⟩, hrest', hoffset'⟩
    refine ⟨?_, ?_⟩
    · rw [hrest, hrest', List.append_assoc]
    · rw [hoffset', hoffset, List.length_append, Nat.add_assoc]

theorem take_eq_ok_iff {n : Nat} {c c' : Cursor} {bytes : Bytes} :
    c.take n = .ok (bytes, c') ↔ bytes.length = n ∧ c.Spells bytes c' := by
  obtain ⟨offset, rest⟩ := c
  obtain ⟨offset', rest'⟩ := c'
  unfold take Spells
  dsimp only
  constructor
  · intro h
    split at h
    · next hn =>
      simp only [Except.ok.injEq, Prod.mk.injEq, Cursor.mk.injEq] at h
      obtain ⟨rfl, rfl, rfl⟩ := h
      have hlength : (rest.take n).length = n := by rw [List.length_take]; omega
      exact ⟨hlength, (List.take_append_drop n rest).symm, by rw [hlength]⟩
    · exact nomatch h
  · rintro ⟨rfl, rfl, rfl⟩
    rw [if_pos (by rw [List.length_append]; omega), List.take_left, List.drop_left]

theorem field_eq_ok_iff {which : SizedField} {c c' : Cursor} {body : Bytes} :
    c.field which = .ok (body, c') ↔
      which.least ≤ body.length ∧ body.length < 2 ^ 64 ∧
        c.Spells (Record.encodeField body) c' := by
  rw [show c.field which = (c.take lengthWidth).bind fun found =>
      if Bytes.ofLittleEndian found.1 < which.least then .error (.fieldTooShort which c.offset)
      else found.2.take (Bytes.ofLittleEndian found.1) from rfl,
    bind_eq_ok_iff, Record.encodeField, spells_append_iff]
  constructor
  · rintro ⟨⟨announced, mid⟩, htake, h⟩
    obtain ⟨hwidth, hspells⟩ := take_eq_ok_iff.mp htake
    dsimp only at h
    split at h
    · exact nomatch h
    · next hleast =>
      obtain ⟨hlength, hbody⟩ := take_eq_ok_iff.mp h
      -- every eight bytes are the length field of exactly one length
      have hbound := Bytes.ofLittleEndian_lt announced
      have hback := Bytes.littleEndian_ofLittleEndian announced
      rw [hwidth, ← hlength] at hback
      rw [hwidth] at hbound
      refine ⟨by omega, hlength ▸ hbound, mid, ?_, hbody⟩
      rw [hback]
      exact hspells
  · rintro ⟨hleast, hbound, mid, hspells, hbody⟩
    have hread := Bytes.ofLittleEndian_littleEndian lengthWidth body.length hbound
    refine ⟨_, take_eq_ok_iff.mpr ⟨Bytes.length_littleEndian _ _, hspells⟩, ?_⟩
    dsimp only
    rw [hread, if_neg (by omega)]
    exact take_eq_ok_iff.mpr ⟨rfl, hbody⟩

theorem skipPadding_eq_ok_iff {written : Nat} {c c' : Cursor} :
    c.skipPadding written = .ok c' ↔
      c.Spells (List.replicate (roundUp written - written) 0) c' := by
  obtain ⟨offset, rest⟩ := c
  obtain ⟨offset', rest'⟩ := c'
  unfold skipPadding Spells
  dsimp only
  constructor
  · intro h
    split at h
    · next hzeros =>
      obtain ⟨hlength, hall⟩ := hzeros
      simp only [Except.ok.injEq, Cursor.mk.injEq] at h
      obtain ⟨rfl, rfl⟩ := h
      refine ⟨?_, by rw [List.length_replicate]⟩
      have htake : rest.take (roundUp written - written) =
          List.replicate (roundUp written - written) 0 := by
        rw [List.eq_replicate_iff]
        refine ⟨by rw [List.length_take]; omega, ?_⟩
        intro b hb
        simpa using List.all_eq_true.mp hall b hb
      rw [← htake, List.take_append_drop]
    · exact nomatch h
  · rintro ⟨rfl, rfl⟩
    rw [List.take_left' List.length_replicate, List.drop_left' List.length_replicate,
      List.length_replicate, if_pos]
    refine ⟨by rw [List.length_append, List.length_replicate]; omega, ?_⟩
    rw [List.all_eq_true]
    intro b hb
    simpa using List.eq_of_mem_replicate hb

/-- A padding that is not there is reported where it should begin. -/
theorem eq_misaligned_of_skipPadding {written : Nat} {c : Cursor} {e : LayoutError}
    (h : c.skipPadding written = .error e) : e = .misaligned c.offset := by
  unfold skipPadding at h
  dsimp only at h
  split at h
  · exact nomatch h
  · exact (Except.error.inj h).symm

/-- How far the cursor has come once the fields of a record are read. -/
theorem offset_of_spells_parts {c c₀ c₁ c₂ c₃ c₄ : Cursor} {username salt hash content : Bytes}
    (h₀ : c.Spells marker c₀) (h₁ : c₀.Spells (Record.encodeField username) c₁)
    (h₂ : c₁.Spells (Record.encodeField salt) c₂) (h₃ : c₂.Spells (Record.encodeField hash) c₃)
    (h₄ : c₃.Spells (Record.encodeField content) c₄) :
    c₄.offset - c.offset = (⟨username, salt, hash, content⟩ : Record).rawLength := by
  have e₀ := h₀.2
  have e₁ := h₁.2
  have e₂ := h₂.2
  have e₃ := h₃.2
  have e₄ := h₄.2
  rw [length_encodeField] at e₁ e₂ e₃ e₄
  simp only [Record.rawLength]
  omega

/-- **A record is read exactly where a complete record stands**, and the cursor stops behind it. -/
theorem record_eq_ok_iff {c c' : Cursor} {r : Record} :
    c.record = .ok (r, c') ↔ r.Complete ∧ r.Fits ∧ c.Spells r.encoded c' := by
  rw [record_eq, encoded_eq]
  simp only [bind_eq_ok_iff, spells_append_iff]
  constructor
  · rintro ⟨⟨found, c₀⟩, hfound, h⟩
    obtain ⟨-, h₀⟩ := take_eq_ok_iff.mp hfound
    by_cases hmarker : found = marker
    · rw [if_neg (not_not_intro hmarker)] at h
      simp only [bind_eq_ok_iff] at h
      obtain ⟨⟨username, c₁⟩, husername, ⟨salt, c₂⟩, hsalt, ⟨hash, c₃⟩, hhash,
        ⟨content, c₄⟩, hcontent, c₅, hpadding, h⟩ := h
      obtain ⟨least₁, fits₁, h₁⟩ := field_eq_ok_iff.mp husername
      obtain ⟨least₂, fits₂, h₂⟩ := field_eq_ok_iff.mp hsalt
      obtain ⟨least₃, fits₃, h₃⟩ := field_eq_ok_iff.mp hhash
      obtain ⟨-, fits₄, h₄⟩ := field_eq_ok_iff.mp hcontent
      have h₅ := skipPadding_eq_ok_iff.mp hpadding
      simp only [Except.ok.injEq, Prod.mk.injEq] at h
      obtain ⟨rfl, rfl⟩ := h
      rw [hmarker] at h₀
      rw [offset_of_spells_parts h₀ h₁ h₂ h₃ h₄] at h₅
      refine ⟨⟨?_, ?_, ?_⟩, ?_, c₀, h₀, c₁, h₁, c₂, h₂, c₃, h₃, c₄, h₄, h₅⟩
      · exact List.length_pos_iff.mp least₁
      · exact List.length_pos_iff.mp least₂
      · exact List.length_pos_iff.mp least₃
      · intro which
        cases which with
        | username => exact fits₁
        | salt => exact fits₂
        | hash => exact fits₃
        | content => exact fits₄
    · rw [if_pos hmarker] at h
      exact nomatch h
  · rintro ⟨hcomplete, hfits, c₀, h₀, c₁, h₁, c₂, h₂, c₃, h₃, c₄, h₄, h₅⟩
    have hleast := complete_iff_least_le.mp hcomplete
    refine ⟨(marker, c₀), take_eq_ok_iff.mpr ⟨rfl, h₀⟩, ?_⟩
    rw [if_neg (not_not_intro rfl)]
    simp only [bind_eq_ok_iff]
    refine ⟨(r.username, c₁), field_eq_ok_iff.mpr ⟨hleast .username, hfits .username, h₁⟩,
      (r.salt, c₂), field_eq_ok_iff.mpr ⟨hleast .salt, hfits .salt, h₂⟩,
      (r.hash, c₃), field_eq_ok_iff.mpr ⟨hleast .hash, hfits .hash, h₃⟩,
      (r.content, c₄), field_eq_ok_iff.mpr ⟨hleast .content, hfits .content, h₄⟩,
      c', skipPadding_eq_ok_iff.mpr ?_, rfl⟩
    rw [offset_of_spells_parts h₀ h₁ h₂ h₃ h₄]
    exact h₅

/-! ## Whole files -/

theorem records_of_rest_nil {c : Cursor} (h : c.rest = []) : c.records = .ok [] := by
  rw [records, if_pos h]

/-- Behind a record that was read, reading goes on with the next one. -/
theorem records_of_record_ok {c c' : Cursor} {r : Record} (h : c.record = .ok (r, c')) :
    c.records = (c'.records).map (r :: ·) := by
  -- a record takes bytes away, so there were some
  have hne : c.rest ≠ [] := by
    intro hnil
    have hless := length_rest_record h
    rw [hnil] at hless
    exact absurd hless (Nat.not_lt_zero _)
  rw [records, if_neg hne]
  split
  · next e he => cases h.symm.trans he
  · next r' next hr =>
    have hp := h.symm.trans hr
    simp only [Except.ok.injEq, Prod.mk.injEq] at hp
    obtain ⟨rfl, rfl⟩ := hp
    cases c'.records with
    | error e => rfl
    | ok rs => rfl

/-- An error in a record ends the reading. -/
theorem records_of_record_error {c : Cursor} {e : LayoutError} (hne : c.rest ≠ [])
    (h : c.record = .error e) : c.records = .error e := by
  rw [records, if_neg hne]
  split
  · next e' he =>
    have heq := he.symm.trans h
    simp only [Except.error.injEq] at heq
    rw [heq]
  · next r' next hr => cases h.symm.trans hr

/-- What a file can begin with: nothing, an error, or a record with more behind it. -/
theorem records_cases (c : Cursor) :
    (c.rest = [] ∧ c.records = .ok []) ∨
    (∃ e, c.record = .error e ∧ c.records = .error e) ∨
    (∃ r c', c.record = .ok (r, c') ∧ c.records = c'.records.map (r :: ·)) := by
  by_cases hrest : c.rest = []
  · exact Or.inl ⟨hrest, records_of_rest_nil hrest⟩
  · cases h : c.record with
    | error e => exact Or.inr (Or.inl ⟨e, rfl, records_of_record_error hrest h⟩)
    | ok p => exact Or.inr (Or.inr ⟨p.1, p.2, rfl, records_of_record_ok h⟩)

theorem records_eq_ok_nil_iff {c : Cursor} : c.records = .ok [] ↔ c.rest = [] := by
  constructor
  · intro h
    rcases records_cases c with ⟨hrest, -⟩ | ⟨e, -, he⟩ | ⟨r, c', -, hmap⟩
    · exact hrest
    · exact nomatch h.symm.trans he
    · rw [hmap] at h
      cases hs : c'.records with
      | error e => rw [hs] at h; exact nomatch h
      | ok rs => rw [hs] at h; exact nomatch h
  · exact records_of_rest_nil

theorem records_eq_ok_cons_iff {c : Cursor} {r : Record} {rs : List Record} :
    c.records = .ok (r :: rs) ↔ ∃ c', c.record = .ok (r, c') ∧ c'.records = .ok rs := by
  constructor
  · intro h
    rcases records_cases c with ⟨-, hnil⟩ | ⟨e, -, he⟩ | ⟨r', c', hr, hmap⟩
    · exact nomatch h.symm.trans hnil
    · exact nomatch h.symm.trans he
    · rw [hmap] at h
      cases hs : c'.records with
      | error e => rw [hs] at h; exact nomatch h
      | ok rs' =>
          rw [hs] at h
          simp only [Except.map, Except.ok.injEq, List.cons.injEq] at h
          obtain ⟨rfl, rfl⟩ := h
          exact ⟨c', hr, hs⟩
  · rintro ⟨c', hr, hs⟩
    rw [records_of_record_ok hr, hs]
    rfl

/-- **A file is accepted exactly if it is the encoding of complete records.** -/
theorem records_eq_ok_iff {c : Cursor} {rs : List Record} :
    c.records = .ok rs ↔ (∀ r ∈ rs, r.Complete ∧ r.Fits) ∧ c.rest = encode rs := by
  induction rs generalizing c with
  | nil =>
      rw [records_eq_ok_nil_iff, encode_nil]
      exact ⟨fun h => ⟨fun r hr => absurd hr List.not_mem_nil, h⟩, fun h => h.2⟩
  | cons r rs ih =>
      rw [records_eq_ok_cons_iff, encode_cons, List.forall_mem_cons]
      constructor
      · rintro ⟨c', hr, hs⟩
        obtain ⟨hcomplete, hfits, hspells⟩ := record_eq_ok_iff.mp hr
        obtain ⟨hall, hrest⟩ := ih.mp hs
        exact ⟨⟨⟨hcomplete, hfits⟩, hall⟩, by rw [hspells.1, hrest]⟩
      · rintro ⟨⟨⟨hcomplete, hfits⟩, hall⟩, hrest⟩
        exact ⟨⟨c.offset + r.encoded.length, encode rs⟩,
          record_eq_ok_iff.mpr ⟨hcomplete, hfits, hrest, rfl⟩, ih.mpr ⟨hall, rfl⟩⟩

/-! ## Reading starts over at every record -/

/-- The same place seen from one that lies a number of bytes further to the left. -/
def shift (k : Nat) (c : Cursor) : Cursor := ⟨c.offset + k, c.rest⟩

theorem take_shift (k n : Nat) (c : Cursor) :
    (c.shift k).take n = shifted k (Prod.map id (shift k)) (c.take n) := by
  unfold take shift
  dsimp only
  split
  · show Except.ok _ = Except.ok _
    simp only [Prod.map, id, Nat.add_right_comm]
  · rfl

theorem field_shift (k : Nat) (which : SizedField) (c : Cursor) :
    (c.shift k).field which = shifted k (Prod.map id (shift k)) (c.field which) := by
  unfold field
  show ((c.shift k).take lengthWidth).bind _ = _
  rw [take_shift]
  refine bind_shifted fun found => ?_
  by_cases h : Bytes.ofLittleEndian found.1 < which.least
  · simp only [Prod.map, id, if_pos h]
    rfl
  · simp only [Prod.map, id, if_neg h]
    exact take_shift k _ found.2

theorem skipPadding_shift (k written : Nat) (c : Cursor) :
    (c.shift k).skipPadding written = shifted k (shift k) (c.skipPadding written) := by
  unfold skipPadding shift
  dsimp only
  split
  · show Except.ok _ = Except.ok _
    simp only [Nat.add_right_comm]
  · rfl

theorem record_shift (k : Nat) (c : Cursor) :
    (c.shift k).record = shifted k (Prod.map id (shift k)) c.record := by
  -- part by part; only the padding looks at offsets, and at a difference of two
  rw [record_eq, record_eq, take_shift]
  refine bind_shifted fun found => ?_
  by_cases h : found.1 ≠ marker
  · simp only [Prod.map, id, if_pos h]
    rfl
  simp only [Prod.map, id, if_neg h]
  rw [field_shift]
  refine bind_shifted fun username => ?_
  show Except.bind ((username.2.shift k).field .salt) _ = _
  rw [field_shift]
  refine bind_shifted fun salt => ?_
  show Except.bind ((salt.2.shift k).field .hash) _ = _
  rw [field_shift]
  refine bind_shifted fun hash => ?_
  show Except.bind ((hash.2.shift k).field .content) _ = _
  rw [field_shift]
  refine bind_shifted fun content => ?_
  show Except.bind ((content.2.shift k).skipPadding
    (content.2.offset + k - (c.offset + k))) _ = _
  rw [Nat.add_sub_add_right, skipPadding_shift]
  exact bind_shifted fun next => rfl

/-- **How much stands before a file shows only in the offsets of errors.** -/
theorem records_shift (k : Nat) (c : Cursor) :
    (c.shift k).records = shifted k id c.records := by
  fun_induction records c with
  | case1 c hnil => exact records_of_rest_nil hnil
  | case2 c hne e he =>
      have h := record_shift k c
      rw [he] at h
      exact records_of_record_error hne h
  | case3 c hne r next hr e he ih =>
      have h := record_shift k c
      rw [hr] at h
      rw [records_of_record_ok h]
      show Except.map _ (next.shift k).records = _
      rw [ih, he]
      rfl
  | case4 c hne r next hr rs hrs ih =>
      have h := record_shift k c
      rw [hr] at h
      rw [records_of_record_ok h]
      show Except.map _ (next.shift k).records = _
      rw [ih, hrs]
      rfl

end Cursor

end Directory

end Conformance
