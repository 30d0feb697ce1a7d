import Conformance.Proofs.Directory.Parts

/-!
# Files that end too early

A directory file that is cut off is still accepted if the cut falls between two records; it then holds
the records in front of the cut. Everywhere else the error tells where the file ends: in which part of
which record, and how many bytes are missing from that part, or that the padding is incomplete
(`parse_take`).

The readers are put together from `Cursor.take`, which reads one piece. `Cursor.Reads` says of a reader
which pieces it reads and what happens if the file ends inside one of them; it holds of `take`
(`reads_take`) and is kept when readers are put one behind the other (`reads_bind`), so it holds of the
reader of a record with the parts of the record for pieces (`reads_unpadded`).
-/

namespace Conformance.Directory

namespace Cursor

/-! ## Readers of pieces -/

/-- Whether a reader reads the given pieces, one behind the other, and makes a value of them. If the
    file ends inside a piece, that piece is reported, with as many bytes as it lacks. -/
structure Reads {α : Type} (read : Cursor → Except LayoutError (α × Cursor)) (pieces : List Bytes)
    (value : α) : Prop where
  whole : ∀ offset rest,
    read ⟨offset, pieces.flatten ++ rest⟩ = .ok (value, ⟨offset + pieces.flatten.length, rest⟩)
  cut : ∀ before held missing after, pieces = before ++ (held ++ missing) :: after → missing ≠ [] →
    ∀ offset, read ⟨offset, before.flatten ++ held⟩ =
      .error (.truncated (offset + before.flatten.length) missing.length)

theorem reads_done {α : Type} (value : α) : Reads (fun c => .ok (value, c)) [] value where
  whole _ _ := rfl
  cut before held missing after h := by
    have hlength := congrArg List.length h
    rw [List.length_append, List.length_cons, List.length_nil] at hlength
    omega

theorem reads_take (piece : Bytes) : Reads (take piece.length) [piece] piece where
  whole offset rest := by
    rw [List.flatten_singleton]
    exact take_eq_ok_iff.mpr ⟨rfl, rfl, rfl⟩
  cut before held missing after h hmissing offset := by
    -- there is one piece, so nothing stands in front of the one that is cut
    obtain ⟨rfl, rfl, rfl⟩ : before = [] ∧ piece = held ++ missing ∧ after = [] := by
      cases before with
      | nil => exact ⟨rfl, (List.cons.inj h).1, (List.cons.inj h).2.symm⟩
      | cons first before => simp at h
    have hpos := List.length_pos_iff.mpr hmissing
    unfold take
    dsimp only
    rw [List.flatten_nil, List.nil_append, List.length_append, if_neg (by omega),
      Nat.add_sub_cancel_left]
    rfl

/-- One reader behind another reads the pieces of both. -/
theorem reads_bind {α β : Type} {first : Cursor → Except LayoutError (α × Cursor)}
    {next : Cursor → α × Cursor → Except LayoutError (β × Cursor)} {xs ys : List Bytes} {a : α}
    {b : β} (hfirst : Reads first xs a) (hnext : ∀ start, Reads (fun c => next start (a, c)) ys b) :
    Reads (fun c => (first c).bind (next c)) (xs ++ ys) b where
  whole offset rest := by
    rw [List.flatten_append, List.append_assoc, hfirst.whole, List.length_append, ← Nat.add_assoc]
    exact (hnext _).whole _ rest
  cut before held missing after h hmissing offset := by
    rcases List.append_eq_append_iff.mp h with ⟨between, rfl, hys⟩ | ⟨between, hxs, hcut⟩
    · -- the cut is behind all that the first reader reads
      rw [List.flatten_append, List.append_assoc, hfirst.whole, List.length_append,
        ← Nat.add_assoc]
      exact (hnext _).cut between held missing after hys hmissing _
    · cases between with
      | nil =>
          rw [List.append_nil] at hxs
          subst hxs
          rw [hfirst.whole]
          exact (hnext _).cut [] held missing after hcut.symm hmissing _
      | cons piece between =>
          obtain ⟨rfl, -⟩ := List.cons.inj hcut
          rw [hfirst.cut before held missing between hxs hmissing]
          rfl

theorem reads_field {which : SizedField} {body : Bytes} (hleast : which.least ≤ body.length)
    (hfits : body.length < 2 ^ 64) :
    Reads (field which) [Bytes.littleEndian lengthWidth body.length, body] body := by
  have hlength := reads_take (Bytes.littleEndian lengthWidth body.length)
  rw [Bytes.length_littleEndian] at hlength
  have hread := Bytes.ofLittleEndian_littleEndian lengthWidth body.length hfits
  show Reads (fun c => (c.take lengthWidth).bind fun found =>
    if Bytes.ofLittleEndian found.1 < which.least then .error (.fieldTooShort which c.offset)
    else found.2.take (Bytes.ofLittleEndian found.1))
      ([Bytes.littleEndian lengthWidth body.length] ++ [body]) body
  refine reads_bind hlength fun start => ?_
  simp only [hread, if_neg (Nat.not_lt.mpr hleast)]
  exact reads_take body

/-! ## Records without their padding -/

/-- The next record, up to its padding. -/
def unpadded (start : Cursor) : Except LayoutError (Record × Cursor) :=
  (start.take marker.length).bind fun found =>
    if found.1 ≠ marker then .error (.badMarker start.offset)
    else (found.2.field .username).bind fun username =>
      (username.2.field .salt).bind fun salt =>
        (salt.2.field .hash).bind fun hash =>
          (hash.2.field .content).bind fun content =>
            .ok (⟨username.1, salt.1, hash.1, content.1⟩, content.2)

theorem record_eq_unpadded (c : Cursor) :
    c.record = c.unpadded.bind fun found =>
      (found.2.skipPadding (found.2.offset - c.offset)).bind fun next => .ok (found.1, next) := by
  rw [record_eq, unpadded]
  cases c.take marker.length with
  | error e => rfl
  | ok found =>
  dsimp only [Except.bind]
  split
  · rfl
  cases found.2.field .username with
  | error e => rfl
  | ok username =>
  dsimp only
  cases username.2.field .salt with
  | error e => rfl
  | ok salt =>
  dsimp only
  cases salt.2.field .hash with
  | error e => rfl
  | ok hash =>
  dsimp only
  cases hash.2.field .content with
  | error e => rfl
  | ok content => rfl

/-- A complete record is read part by part. -/
theorem reads_unpadded {r : Record} (hcomplete : r.Complete) (hfits : r.Fits) :
    Reads unpadded (Part.all.map r.part) r := by
  have hleast := complete_iff_least_le.mp hcomplete
  refine reads_bind (reads_take marker) fun _ => ?_
  simp only [ne_eq, not_true_eq_false, if_false]
  refine reads_bind (reads_field (hleast .username) (hfits .username)) fun _ => ?_
  refine reads_bind (reads_field (hleast .salt) (hfits .salt)) fun _ => ?_
  refine reads_bind (reads_field (hleast .hash) (hfits .hash)) fun _ => ?_
  refine reads_bind (reads_field (hleast .content) (hfits .content)) fun _ => ?_
  exact reads_done r

/-- What is read of a record up to its padding, whatever stands behind it. -/
theorem unpadded_parts {r : Record} (hcomplete : r.Complete) (hfits : r.Fits) (offset : Nat)
    (rest : Bytes) : unpadded ⟨offset, Part.all.flatMap r.part ++ rest⟩ =
      .ok (r, ⟨offset + r.rawLength, rest⟩) := by
  have hwhole := (reads_unpadded hcomplete hfits).whole offset rest
  rwa [← List.flatMap_def, length_parts] at hwhole

/-- A record is reported at the end of its parts if its padding does not stand behind them. -/
theorem record_of_not_padding {r : Record} (hcomplete : r.Complete) (hfits : r.Fits) {rest : Bytes}
    (hrest : ¬ r.padding <+: rest) (offset : Nat) :
    record ⟨offset, Part.all.flatMap r.part ++ rest⟩ =
      .error (.misaligned (offset + r.rawLength)) := by
  rw [record_eq_unpadded, unpadded_parts hcomplete hfits]
  show Except.bind (skipPadding (offset + r.rawLength - offset) _) _ = _
  rw [Nat.add_sub_cancel_left]
  cases h : skipPadding r.rawLength ⟨offset + r.rawLength, rest⟩ with
  | ok next => exact absurd ⟨next.rest, (skipPadding_eq_ok_iff.mp h).1.symm⟩ hrest
  | error e =>
      obtain rfl := eq_misaligned_of_skipPadding h
      rfl

/-! ## Records that are cut -/

/-- A record that ends inside a part is reported with the part and with what is missing from it. -/
theorem record_cut_part {r : Record} (hcomplete : r.Complete) (hfits : r.Fits) {part : Part}
    {n : Nat} (hpart : r.InPart part n) (offset : Nat) :
    record ⟨offset, r.encoded.take n⟩ =
      .error (.truncated (offset + r.start part) (r.start part + (r.part part).length - n)) := by
  obtain ⟨after, hparts⟩ := exists_parts_around part
  obtain ⟨hstart, hend⟩ := hpart
  obtain ⟨j, rfl⟩ := Nat.exists_eq_add_of_le hstart
  have hj : j < (r.part part).length := Nat.lt_of_add_lt_add_left hend
  have hheld : r.encoded.take (r.start part + j) =
      ((Part.all.takeWhile (· ≠ part)).map r.part).flatten ++ (r.part part).take j := by
    rw [encoded_around hparts, List.append_assoc, List.append_assoc, Record.start,
      List.take_length_add_append, List.take_append_of_le_length (Nat.le_of_lt hj),
      List.flatMap_def]
  have hmissing : (r.part part).drop j ≠ [] := by
    rw [← List.length_pos_iff, List.length_drop]
    omega
  have hcut := (reads_unpadded hcomplete hfits).cut
    ((Part.all.takeWhile (· ≠ part)).map r.part) ((r.part part).take j) ((r.part part).drop j)
    (after.map r.part)
    (by rw [List.take_append_drop, ← List.map_cons, ← List.map_append, ← hparts]) hmissing offset
  rw [record_eq_unpadded, hheld, hcut, List.length_drop, ← List.flatMap_def, Nat.add_sub_add_left]
  rfl

/-- A record that ends inside its padding is reported at the end of its parts. -/
theorem record_cut_padding {r : Record} (hcomplete : r.Complete) (hfits : r.Fits) {n : Nat}
    (hraw : r.rawLength ≤ n) (hn : n < r.encodedLength) (offset : Nat) :
    record ⟨offset, r.encoded.take n⟩ = .error (.misaligned (offset + r.rawLength)) := by
  have hheld : r.encoded.take n =
      Part.all.flatMap r.part ++ r.padding.take (n - r.rawLength) := by
    rw [encoded_eq_parts, List.take_append, length_parts,
      List.take_of_length_le (by rw [length_parts]; exact hraw)]
  rw [hheld]
  refine record_of_not_padding hcomplete hfits (fun hpadding => ?_) offset
  -- what is left of the padding is too short to hold it
  have hlength := hpadding.length_le
  rw [List.length_take, length_padding] at hlength
  omega

end Cursor

/-! ## Files that are cut -/

/-- Behind complete records the error of a record is the error of the file. -/
theorem parse_record_error {before : List Record} (hbefore : ∀ r ∈ before, r.Complete ∧ r.Fits)
    {rest : Bytes} (hrest : rest ≠ []) {e : LayoutError}
    (h : Cursor.record ⟨0, rest⟩ = .error e) :
    parse (encode before ++ rest) = .error (e.shift (encode before).length) := by
  rw [parse_complete_append hbefore, parse, Cursor.records_of_record_error hrest h]
  rfl

variable {rs : List Record}

/-- A cut between two records leaves the records in front of it. -/
theorem parse_take_boundary (hrs : ∀ r ∈ rs, r.Complete ∧ r.Fits) (i : Nat) :
    parse ((encode rs).take ((rs.take i).map Record.encodedLength).sum) = .ok (rs.take i) := by
  have hcut : (encode rs).take ((rs.take i).map Record.encodedLength).sum = encode (rs.take i) := by
    conv_lhs => rw [← List.take_append_drop i rs]
    rw [encode_append, List.take_append_drop, ← length_encode, List.take_left]
  rw [hcut]
  exact parse_eq_ok_iff.mpr ⟨fun r hr => hrs r (List.mem_of_mem_take hr), rfl⟩

/-- A cut inside a record is reported as the end of this record in its padding or in one part. -/
theorem parse_take_inside (hrs : ∀ r ∈ rs, r.Complete ∧ r.Fits) {before after : List Record}
    {r : Record} {s k : Nat} (hsplit : rs = before ++ r :: after)
    (hs : s = (before.map Record.encodedLength).sum) (hstart : s < k)
    (hend : k < s + r.encodedLength) :
    (s + r.rawLength ≤ k →
      parse ((encode rs).take k) = .error (.misaligned (s + r.rawLength))) ∧
    (k < s + r.rawLength → ∃ part : Part, r.InPart part (k - s) ∧
      (∀ other : Part, r.InPart other (k - s) → other = part) ∧
      parse ((encode rs).take k) = .error (.truncated (s + r.start part)
        (s + r.start part + (r.part part).length - k))) := by
  subst hsplit
  rw [← length_encode] at hs
  subst hs
  obtain ⟨n, rfl⟩ := Nat.exists_eq_add_of_le (Nat.le_of_lt hstart)
  have hn : n < r.encodedLength := Nat.lt_of_add_lt_add_left hend
  obtain ⟨hcomplete, hfits⟩ := hrs r (List.mem_append_right _ List.mem_cons_self)
  have hbefore : ∀ x ∈ before, x.Complete ∧ x.Fits := fun x hx =>
    hrs x (List.mem_append_left _ hx)
  have hheld : r.encoded.take n ≠ [] := by
    rw [← List.length_pos_iff, List.length_take, length_encoded]
    omega
  rw [encode_cut before r after (Nat.le_of_lt hn), Nat.add_sub_cancel_left]
  constructor
  · intro hraw
    have herror := parse_record_error hbefore hheld
      (Cursor.record_cut_padding hcomplete hfits (Nat.le_of_add_le_add_left hraw) hn 0)
    rwa [LayoutError.shift, Nat.zero_add, Nat.add_comm] at herror
  · intro hraw
    obtain ⟨part, hpart⟩ := exists_inPart (Nat.lt_of_add_lt_add_left hraw)
    have herror := parse_record_error hbefore hheld
      (Cursor.record_cut_part hcomplete hfits hpart 0)
    refine ⟨part, hpart, fun other hother => inPart_unique hpart hother, ?_⟩
    rwa [LayoutError.shift, Nat.zero_add, Nat.add_comm (r.start part), ← Nat.add_sub_add_left,
      ← Nat.add_assoc] at herror

/-- A cut that is not between two records is inside one. -/
theorem exists_cut_record {k : Nat} (hk : k ≤ (encode rs).length)
    (hinside : ¬ ∃ i ≤ rs.length, k = ((rs.take i).map Record.encodedLength).sum) :
    ∃ (before : List Record) (r : Record) (after : List Record), rs = before ++ r :: after ∧
      (before.map Record.encodedLength).sum < k ∧
      k < (before.map Record.encodedLength).sum + r.encodedLength := by
  have hlt : k < (encode rs).length := by
    refine Nat.lt_of_le_of_ne hk fun hend => hinside ⟨rs.length, Nat.le_refl _, ?_⟩
    rw [List.take_length, ← length_encode, hend]
  obtain ⟨before, r, after, n, rfl, rfl, hn⟩ := exists_record hlt
  refine ⟨before, r, after, rfl, ?_, by rw [← length_encode]; omega⟩
  rw [← length_encode]
  refine Nat.lt_add_of_pos_right (Nat.pos_of_ne_zero fun hzero => ?_)
  refine hinside ⟨before.length, by rw [List.length_append]; omega, ?_⟩
  rw [List.take_left, ← length_encode, hzero, Nat.add_zero]

/-- **EVERY TRUNCATION IS CLASSIFIED.** A file of complete records that is cut off is accepted just if
    the cut is behind the first so many records, and then these are read. Any other cut is inside a
    record: behind its parts the padding is reported, and otherwise the one part that contains the cut,
    with as many bytes as it lacks. -/
theorem parse_take (hrs : ∀ r ∈ rs, r.Complete ∧ r.Fits) {k : Nat} (hk : k ≤ (encode rs).length) :
    (∀ found, parse ((encode rs).take k) = .ok found ↔
      ∃ i ≤ rs.length, k = ((rs.take i).map Record.encodedLength).sum ∧ found = rs.take i) ∧
    ((¬ ∃ i ≤ rs.length, k = ((rs.take i).map Record.encodedLength).sum) →
      ∃ (before : List Record) (r : Record) (after : List Record), rs = before ++ r :: after ∧
        (before.map Record.encodedLength).sum < k ∧
        k < (before.map Record.encodedLength).sum + r.encodedLength) ∧
    ∀ (before : List Record) (r : Record) (after : List Record) (s : Nat),
      rs = before ++ r :: after → s = (before.map Record.encodedLength).sum →
      s < k → k < s + r.encodedLength →
        (s + r.rawLength ≤ k →
          parse ((encode rs).take k) = .error (.misaligned (s + r.rawLength))) ∧
        (k < s + r.rawLength → ∃ part : Part, r.InPart part (k - s) ∧
          (∀ other : Part, r.InPart other (k - s) → other = part) ∧
          parse ((encode rs).take k) = .error (.truncated (s + r.start part)
            (s + r.start part + (r.part part).length - k))) := by
  refine ⟨fun found => ⟨fun hfound => ?_, ?_⟩, exists_cut_record hk,
    fun before r after s hsplit hs => parse_take_inside hrs hsplit hs⟩
  · by_cases hboundary : ∃ i ≤ rs.length, k = ((rs.take i).map Record.encodedLength).sum
    · obtain ⟨i, hi, rfl⟩ := hboundary
      exact ⟨i, hi, rfl, Except.ok.inj (hfound.symm.trans (parse_take_boundary hrs i))⟩
    · -- a cut inside a record is no success
      obtain ⟨before, r, after, hsplit, hstart, hend⟩ := exists_cut_record hk hboundary
      obtain ⟨hpadding, hpart⟩ := parse_take_inside hrs hsplit rfl hstart hend
      rcases Nat.lt_or_ge k ((before.map Record.encodedLength).sum + r.rawLength) with hraw | hraw
      · obtain ⟨part, -, -, herror⟩ := hpart hraw
        exact nomatch hfound.symm.trans herror
      · exact nomatch hfound.symm.trans (hpadding hraw)
  · rintro ⟨i, -, rfl, rfl⟩
    exact parse_take_boundary hrs i

/-- A record whose content looks like two markers, and one without content. -/
def cutPair : List Record := [⟨[97], [1], [2], marker ++ marker⟩, ⟨[98, 10], [0], [7], []⟩]

theorem cutPair_complete_fits : ∀ r ∈ cutPair, r.Complete ∧ r.Fits := by
  intro r hr
  rcases List.mem_cons.mp hr with rfl | hr
  · exact ⟨by decide, fun which => by cases which <;> decide⟩
  · rw [List.mem_singleton.mp hr]
    exact ⟨by decide, fun which => by cases which <;> decide⟩

/-- The pair is cut between its records, in front of the second username, and where the second content
    is not. -/
theorem parse_take_cutPair :
    (∀ r ∈ cutPair, r.Complete ∧ r.Fits) ∧ 108 ≤ (encode cutPair).length ∧
    parse ((encode cutPair).take 64) = .ok (cutPair.take 1) ∧
    parse ((encode cutPair).take 80) = .error (.truncated 80 2) ∧
    parse ((encode cutPair).take 108) = .error (.misaligned 108) := by
  have hlength : (encode cutPair).length = 112 := length_encode cutPair
  have hsplit : cutPair = [cutPair[0]] ++ cutPair[1] :: [] := rfl
  have hrs := cutPair_complete_fits
  refine ⟨hrs, by omega, ?_, ?_, ?_⟩
  · exact ((parse_take hrs (by omega)).1 _).mpr ⟨1, by decide, by decide, rfl⟩
  · obtain ⟨part, -, hunique, herror⟩ := ((parse_take hrs (k := 80) (by omega)).2.2 _ _ _ 64
      hsplit (by decide) (by decide) (by decide)).2 (by decide)
    obtain rfl := hunique .username (by decide)
    exact herror
  · exact ((parse_take hrs (k := 108) (by omega)).2.2 _ _ _ 64 hsplit (by decide) (by decide)
      (by decide)).1 (by decide)

end Conformance.Directory
