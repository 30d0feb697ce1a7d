import Conformance.Proofs.Directory.Sizes

/-!
# What the errors of the reader tell

An error of the reader is about bytes that are there: its offset lies in the file, and for a marker or a
length the eight bytes behind the offset do too (`parse_error_within`). It is final: a wrong marker and
a field that is too short stay what they are whatever is appended to the file, and a file that is
truncated lacks exactly as many bytes as the error says (`parse_error_after`). Both are proved for
`take`, kept when readers are put one behind the other, and so hold of the reader of a record and, by
induction along the records, of the file.
-/

namespace Conformance.Directory

namespace LayoutError

/-- Whether an error is about bytes of a file of the given size. -/
def Within (size : Nat) : LayoutError → Prop
  | badMarker offset => alignment ∣ offset ∧ offset + marker.length ≤ size
  | truncated offset needed => offset ≤ size ∧ 1 ≤ needed
  | fieldTooShort _ offset => offset + lengthWidth ≤ size
  | misaligned offset => offset ≤ size

/-- The error that is left when so many bytes more have come, if they cannot mend it. -/
def after? (more : Nat) : LayoutError → Option LayoutError
  | badMarker offset => some (badMarker offset)
  | truncated offset needed =>
    if more < needed then some (truncated offset (needed - more)) else none
  | fieldTooShort which offset => some (fieldTooShort which offset)
  | misaligned _ => none

end LayoutError

theorem alignment_dvd_encodedLength (r : Record) : alignment ∣ r.encodedLength := by
  rw [Record.encodedLength, roundUp_eq]
  exact Nat.dvd_mul_left 8 _

namespace Cursor

/-! ## Where errors are -/

section Within

variable {α β : Type} {size : Nat} {c : Cursor}

/-- Whether a place lies in a file of the given size. -/
def In (size : Nat) (c : Cursor) : Prop := c.offset + c.rest.length = size

/-- Whether a result keeps to a file of the given size: its error is about bytes of the file, and the
    place where reading goes on lies in it. -/
def Keeps (size : Nat) (x : Except LayoutError (α × Cursor)) : Prop :=
  match x with
  | .ok (_, next) => next.In size
  | .error e => e.Within size

theorem keeps_bind {x : Except LayoutError (α × Cursor)}
    {f : α × Cursor → Except LayoutError (β × Cursor)} (hx : Keeps size x)
    (hf : ∀ a next, x = .ok (a, next) → next.In size → Keeps size (f (a, next))) :
    Keeps size (x.bind f) := by
  cases x with
  | error e => exact hx
  | ok p => exact hf p.1 p.2 rfl hx

theorem In.of_spells {next : Cursor} {bytes : Bytes} (hc : c.In size)
    (h : c.Spells bytes next) : next.In size := by
  obtain ⟨hrest, hoffset⟩ := h
  rw [In, hrest, List.length_append] at hc
  rw [In, hoffset]
  omega

theorem keeps_take (hc : c.In size) (n : Nat) : Keeps size (c.take n) := by
  cases h : c.take n with
  | ok p => exact hc.of_spells (take_eq_ok_iff.mp h).2
  | error e =>
      unfold take at h
      dsimp only at h
      split at h
      · exact nomatch h
      · next hshort =>
        obtain rfl := Except.error.inj h
        rw [In] at hc
        exact ⟨by omega, by omega⟩

theorem keeps_field (hc : c.In size) (which : SizedField) : Keeps size (c.field which) := by
  refine keeps_bind (x := c.take lengthWidth) (keeps_take hc lengthWidth)
    fun announced body h hbody => ?_
  obtain ⟨hwidth, hspells⟩ := take_eq_ok_iff.mp h
  dsimp only
  split
  · -- the length that is too short has been read
    show c.offset + lengthWidth ≤ size
    rw [In, hspells.1, List.length_append, hwidth] at hc
    omega
  · exact keeps_take hbody _

theorem keeps_skipPadding (hc : c.In size) (written : Nat)
    {f : Cursor → Except LayoutError (β × Cursor)}
    (hf : ∀ next, next.In size → Keeps size (f next)) :
    Keeps size ((c.skipPadding written).bind f) := by
  cases h : c.skipPadding written with
  | ok next => exact hf next (hc.of_spells (skipPadding_eq_ok_iff.mp h))
  | error e =>
      obtain rfl := eq_misaligned_of_skipPadding h
      exact hc ▸ Nat.le_add_right _ _

/-- A record that starts at a multiple of the alignment keeps to the file. -/
theorem keeps_record (hc : c.In size) (haligned : alignment ∣ c.offset) : Keeps size c.record := by
  rw [record_eq]
  refine keeps_bind (keeps_take hc _) fun found c₀ hfound h₀ => ?_
  obtain ⟨hwidth, hspells⟩ := take_eq_ok_iff.mp hfound
  dsimp only
  split
  · refine ⟨haligned, ?_⟩
    rw [In, hspells.1, List.length_append, hwidth] at hc
    omega
  refine keeps_bind (keeps_field h₀ .username) fun username c₁ _ h₁ => ?_
  refine keeps_bind (keeps_field h₁ .salt) fun salt c₂ _ h₂ => ?_
  refine keeps_bind (keeps_field h₂ .hash) fun hash c₃ _ h₃ => ?_
  refine keeps_bind (keeps_field h₃ .content) fun content c₄ _ h₄ => ?_
  exact keeps_skipPadding h₄ _ fun next hnext => hnext

/-- Records are as long as multiples of the alignment, so each of them starts at one. -/
theorem records_error_within (hc : c.In size) (haligned : alignment ∣ c.offset) {e : LayoutError}
    (h : c.records = .error e) : e.Within size := by
  fun_induction records c with
  | case1 c hnil => cases h
  | case2 c hne e' he =>
      obtain rfl := Except.error.inj h
      have hkeeps := keeps_record hc haligned
      rwa [he] at hkeeps
  | case3 c hne r next hr e' he ih =>
      obtain rfl := Except.error.inj h
      obtain ⟨-, -, hspells⟩ := record_eq_ok_iff.mp hr
      refine ih (hc.of_spells hspells) ?_ he
      rw [hspells.2, length_encoded]
      exact Nat.dvd_add haligned (alignment_dvd_encodedLength r)
  | case4 c hne r next hr rs hrs ih => cases h

end Within

/-! ## Longer files -/

section Longer

variable {α β : Type} {more : Bytes}

/-- The same place in a file with more bytes at its end. -/
def extend (more : Bytes) (c : Cursor) : Cursor := ⟨c.offset, c.rest ++ more⟩

/-- Whether a result for a longer file follows from the result for the file: what was read is read
    again, and an error that the new bytes cannot mend is left as it has become. -/
def Follows (more : Bytes) (move : α → α) (x longer : Except LayoutError α) : Prop :=
  match x with
  | .ok a => longer = .ok (move a)
  | .error e => ∀ left, e.after? more.length = some left → longer = .error left

theorem follows_bind {move : α → α} {move' : β → β} {x longer : Except LayoutError α}
    {f g : α → Except LayoutError β} (hx : Follows more move x longer)
    (hf : ∀ a, Follows more move' (f a) (g (move a))) :
    Follows more move' (x.bind f) (longer.bind g) := by
  cases x with
  | error e =>
      intro left hleft
      rw [show longer = .error left from hx left hleft]
      rfl
  | ok a =>
      rw [show longer = .ok (move a) from hx]
      exact hf a

/-- An error that nothing can mend follows from itself. -/
theorem follows_error {move : α → α} {e : LayoutError} (he : e.after? more.length = some e) :
    Follows more move (.error e) (.error e) := by
  intro left hleft
  rw [Option.some.inj (he.symm.trans hleft)]

theorem follows_take (c : Cursor) (n : Nat) :
    Follows more (Prod.map id (extend more)) (c.take n) ((c.extend more).take n) := by
  unfold take extend
  dsimp only
  rw [List.length_append]
  split
  · next hn =>
    rw [if_pos (by omega), List.take_append_of_le_length hn, List.drop_append_of_le_length hn]
    rfl
  · intro left hleft
    rw [LayoutError.after?] at hleft
    split at hleft
    · rw [if_neg (by omega), ← Option.some.inj hleft, Nat.sub_sub]
    · exact nomatch hleft

theorem follows_field (c : Cursor) (which : SizedField) :
    Follows more (Prod.map id (extend more)) (c.field which) ((c.extend more).field which) := by
  refine follows_bind (x := c.take lengthWidth) (follows_take c lengthWidth) fun announced => ?_
  dsimp only [Prod.map, id]
  split
  · exact follows_error rfl
  · exact follows_take announced.2 _

theorem follows_skipPadding (c : Cursor) (written : Nat) :
    Follows more (extend more) (c.skipPadding written) ((c.extend more).skipPadding written) := by
  cases h : c.skipPadding written with
  | ok next =>
      obtain ⟨hrest, hoffset⟩ := skipPadding_eq_ok_iff.mp h
      refine skipPadding_eq_ok_iff.mpr ⟨?_, hoffset⟩
      show c.rest ++ more = _ ++ (next.rest ++ more)
      rw [hrest, List.append_assoc]
  | error e =>
      -- more bytes may complete the padding
      obtain rfl := eq_misaligned_of_skipPadding h
      exact fun left hleft => nomatch hleft

theorem follows_record (c : Cursor) :
    Follows more (Prod.map id (extend more)) c.record (c.extend more).record := by
  rw [record_eq, record_eq]
  refine follows_bind (follows_take c _) fun found => ?_
  dsimp only [Prod.map, id]
  split
  · exact follows_error rfl
  refine follows_bind (follows_field found.2 .username) fun username => ?_
  refine follows_bind (follows_field username.2 .salt) fun salt => ?_
  refine follows_bind (follows_field salt.2 .hash) fun hash => ?_
  refine follows_bind (follows_field hash.2 .content) fun content => ?_
  exact follows_bind (follows_skipPadding content.2 _) fun next => rfl

/-- What is read in front of an error is read again, and so the error is met again. -/
theorem records_error_after {c : Cursor} {e left : LayoutError} (h : c.records = .error e)
    (hleft : e.after? more.length = some left) : (c.extend more).records = .error left := by
  fun_induction records c with
  | case1 c hnil => cases h
  | case2 c hne e' he =>
      obtain rfl := Except.error.inj h
      have hfollows : Follows more _ c.record (c.extend more).record := follows_record c
      rw [he] at hfollows
      refine records_of_record_error (fun hnil => hne ?_) (hfollows left hleft)
      exact (List.append_eq_nil_iff.mp hnil).1
  | case3 c hne r next hr e' he ih =>
      obtain rfl := Except.error.inj h
      have hfollows : Follows more _ c.record (c.extend more).record := follows_record c
      rw [hr] at hfollows
      rw [records_of_record_ok hfollows]
      show Except.map _ (next.extend more).records = _
      rw [ih he]
      rfl
  | case4 c hne r next hr rs hrs ih => cases h

end Longer

end Cursor

/-- The error of a file is about bytes of the file. -/
theorem parse_error_within {bytes : Bytes} {e : LayoutError} (h : parse bytes = .error e) :
    e.Within bytes.length :=
  Cursor.records_error_within (c := ⟨0, bytes⟩) (Nat.zero_add _) (Nat.dvd_zero _) h

/-- The error of a file, as far as more bytes cannot mend it, is the error of any longer file. -/
theorem parse_error_after {bytes : Bytes} {e left : LayoutError} (h : parse bytes = .error e)
    {more : Bytes} (hleft : e.after? more.length = some left) :
    parse (bytes ++ more) = .error left :=
  Cursor.records_error_after h hleft

end Conformance.Directory
