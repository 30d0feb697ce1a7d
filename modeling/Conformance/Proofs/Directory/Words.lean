import Conformance.Proofs.Directory.Errors

/-!
# Reading in machine words

The reader of directory files counts in natural numbers and takes what it needs from the rest of the
file. On a machine places and lengths are 64-bit words, a difference must not be negative, a sum must
not pass the largest word, a slice must lie in the file, and a length is copied into an array of eight
bytes. Here the reader stands in that form, with every such step checked; a length field may announce
anything up to the largest word. For files of less than `2 ^ 63` bytes no check fails, and what is read
is the same (`run_parse`).
-/

namespace Conformance.Directory

namespace Words

/-! ## Checked steps -/

/-- A computation in words that may find the file wrong. It has no result at all if a number leaves its
    range or a slice leaves the file. -/
abbrev Checked := ExceptT LayoutError Option

/-- No result. -/
def fault {α : Type} : Checked α := ExceptT.mk none

/-- The sum of two words. -/
def add (a b : Nat) : Checked Nat :=
  match wordAdd? a b with
  | some sum => pure sum
  | none => fault

/-- The difference of two words. -/
def sub (a b : Nat) : Checked Nat := if b ≤ a then pure (a - b) else fault

/-- The bytes from one place to another. -/
def slice (bytes : Bytes) (first stop : Nat) : Checked Bytes :=
  if first ≤ stop ∧ stop ≤ bytes.length then pure ((bytes.drop first).take (stop - first))
  else fault

/-- The bytes as an array of a fixed width. -/
def array (width : Nat) (bytes : Bytes) : Checked Bytes :=
  if bytes.length = width then pure bytes else fault

/-- The least multiple of the alignment that is not below a word. -/
def pad (n : Nat) : Checked Nat :=
  if n % alignment = 0 then pure n
  else do
    let missing ← sub alignment (n % alignment)
    add n missing

/-! ## The reader -/

/-- The next `n` bytes and the place behind them. -/
def take (bytes : Bytes) (place n : Nat) : Checked (Bytes × Nat) := do
  let available ← sub bytes.length place
  if available < n then
    let needed ← sub n available
    throw (.truncated place needed)
  else
    let next ← add place n
    let found ← slice bytes place next
    return (found, next)

/-- The next field and the place behind it. -/
def field (bytes : Bytes) (which : SizedField) (place : Nat) : Checked (Bytes × Nat) := do
  let (found, body) ← take bytes place lengthWidth
  let announced ← array lengthWidth found
  let length := Bytes.ofLittleEndian announced
  if length < which.least then throw (.fieldTooShort which place)
  else take bytes body length

/-- The place behind the padding of a record. A padding that the file has no room for is an error of
    the file. -/
def skipPadding (bytes : Bytes) (start place : Nat) : Checked Nat := do
  let written ← sub place start
  let padded ← pad written
  let next ← add start padded
  if place ≤ next ∧ next ≤ bytes.length then
    let padding ← slice bytes place next
    if padding.all (· = 0) then return next else throw (.misaligned place)
  else throw (.misaligned place)

/-- The next record and the place behind it. -/
def record (bytes : Bytes) (start : Nat) : Checked (Record × Nat) := do
  let (found, place) ← take bytes start marker.length
  if found ≠ marker then throw (.badMarker start)
  else
    let (username, place) ← field bytes .username place
    let (salt, place) ← field bytes .salt place
    let (hash, place) ← field bytes .hash place
    let (content, place) ← field bytes .content place
    let next ← skipPadding bytes start place
    return (⟨username, salt, hash, content⟩, next)

/-! ## The reader moves on -/

variable {α β : Type} {bytes : Bytes}

theorem run_bind_eq_ok_iff {x : Checked α} {f : α → Checked β} {b : β} :
    (x >>= f).run = some (.ok b) ↔ ∃ a, x.run = some (.ok a) ∧ (f a).run = some (.ok b) := by
  rw [ExceptT.run_bind]
  cases x.run with
  | none => exact iff_of_false nofun (fun ⟨_, h, _⟩ => nomatch h)
  | some y =>
      cases y with
      | error e => exact iff_of_false nofun (fun ⟨_, h, _⟩ => nomatch h)
      | ok a => exact ⟨fun h => ⟨a, rfl, h⟩, fun ⟨_, ha, h⟩ => by cases ha; exact h⟩

theorem eq_of_run_add {a b sum : Nat} (h : (add a b).run = some (.ok sum)) : sum = a + b := by
  unfold add wordAdd? at h
  split at h
  · next hsum =>
    split at hsum
    · cases hsum
      cases h
      rfl
    · exact nomatch hsum
  · exact nomatch h

theorem eq_of_run_take {place n next : Nat} {found : Bytes}
    (h : (take bytes place n).run = some (.ok (found, next))) : next = place + n := by
  obtain ⟨available, -, h⟩ := run_bind_eq_ok_iff.mp h
  split at h
  · obtain ⟨needed, -, h⟩ := run_bind_eq_ok_iff.mp h
    exact nomatch h
  · obtain ⟨stop, hstop, h⟩ := run_bind_eq_ok_iff.mp h
    obtain ⟨slice, -, h⟩ := run_bind_eq_ok_iff.mp h
    cases h
    exact eq_of_run_add hstop

theorem le_of_run_field {which : SizedField} {place next : Nat} {found : Bytes}
    (h : (field bytes which place).run = some (.ok (found, next))) : place ≤ next := by
  obtain ⟨⟨announced, body⟩, hlength, h⟩ := run_bind_eq_ok_iff.mp h
  obtain ⟨width, -, h⟩ := run_bind_eq_ok_iff.mp h
  dsimp only at h
  split at h
  · exact nomatch h
  · have e₁ := eq_of_run_take hlength
    have e₂ := eq_of_run_take h
    omega

theorem le_of_run_skipPadding {start place next : Nat}
    (h : (skipPadding bytes start place).run = some (.ok next)) : place ≤ next := by
  obtain ⟨written, -, h⟩ := run_bind_eq_ok_iff.mp h
  obtain ⟨padded, -, h⟩ := run_bind_eq_ok_iff.mp h
  obtain ⟨stop, -, h⟩ := run_bind_eq_ok_iff.mp h
  split at h
  · next hroom =>
    obtain ⟨padding, -, h⟩ := run_bind_eq_ok_iff.mp h
    split at h
    · cases h
      exact hroom.1
    · exact nomatch h
  · exact nomatch h

/-- A record takes at least its marker, so reading record after record ends. -/
theorem lt_of_run_record {start next : Nat} {r : Record}
    (h : (record bytes start).run = some (.ok (r, next))) : start < next := by
  obtain ⟨⟨found, c₀⟩, h₀, h⟩ := run_bind_eq_ok_iff.mp h
  dsimp only at h
  split at h
  · exact nomatch h
  obtain ⟨⟨username, c₁⟩, h₁, h⟩ := run_bind_eq_ok_iff.mp h
  obtain ⟨⟨salt, c₂⟩, h₂, h⟩ := run_bind_eq_ok_iff.mp h
  obtain ⟨⟨hash, c₃⟩, h₃, h⟩ := run_bind_eq_ok_iff.mp h
  obtain ⟨⟨content, c₄⟩, h₄, h⟩ := run_bind_eq_ok_iff.mp h
  obtain ⟨stop, h₅, h⟩ := run_bind_eq_ok_iff.mp h
  cases h
  have l₀ := eq_of_run_take h₀
  have l₁ := le_of_run_field h₁
  have l₂ := le_of_run_field h₂
  have l₃ := le_of_run_field h₃
  have l₄ := le_of_run_field h₄
  have l₅ := le_of_run_skipPadding h₅
  have hmarker : marker.length = 8 := rfl
  omega

/-- The records from a place to the end of the file. -/
def records (bytes : Bytes) (start : Nat) : Checked (List Record) :=
  if start < bytes.length then
    match _h : (record bytes start).run with
    | none => fault
    | some (.error e) => throw e
    | some (.ok (r, next)) => do
      let rs ← records bytes next
      return r :: rs
  else return []
termination_by bytes.length - start
decreasing_by
  have := lt_of_run_record ‹_›
  omega

/-- The records of a directory file. -/
def parse (bytes : Bytes) : Checked (List Record) := records bytes 0

/-! ## No check fails -/

theorem add_eq {a b : Nat} (h : a + b < 2 ^ 64) : add a b = pure (a + b) := by
  rw [add, show wordAdd? a b = some (a + b) from if_pos h]

theorem sub_eq {a b : Nat} (h : b ≤ a) : sub a b = pure (a - b) := if_pos h

theorem slice_eq {first stop : Nat} (hfirst : first ≤ stop) (hstop : stop ≤ bytes.length) :
    slice bytes first stop = pure ((bytes.drop first).take (stop - first)) :=
  if_pos ⟨hfirst, hstop⟩

theorem array_eq {width : Nat} (h : bytes.length = width) : array width bytes = pure bytes :=
  if_pos h

theorem pad_eq {n : Nat} (h : n < 2 ^ 63) : pad n = pure (roundUp n) := by
  unfold pad roundUp
  split
  · rfl
  · have hmod : n % alignment < alignment := Nat.mod_lt n (by decide)
    rw [sub_eq (Nat.le_of_lt hmod), pure_bind]
    unfold alignment at *
    exact add_eq (by omega)

/-- Whether a cursor stands at a place of the file. -/
def Stands (bytes : Bytes) (c : Cursor) : Prop :=
  c.offset ≤ bytes.length ∧ c.rest = bytes.drop c.offset

/-- Whether a reading in words has the result of a reading with a cursor, which then stands at a place
    of the file. -/
def Agrees (bytes : Bytes) (x : Checked (α × Nat)) (y : Except LayoutError (α × Cursor)) : Prop :=
  x.run = some (y.map fun p => (p.1, p.2.offset)) ∧ ∀ a next, y = .ok (a, next) → Stands bytes next

theorem agrees_bind {x : Checked (α × Nat)} {y : Except LayoutError (α × Cursor)}
    {f : α × Nat → Checked (β × Nat)} {g : α × Cursor → Except LayoutError (β × Cursor)}
    (hxy : Agrees bytes x y)
    (hfg : ∀ a next, y = .ok (a, next) → Stands bytes next →
      Agrees bytes (f (a, next.offset)) (g (a, next))) :
    Agrees bytes (x >>= f) (y.bind g) := by
  obtain ⟨hrun, hstands⟩ := hxy
  cases y with
  | error e =>
      refine ⟨?_, fun a next h => nomatch h⟩
      rw [ExceptT.run_bind, hrun]
      rfl
  | ok p =>
      obtain ⟨hrun', hstands'⟩ := hfg p.1 p.2 rfl (hstands p.1 p.2 rfl)
      refine ⟨?_, hstands'⟩
      rw [ExceptT.run_bind, hrun]
      exact hrun'

theorem agrees_error (e : LayoutError) :
    Agrees bytes (throw e : Checked (α × Nat)) (.error e) :=
  ⟨rfl, fun _ _ h => nomatch h⟩

theorem Stands.length_rest {c : Cursor} (hc : Stands bytes c) :
    c.rest.length = bytes.length - c.offset := by
  rw [hc.2, List.length_drop]

theorem Stands.lt_length {c : Cursor} (hc : Stands bytes c) (hrest : c.rest ≠ []) :
    c.offset < bytes.length := by
  have hpos := List.length_pos_iff.mpr hrest
  rw [hc.length_rest] at hpos
  omega

theorem Stands.of_spells {c next : Cursor} {passed : Bytes} (hc : Stands bytes c)
    (h : c.Spells passed next) : Stands bytes next := by
  obtain ⟨hrest, hoffset⟩ := h
  have hlength := hc.length_rest
  rw [hrest, List.length_append] at hlength
  refine ⟨by have := hc.1; omega, ?_⟩
  rw [hoffset, ← List.drop_drop, ← hc.2, hrest, List.drop_left]

theorem agrees_take (hsize : bytes.length < 2 ^ 63) {c : Cursor} (hc : Stands bytes c) (n : Nat) :
    Agrees bytes (take bytes c.offset n) (c.take n) := by
  refine ⟨?_, fun found next h => hc.of_spells (Cursor.take_eq_ok_iff.mp h).2⟩
  have hplace := hc.1
  unfold take Cursor.take
  rw [sub_eq hplace, pure_bind, hc.length_rest]
  by_cases hn : bytes.length - c.offset < n
  · rw [if_pos hn, if_neg (Nat.not_le.mpr hn), sub_eq (Nat.le_of_lt hn)]
    rfl
  · rw [if_neg hn, if_pos (Nat.le_of_not_lt hn), add_eq (by omega), pure_bind,
      slice_eq (Nat.le_add_right _ n) (by omega), Nat.add_sub_cancel_left, ← hc.2]
    rfl

theorem agrees_field (hsize : bytes.length < 2 ^ 63) {c : Cursor} (hc : Stands bytes c)
    (which : SizedField) : Agrees bytes (field bytes which c.offset) (c.field which) := by
  refine agrees_bind (y := c.take lengthWidth) (agrees_take hsize hc lengthWidth)
    fun found body h hbody => ?_
  -- the eight bytes were taken, so they fill the array
  dsimp only
  rw [array_eq (Cursor.take_eq_ok_iff.mp h).1, pure_bind]
  split
  · exact agrees_error _
  · exact agrees_take hsize hbody _

/-- The padding of a record that starts in front of the cursor. -/
theorem run_skipPadding (hsize : bytes.length < 2 ^ 63) {c : Cursor} (hc : Stands bytes c)
    {start : Nat} (hstart : start ≤ c.offset) :
    (skipPadding bytes start c.offset).run =
      some ((c.skipPadding (c.offset - start)).map Cursor.offset) := by
  have hplace := hc.1
  have hlength := hc.length_rest
  have hle := le_roundUp (c.offset - start)
  have hlt : roundUp (c.offset - start) < c.offset - start + 8 := by
    rw [roundUp_eq]
    omega
  have hnext : start + roundUp (c.offset - start) =
      c.offset + (roundUp (c.offset - start) - (c.offset - start)) := by omega
  unfold skipPadding Cursor.skipPadding
  dsimp only
  rw [sub_eq hstart, pure_bind, pad_eq (by omega), pure_bind, add_eq (by omega), pure_bind, hnext,
    hlength]
  by_cases hroom : roundUp (c.offset - start) - (c.offset - start) ≤ bytes.length - c.offset
  · rw [if_pos ⟨Nat.le_add_right _ _, by omega⟩, slice_eq (Nat.le_add_right _ _) (by omega),
      pure_bind, Nat.add_sub_cancel_left, ← hc.2]
    by_cases hzeros : (c.rest.take (roundUp (c.offset - start) - (c.offset - start))).all (· = 0)
    · rw [if_pos hzeros, if_pos ⟨hroom, hzeros⟩]
      rfl
    · rw [if_neg hzeros, if_neg fun h => hzeros h.2]
      rfl
  · rw [if_neg fun h => hroom (by omega), if_neg fun h => hroom h.1]
    rfl

theorem offset_le_of_spells {c next : Cursor} {passed : Bytes} (h : c.Spells passed next) :
    c.offset ≤ next.offset := by
  rw [h.2]
  exact Nat.le_add_right _ _

theorem agrees_record (hsize : bytes.length < 2 ^ 63) {c : Cursor} (hc : Stands bytes c) :
    Agrees bytes (record bytes c.offset) c.record := by
  rw [Cursor.record_eq]
  refine agrees_bind (agrees_take hsize hc _) fun found c₀ h₀ s₀ => ?_
  dsimp only
  split
  · exact agrees_error _
  refine agrees_bind (agrees_field hsize s₀ .username) fun username c₁ h₁ s₁ => ?_
  refine agrees_bind (agrees_field hsize s₁ .salt) fun salt c₂ h₂ s₂ => ?_
  refine agrees_bind (agrees_field hsize s₂ .hash) fun hash c₃ h₃ s₃ => ?_
  refine agrees_bind (agrees_field hsize s₃ .content) fun content c₄ h₄ s₄ => ?_
  have hstart : c.offset ≤ c₄.offset :=
    calc c.offset ≤ c₀.offset := offset_le_of_spells (Cursor.take_eq_ok_iff.mp h₀).2
      _ ≤ c₁.offset := offset_le_of_spells (Cursor.field_eq_ok_iff.mp h₁).2.2
      _ ≤ c₂.offset := offset_le_of_spells (Cursor.field_eq_ok_iff.mp h₂).2.2
      _ ≤ c₃.offset := offset_le_of_spells (Cursor.field_eq_ok_iff.mp h₃).2.2
      _ ≤ c₄.offset := offset_le_of_spells (Cursor.field_eq_ok_iff.mp h₄).2.2
  dsimp only
  have hrun := run_skipPadding hsize s₄ hstart
  cases hpadding : c₄.skipPadding (c₄.offset - c.offset) with
  | error e =>
      rw [hpadding] at hrun
      refine ⟨?_, fun _ _ h => nomatch h⟩
      rw [ExceptT.run_bind, hrun]
      rfl
  | ok next =>
      rw [hpadding] at hrun
      refine ⟨?_, fun _ _ h => ?_⟩
      · rw [ExceptT.run_bind, hrun]
        rfl
      · cases h
        exact s₄.of_spells (Cursor.skipPadding_eq_ok_iff.mp hpadding)

/-! ## The whole file -/

theorem run_records_of_ok {start next : Nat} {r : Record} (hstart : start < bytes.length)
    (h : (record bytes start).run = some (.ok (r, next))) {rs : Except LayoutError (List Record)}
    (hrs : (records bytes next).run = some rs) :
    (records bytes start).run = some (rs.map (r :: ·)) := by
  rw [records, if_pos hstart]
  split
  · next hnone => exact nomatch hnone.symm.trans h
  · next e he => exact nomatch he.symm.trans h
  · next r' next' hr =>
    obtain ⟨rfl, rfl⟩ := Prod.mk.inj (Except.ok.inj (Option.some.inj (hr.symm.trans h)))
    rw [ExceptT.run_bind, hrs]
    cases rs with
    | error e => rfl
    | ok rs => rfl

theorem run_records_of_error {start : Nat} {e : LayoutError} (hstart : start < bytes.length)
    (h : (record bytes start).run = some (.error e)) :
    (records bytes start).run = some (.error e) := by
  rw [records, if_pos hstart]
  split
  · next hnone => exact nomatch hnone.symm.trans h
  · next e' he =>
    obtain rfl := Except.error.inj (Option.some.inj (he.symm.trans h))
    rfl
  · next r next hr => exact nomatch hr.symm.trans h

/-- Reading in words is reading with a cursor, from every place of the file. -/
theorem run_records (hsize : bytes.length < 2 ^ 63) {c : Cursor} (hc : Stands bytes c) :
    (records bytes c.offset).run = some c.records := by
  fun_induction Cursor.records c with
  | case1 c hnil =>
      have hend := hc.length_rest
      rw [hnil, List.length_nil] at hend
      rw [records, if_neg (by omega)]
      rfl
  | case2 c hne e he =>
      have hrecord := (agrees_record hsize hc).1
      rw [he] at hrecord
      exact run_records_of_error (hc.lt_length hne) hrecord
  | case3 c hne r next hr e he ih =>
      obtain ⟨hrecord, hstands⟩ := agrees_record hsize hc
      rw [hr] at hrecord
      have hnext := ih (hstands r next hr)
      rw [he] at hnext
      exact run_records_of_ok (hc.lt_length hne) hrecord hnext
  | case4 c hne r next hr rs hrs ih =>
      obtain ⟨hrecord, hstands⟩ := agrees_record hsize hc
      rw [hr] at hrecord
      have hnext := ih (hstands r next hr)
      rw [hrs] at hnext
      exact run_records_of_ok (hc.lt_length hne) hrecord hnext

/-- For files that fit into memory no step of the reader leaves its range. -/
theorem run_parse (hsize : bytes.length < 2 ^ 63) :
    (parse bytes).run = some (Directory.parse bytes) :=
  run_records hsize (c := ⟨0, bytes⟩) ⟨Nat.zero_le _, rfl⟩

end Words

/-- **HOSTILE FILES ARE SAFE TO READ, AND ERRORS ARE FINAL.** Whatever the length fields of a file of
    less than `2 ^ 63` bytes announce, reading it in 64-bit words leaves no range and has the result of
    reading it in natural numbers. Errors are about bytes that are there. A wrong marker and a field
    that is too short stay the error of every longer file, and a truncated file stays truncated at the
    same place until all the bytes that it lacks have come. -/
theorem hostile_files (bytes : Bytes) (hsize : bytes.length < 2 ^ 63) :
    (Words.parse bytes).run = some (parse bytes) ∧
    (∀ offset, parse bytes = .error (.badMarker offset) →
      8 ∣ offset ∧ offset + 8 ≤ bytes.length ∧
        ∀ more, parse (bytes ++ more) = .error (.badMarker offset)) ∧
    (∀ which offset, parse bytes = .error (.fieldTooShort which offset) →
      offset + 8 ≤ bytes.length ∧
        ∀ more, parse (bytes ++ more) = .error (.fieldTooShort which offset)) ∧
    (∀ offset, parse bytes = .error (.misaligned offset) → offset ≤ bytes.length) ∧
    (∀ offset needed, parse bytes = .error (.truncated offset needed) →
      offset ≤ bytes.length ∧ 1 ≤ needed ∧
        ∀ more : Bytes, more.length < needed →
          parse (bytes ++ more) = .error (.truncated offset (needed - more.length))) := by
  refine ⟨Words.run_parse hsize, fun offset h => ?_, fun which offset h => ?_, fun offset h => ?_,
    fun offset needed h => ?_⟩
  · obtain ⟨haligned, hin⟩ := parse_error_within h
    exact ⟨haligned, hin, fun more => parse_error_after h rfl⟩
  · exact ⟨parse_error_within h, fun more => parse_error_after h rfl⟩
  · exact parse_error_within h
  · obtain ⟨hin, hneeded⟩ := parse_error_within h
    exact ⟨hin, hneeded, fun more hmore => parse_error_after h (if_pos hmore)⟩

/-- A file that announces the longest username that a length field can tell. -/
def boastful : Bytes := marker ++ List.replicate 8 255

/-- The longest username lacks all its bytes, and two bytes less once two have come. -/
theorem hostile_files_boastful :
    boastful.length < 2 ^ 63 ∧
    (Words.parse boastful).run = some (.error (.truncated 16 (2 ^ 64 - 1))) ∧
    parse (boastful ++ [0, 0]) = .error (.truncated 16 (2 ^ 64 - 3)) := by
  have hsize : boastful.length < 2 ^ 63 := by decide
  have hrecord : Cursor.record ⟨0, boastful⟩ = .error (.truncated 16 (2 ^ 64 - 1)) := by decide
  have hparse : parse boastful = .error (.truncated 16 (2 ^ 64 - 1)) :=
    Cursor.records_of_record_error (by decide) hrecord
  obtain ⟨hrun, -, -, -, htruncated⟩ := hostile_files boastful hsize
  exact ⟨hsize, hrun.trans (congrArg some hparse),
    (htruncated 16 _ hparse).2.2 [0, 0] (by decide)⟩

end Conformance.Directory
