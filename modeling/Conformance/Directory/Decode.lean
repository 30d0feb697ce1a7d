import Conformance.Directory.Record

/-!
# Reading a directory file

The reader moves a cursor over the file and stops at the first byte that does not follow the layout.
Each way to stop is a `LayoutError` with the offset where it was seen. Usernames, salts and hashes
may not be empty, a content may.
-/

namespace Conformance.Directory

/-- The fields that a length field announces. -/
inductive SizedField where
  | username
  | salt
  | hash
  | content
deriving DecidableEq, Repr

/-- The word for a field in messages. -/
def SizedField.word : SizedField → String
  | username => "username"
  | salt => "salt"
  | hash => "hash"
  | content => "content"

/-- The least length that a field may announce. -/
def SizedField.least : SizedField → Nat
  | username | salt | hash => 1
  | content => 0

/-- Where and how a file stops following the layout. -/
inductive LayoutError where
  | badMarker (offset : Nat)
  | truncated (offset needed : Nat)
  | fieldTooShort (field : SizedField) (offset : Nat)
  | misaligned (offset : Nat)
deriving DecidableEq, Repr

/-- The message of the error. -/
def LayoutError.message : LayoutError → String
  | badMarker offset => "bad record marker at offset " ++ Text.decimal offset
  | truncated offset needed =>
    "truncated record at offset " ++ Text.decimal offset ++ ": need " ++ Text.decimal needed ++
      " more byte(s)"
  | fieldTooShort field offset =>
    "field " ++ field.word ++ " at offset " ++ Text.decimal offset ++ " is shorter than allowed"
  | misaligned offset =>
    "record ending at offset " ++ Text.decimal offset ++ " is not padded to 8 bytes"

/-- A place in a file: how many bytes have been read, and those still to come. -/
structure Cursor where
  offset : Nat
  rest : Bytes
deriving DecidableEq, Repr

namespace Cursor

/-- The next `n` bytes. -/
def take (n : Nat) (here : Cursor) : Except LayoutError (Bytes × Cursor) :=
  let available := here.rest.length
  if n ≤ available then .ok (here.rest.take n, ⟨here.offset + n, here.rest.drop n⟩)
  else .error (.truncated here.offset (n - available))

/-- The next field: its length, then as many bytes. -/
def field (which : SizedField) (here : Cursor) : Except LayoutError (Bytes × Cursor) := do
  let (announced, body) ← here.take lengthWidth
  let length := Bytes.ofLittleEndian announced
  if length < which.least then .error (.fieldTooShort which here.offset)
  else body.take length

/-- Step over the zeros that pad a record of which `written` bytes have been read. -/
def skipPadding (written : Nat) (here : Cursor) : Except LayoutError Cursor :=
  let padding := roundUp written - written
  if padding ≤ here.rest.length ∧ (here.rest.take padding).all (· = 0) then
    .ok ⟨here.offset + padding, here.rest.drop padding⟩
  else .error (.misaligned here.offset)

/-- The next record. -/
def record (start : Cursor) : Except LayoutError (Record × Cursor) := do
  let (found, c) ← start.take marker.length
  if found ≠ marker then .error (.badMarker start.offset)
  let (username, c) ← c.field .username
  let (salt, c) ← c.field .salt
  let (hash, c) ← c.field .hash
  let (content, c) ← c.field .content
  let c ← c.skipPadding (c.offset - start.offset)
  .ok (⟨username, salt, hash, content⟩, c)

theorem length_rest_take {n : Nat} {c c' : Cursor} {bytes : Bytes}
    (h : c.take n = .ok (bytes, c')) : c'.rest.length + n = c.rest.length := by
  unfold take at h
  dsimp only at h
  split at h
  · next hn =>
    simp only [Except.ok.injEq, Prod.mk.injEq] at h
    obtain ⟨_, rfl⟩ := h
    simp only [List.length_drop]
    omega
  · simp at h

theorem length_rest_field {which : SizedField} {c c' : Cursor} {bytes : Bytes}
    (h : c.field which = .ok (bytes, c')) : c'.rest.length ≤ c.rest.length := by
  unfold field at h
  cases h₁ : c.take lengthWidth with
  | error e => simp [h₁, bind, Except.bind] at h
  | ok p =>
      obtain ⟨announced, body⟩ := p
      simp only [h₁, bind, Except.bind] at h
      split at h
      · simp at h
      · have := length_rest_take h₁
        have := length_rest_take h
        omega

theorem length_rest_skipPadding {written : Nat} {c c' : Cursor}
    (h : c.skipPadding written = .ok c') : c'.rest.length ≤ c.rest.length := by
  unfold skipPadding at h
  dsimp only at h
  split at h
  · simp only [Except.ok.injEq] at h
    subst h
    simp only [List.length_drop]
    omega
  · simp at h

/-- A record takes bytes away, so reading record after record ends. -/
theorem length_rest_record {c c' : Cursor} {r : Record} (h : c.record = .ok (r, c')) :
    c'.rest.length < c.rest.length := by
  unfold record at h
  simp only [bind, Except.bind] at h
  cases h₁ : c.take marker.length with
  | error e => simp [h₁] at h
  | ok p₁ =>
  obtain ⟨found, c₁⟩ := p₁
  simp only [h₁] at h
  split at h
  · simp at h
  cases h₂ : c₁.field .username with
  | error e => simp [h₂] at h
  | ok p₂ =>
  simp only [h₂] at h
  cases h₃ : p₂.2.field .salt with
  | error e => simp [h₃] at h
  | ok p₃ =>
  simp only [h₃] at h
  cases h₄ : p₃.2.field .hash with
  | error e => simp [h₄] at h
  | ok p₄ =>
  simp only [h₄] at h
  cases h₅ : p₄.2.field .content with
  | error e => simp [h₅] at h
  | ok p₅ =>
  simp only [h₅] at h
  cases h₆ : p₅.2.skipPadding (p₅.2.offset - c.offset) with
  | error e => simp [h₆] at h
  | ok c₆ =>
  simp only [h₆, Except.ok.injEq, Prod.mk.injEq] at h
  obtain ⟨_, rfl⟩ := h
  have l₁ := length_rest_take h₁
  have l₂ := length_rest_field h₂
  have l₃ := length_rest_field h₃
  have l₄ := length_rest_field h₄
  have l₅ := length_rest_field h₅
  have l₆ := length_rest_skipPadding h₆
  have hm : marker.length = 8 := rfl
  omega

/-- The records from here to the end of the file. -/
def records (start : Cursor) : Except LayoutError (List Record) :=
  if start.rest = [] then .ok []
  else
    match _h : start.record with
    | .error e => .error e
    | .ok (r, next) =>
      match records next with
      | .error e => .error e
      | .ok rs => .ok (r :: rs)
termination_by start.rest.length
decreasing_by exact length_rest_record ‹_›

end Cursor

/-- The records of a directory file, or the first place where it does not follow the layout. -/
def parse (bytes : Bytes) : Except LayoutError (List Record) := Cursor.records ⟨0, bytes⟩

end Conformance.Directory
