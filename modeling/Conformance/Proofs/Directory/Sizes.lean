import Conformance.Proofs.Directory.Reading

/-!
# Predicted and written sizes

The size of a directory file is predicted from a table of the parts of a record; the encoder knows no
table and pads by what it has written. Both agree for every list of records with salts and hashes of
the usual widths (`length_encode_eq_size`), and the prediction stays correct in 64-bit words as long as
the file itself is shorter than a word can tell. The encoder pads relative to the start of a record, so
a record is written in the same way wherever it stands, and a change of one content moves nothing but
what stands behind it (`encode_sizes`).
-/

namespace Conformance.Directory

/-! ## The size of one record -/

namespace Record

/-- Whether salt and hash have the widths that size prediction assumes. -/
def Regular (record : Record) : Prop :=
  record.salt.length = saltWidth ∧ record.hash.length = hashWidth

instance (record : Record) : Decidable record.Regular :=
  inferInstanceAs (Decidable (record.salt.length = saltWidth ∧ record.hash.length = hashWidth))

end Record

/-- Whether a footprint tells the lengths of a record's username and content. -/
def Footprint.Describes (user : Footprint) (record : Record) : Prop :=
  Text.byteLength user.name = record.username.length ∧
    user.contentLength.toNat = record.content.length

instance (user : Footprint) (record : Record) : Decidable (user.Describes record) :=
  inferInstanceAs (Decidable (Text.byteLength user.name = record.username.length ∧
    user.contentLength.toNat = record.content.length))

/-- A name of a given length and a number: what prediction needs of a user. -/
def Record.footprint (record : Record) : Footprint :=
  ⟨String.ofList (List.replicate record.username.length 'a'), UInt64.ofNat record.content.length⟩

/-- Every record has a footprint, whatever bytes its username consists of. -/
theorem footprint_describes {r : Record} (h : r.Fits) : r.footprint.Describes r := by
  constructor
  · show (Text.encode _).length = _
    rw [Text.encode, Record.footprint, String.toList_ofList, List.length_flatMap,
      List.map_replicate, List.sum_replicate]
    exact Nat.mul_one _
  · exact UInt64.toNat_ofNat_of_lt (h .content)

theorem roundUp_eq (n : Nat) : roundUp n = (n + 7) / 8 * 8 := by
  unfold roundUp alignment
  split <;> omega

/-- The table of parts adds up to the fixed bytes, the username and the content. -/
theorem sum_widths (usernameLength contentLength : Nat) :
    (Part.all.map (Part.width usernameLength contentLength)).sum =
      fixedOverhead + usernameLength + contentLength := by
  have hmarker : marker.length = 8 := rfl
  simp only [Part.all, Part.width, List.map_cons, List.map_nil, List.sum_cons, List.sum_nil,
    fixedOverhead, hmarker, lengthWidth, saltWidth, hashWidth]
  omega

theorem recordSize_eq (usernameLength contentLength : Nat) :
    recordSize usernameLength contentLength =
      roundUp (fixedOverhead + usernameLength + contentLength) :=
  congrArg roundUp (sum_widths usernameLength contentLength)

/-- What the encoder writes for a record is as long as the table says. -/
theorem encodedLength_eq_recordSize {r : Record} (h : r.Regular) :
    r.encodedLength = recordSize r.username.length r.content.length := by
  rw [recordSize_eq, Record.encodedLength, Record.rawLength, h.1, h.2, fixedOverhead]
  congr 1
  omega

theorem recordSize_of_describes {user : Footprint} {r : Record} (h : user.Describes r)
    (hr : r.Regular) : user.recordSize = r.encodedLength := by
  rw [encodedLength_eq_recordSize hr, Footprint.recordSize, h.1, h.2]

/-! ## The size of a file -/

/-- **THE PREDICTION IS WHAT THE ENCODER WRITES**, for users that have the lengths of the records. -/
theorem length_encode_eq_size {rs : List Record} (hrs : ∀ r ∈ rs, r.Regular)
    {users : List Footprint} (h : List.Forall₂ Footprint.Describes users rs) :
    (encode rs).length = size users := by
  rw [length_encode]
  show _ = (users.map Footprint.recordSize).sum
  induction h with
  | nil => rfl
  | cons huser _ ih =>
      obtain ⟨hr, hrest⟩ := List.forall_mem_cons.mp hrs
      rw [List.map_cons, List.map_cons, List.sum_cons, List.sum_cons, ih hrest,
        recordSize_of_describes huser hr]

/-! ## Predictions in words -/

theorem wordAdd?_eq_some_iff {a b sum : Nat} :
    wordAdd? a b = some sum ↔ a + b < UInt64.size ∧ sum = a + b := by
  rw [wordAdd?, Option.ite_none_right_eq_some, Option.some_inj, eq_comm (a := sum)]

/-- Numbers are added one after another in words just as long as the total is a word: no sum on the
    way is larger. -/
theorem foldlM_wordAdd?_eq_some_iff {α : Type} (word? : α → Option Nat) (number : α → Nat)
    (xs : List α) (hnumber : ∀ x n, word? x = some n → n = number x)
    (hword : ∀ x, number x < UInt64.size → word? x = some (number x)) {total sum : Nat}
    (htotal : total < UInt64.size) :
    xs.foldlM (fun total x => (word? x).bind (wordAdd? total)) total = some sum ↔
      total + (xs.map number).sum < UInt64.size ∧ sum = total + (xs.map number).sum := by
  induction xs generalizing total with
  | nil =>
      show some total = some sum ↔ total + 0 < _ ∧ sum = total + 0
      rw [Option.some_inj, eq_comm]
      exact (and_iff_right htotal).symm
  | cons x xs ih =>
      rw [List.foldlM_cons, List.map_cons, List.sum_cons, ← Nat.add_assoc]
      show ((word? x).bind (wordAdd? total)).bind _ = _ ↔ _
      rw [Option.bind_eq_some_iff]
      constructor
      · rintro ⟨next, hnext, hrest⟩
        obtain ⟨n, hn, hadd⟩ := Option.bind_eq_some_iff.mp hnext
        obtain rfl := hnumber x n hn
        obtain ⟨hfits, rfl⟩ := wordAdd?_eq_some_iff.mp hadd
        exact (ih hfits).mp hrest
      · intro hsum
        have hfits : total + number x < UInt64.size := by omega
        refine ⟨total + number x, ?_, (ih hfits).mpr hsum⟩
        rw [hword x (by omega)]
        exact wordAdd?_eq_some_iff.mpr ⟨hfits, rfl⟩

theorem wordSum?_eq_some_iff {ns : List Nat} {sum : Nat} :
    wordSum? ns = some sum ↔ ns.sum < UInt64.size ∧ sum = ns.sum := by
  have h := @foldlM_wordAdd?_eq_some_iff _ some id ns (fun _ _ h => (Option.some.inj h).symm)
    (fun _ _ => rfl) 0 sum (by decide)
  rw [List.map_id, Nat.zero_add] at h
  exact h

theorem wordRoundUp?_eq_some_iff {n rounded : Nat} (hn : n < UInt64.size) :
    wordRoundUp? n = some rounded ↔ roundUp n < UInt64.size ∧ rounded = roundUp n := by
  unfold wordRoundUp? roundUp
  split
  · rw [Option.some_inj, eq_comm]
    exact (and_iff_right hn).symm
  · exact wordAdd?_eq_some_iff

/-- The prediction for a record exists in words just if it is a word. -/
theorem recordSize?_eq_some_iff {usernameLength contentLength size : Nat} :
    recordSize? usernameLength contentLength = some size ↔
      recordSize usernameLength contentLength < UInt64.size ∧
        size = recordSize usernameLength contentLength := by
  rw [recordSize?, Option.bind_eq_some_iff]
  constructor
  · rintro ⟨raw, hraw, hsize⟩
    obtain ⟨hfits, rfl⟩ := wordSum?_eq_some_iff.mp hraw
    exact (wordRoundUp?_eq_some_iff hfits).mp hsize
  · intro hsize
    have hfits := Nat.lt_of_le_of_lt
      (le_roundUp (Part.all.map (Part.width usernameLength contentLength)).sum) hsize.1
    exact ⟨_, wordSum?_eq_some_iff.mpr ⟨hfits, rfl⟩, (wordRoundUp?_eq_some_iff hfits).mpr hsize⟩

/-- The prediction for a file exists in words just if it is a word. -/
theorem size?_eq_some_iff {users : List Footprint} {total : Nat} :
    size? users = some total ↔ size users < UInt64.size ∧ total = size users := by
  have h := @foldlM_wordAdd?_eq_some_iff _ Footprint.recordSize? Footprint.recordSize users
    (fun _ _ h => (recordSize?_eq_some_iff.mp h).2)
    (fun _ h => recordSize?_eq_some_iff.mpr ⟨h, rfl⟩) 0 total (by decide)
  rw [Nat.zero_add] at h
  exact h

/-- The prediction in words is the prediction as long as it is a word. -/
theorem size?_eq {users : List Footprint} (h : size users < UInt64.size) :
    size? users = some (size users) :=
  size?_eq_some_iff.mpr ⟨h, rfl⟩

/-! ## One record among others -/

/-- What is appended for a record is what is written for it alone. -/
theorem appendTo_eq_append (out : Bytes) (r : Record) : r.appendTo out = out ++ r.appendTo [] := by
  rw [appendTo_eq, appendTo_eq [], List.nil_append]

/-- A file around one of its records. -/
theorem encode_around (before : List Record) (r : Record) (after : List Record) :
    encode (before ++ r :: after) = encode before ++ r.appendTo [] ++ encode after := by
  rw [encode_append, encode_cons, appendTo_eq, List.nil_append, List.append_assoc]

theorem length_encode_around (before : List Record) (r : Record) (after : List Record) :
    (encode (before ++ r :: after)).length =
      (encode before).length + r.encodedLength + (encode after).length := by
  rw [encode_append, encode_cons, List.length_append, List.length_append, length_encoded,
    Nat.add_assoc]

/-- **SIZES AND PLACES.** A file is as long as its records together. With salts and hashes of the usual
    widths that is the predicted size: 88 bytes, the username and the content for each user, rounded up
    to a multiple of eight; in words, too, as long as it is a word. A record is written in the same way
    behind anything. So a new content for one record leaves the bytes of the others as they are, and
    moves the end by as much as the size of its record changes. -/
theorem encode_sizes (rs : List Record) :
    (encode rs).length = (rs.map Record.encodedLength).sum ∧
    ((∀ r ∈ rs, r.Regular) →
      (encode rs).length =
        (rs.map fun r => (88 + r.username.length + r.content.length + 7) / 8 * 8).sum ∧
      ∀ users, List.Forall₂ Footprint.Describes users rs →
        (encode rs).length = size users ∧
        ((encode rs).length < 2 ^ 64 → size? users = some (encode rs).length)) ∧
    ((∀ r ∈ rs, r.Fits) → ∃ users, List.Forall₂ Footprint.Describes users rs) ∧
    (∀ (r : Record) (out : Bytes), r.appendTo out = out ++ r.appendTo []) ∧
    (∀ (before : List Record) (r : Record) (after : List Record) (content : Bytes),
      rs = before ++ r :: after →
        let changed : Record := { r with content := content }
        encode rs = encode before ++ r.appendTo [] ++ encode after ∧
        encode (before ++ changed :: after) =
          encode before ++ changed.appendTo [] ++ encode after ∧
        ((encode (before ++ changed :: after)).length : Int) - (encode rs).length =
          changed.encodedLength - r.encodedLength ∧
        (r.Regular →
          ((encode (before ++ changed :: after)).length : Int) - (encode rs).length =
            recordSize r.username.length content.length -
              recordSize r.username.length r.content.length)) := by
  refine ⟨length_encode rs, fun hrs => ⟨?_, fun users husers => ?_⟩, fun hfits => ?_,
    fun r out => appendTo_eq_append out r, ?_⟩
  · rw [length_encode]
    refine congrArg List.sum (List.map_congr_left fun r hr => ?_)
    rw [encodedLength_eq_recordSize (hrs r hr), recordSize_eq, roundUp_eq]
    rfl
  · have hsize := length_encode_eq_size hrs husers
    refine ⟨hsize, fun hword => ?_⟩
    rw [hsize] at hword ⊢
    exact size?_eq hword
  · refine ⟨rs.map Record.footprint, List.forall₂_map_left_iff.mpr ?_⟩
    exact List.forall₂_same.mpr fun r hr => footprint_describes (hfits r hr)
  · rintro before r after content rfl changed
    have hmoved : ((encode (before ++ changed :: after)).length : Int) -
        (encode (before ++ r :: after)).length = changed.encodedLength - r.encodedLength := by
      rw [length_encode_around, length_encode_around]
      omega
    refine ⟨encode_around before r after, encode_around before changed after, hmoved, fun hr => ?_⟩
    rw [hmoved, encodedLength_eq_recordSize hr, encodedLength_eq_recordSize (r := changed) hr]

/-- A username that is no text with a content that looks like a record, and a user without content. -/
def regularPair : List Record :=
  [⟨[255, 10], List.replicate 16 90, List.replicate 32 165, marker⟩,
    ⟨Text.encode "alice", List.replicate 16 90, List.replicate 32 165, []⟩]

/-- Users with the lengths of the two records. -/
def regularUsers : List Footprint := [⟨"é", 8⟩, ⟨"alice", 0⟩]

theorem encode_sizes_regularPair :
    (∀ r ∈ regularPair, r.Regular) ∧
    List.Forall₂ Footprint.Describes regularUsers regularPair ∧
    (encode regularPair).length = 104 + 96 ∧ size regularUsers = 200 ∧
    size? regularUsers = some 200 ∧
    ∃ before r after, regularPair = before ++ r :: after ∧ r.Regular ∧
      ((encode (before ++ { r with content := marker ++ [0] } :: after)).length : Int) -
        (encode regularPair).length = recordSize 5 9 - recordSize 5 0 := by
  have hregular : ∀ r ∈ regularPair, r.Regular := by decide
  have husers : List.Forall₂ Footprint.Describes regularUsers regularPair := by
    refine .cons ?_ (.cons ?_ .nil) <;> decide
  have hsum := ((encode_sizes regularPair).2.1 hregular).1
  have hsize := ((encode_sizes regularPair).2.1 hregular).2 regularUsers husers
  have hlength : (encode regularPair).length = 104 + 96 := hsum
  refine ⟨hregular, husers, hlength, hsize.1.symm.trans hlength, ?_, ?_⟩
  · rw [hsize.2 (by rw [hlength]; decide), hlength]
  · refine ⟨[regularPair[0]], regularPair[1], [], rfl, by decide, ?_⟩
    exact ((encode_sizes regularPair).2.2.2.2 [regularPair[0]] regularPair[1] []
      (marker ++ [0]) rfl).2.2.2 (by decide)

end Conformance.Directory
