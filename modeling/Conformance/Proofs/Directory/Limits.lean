import Conformance.Proofs.Directory.Sizes

/-!
# Where predictions leave their words

A size is predicted by additions of which each may leave 64 bits: nine for the parts of a record, one
for its padding, one for every user. None of them decides anything on its own. Every sum on the way is
at most the result, so a prediction exists in words just if the exact one is a word
(`recordSize?_eq_some_iff`, `size?_eq_some_iff`). What is left is to say where that is: a record may have
`2 ^ 64 - 8` bytes, so the seven numbers above that are words whose padding is not.
-/

namespace Conformance.Directory

/-- Rounding up gives the least multiple of eight that is not below a number. -/
theorem isLeast_roundUp (n : Nat) : IsLeast {m | 8 ∣ m ∧ n ≤ m} (roundUp n) := by
  refine ⟨⟨?_, le_roundUp n⟩, fun m ⟨hmultiple, hle⟩ => ?_⟩
  · rw [roundUp_eq]
    exact Nat.dvd_mul_left 8 _
  · obtain ⟨k, rfl⟩ := hmultiple
    rw [roundUp_eq]
    omega

/-- The largest word that is a multiple of eight bounds what can be rounded up. -/
theorem roundUp_lt_iff {n : Nat} : roundUp n < UInt64.size ↔ n ≤ 2 ^ 64 - 8 := by
  have hword : UInt64.size = 2 ^ 64 := rfl
  rw [roundUp_eq, hword]
  omega

theorem recordSize_lt_iff {usernameLength contentLength : Nat} :
    recordSize usernameLength contentLength < UInt64.size ↔
      88 + usernameLength + contentLength ≤ 2 ^ 64 - 8 := by
  rw [recordSize_eq, roundUp_lt_iff]
  rfl

/-- A number that is told just if it is small is not told just if it is not. -/
theorem eq_none_iff_of_eq_some_iff {told : Option Nat} {small : Prop} {n : Nat}
    (h : ∀ m, told = some m ↔ small ∧ m = n) : told = none ↔ ¬ small := by
  rw [Option.eq_none_iff_forall_ne_some]
  exact ⟨fun hnone hsmall => hnone n ((h n).mpr ⟨hsmall, rfl⟩),
    fun hlarge m hsome => hlarge ((h m).mp hsome).1⟩

theorem recordSize?_eq_none_iff {usernameLength contentLength : Nat} :
    recordSize? usernameLength contentLength = none ↔
      2 ^ 64 - 8 < 88 + usernameLength + contentLength := by
  rw [← Nat.not_le, ← recordSize_lt_iff]
  exact eq_none_iff_of_eq_some_iff fun _ => recordSize?_eq_some_iff

/-! ## Files -/

theorem size_eq_sum (users : List Footprint) : size users = (users.map Footprint.recordSize).sum :=
  rfl

/-- No record is larger than the file. -/
theorem recordSize_le_size {users : List Footprint} {user : Footprint} (h : user ∈ users) :
    user.recordSize ≤ size users :=
  List.le_sum_of_mem (List.mem_map_of_mem h)

theorem size?_eq_none_iff {users : List Footprint} :
    size? users = none ↔ UInt64.size ≤ size users := by
  rw [← Nat.not_lt]
  exact eq_none_iff_of_eq_some_iff fun _ => size?_eq_some_iff

/-- The order of the users does not matter, not even for whether the prediction is a word. -/
theorem size?_perm {users users' : List Footprint} (h : users.Perm users') :
    size? users = size? users' := by
  refine Option.ext fun total => ?_
  rw [size?_eq_some_iff, size?_eq_some_iff, size_eq_sum, size_eq_sum,
    (h.map Footprint.recordSize).sum_eq]

/-- **WHERE PREDICTIONS LEAVE THEIR WORDS.** The parts of a record are added and rounded up within 64
    bits unless the 88 fixed bytes, username and content pass `2 ^ 64 - 8`; then the prediction is the
    least multiple of eight that is not below their sum. For a file it is the sum of the records, in
    whatever order the users stand, unless one of the records or that sum is no word. -/
theorem predictions_in_words :
    (∀ usernameLength contentLength : Nat,
      (recordSize? usernameLength contentLength = none ↔
        2 ^ 64 - 8 < 88 + usernameLength + contentLength) ∧
      ∀ padded, recordSize? usernameLength contentLength = some padded ↔
        88 + usernameLength + contentLength ≤ 2 ^ 64 - 8 ∧
        IsLeast {m | 8 ∣ m ∧ 88 + usernameLength + contentLength ≤ m} padded) ∧
    ∀ users : List Footprint,
      (size? users = none ↔
        (∃ user ∈ users, user.recordSize? = none) ∨
        2 ^ 64 - 1 < (users.map Footprint.recordSize).sum) ∧
      (∀ total, size? users = some total ↔
        (∀ user ∈ users, user.recordSize? = some user.recordSize) ∧
        (users.map Footprint.recordSize).sum ≤ 2 ^ 64 - 1 ∧
        total = (users.map Footprint.recordSize).sum) ∧
      ∀ reordered : List Footprint, reordered.Perm users → size? reordered = size? users := by
  have hword : UInt64.size = 2 ^ 64 := rfl
  refine ⟨fun usernameLength contentLength => ⟨recordSize?_eq_none_iff, fun padded => ?_⟩,
    fun users => ⟨?_, fun total => ?_, fun _ => size?_perm⟩⟩
  · rw [recordSize?_eq_some_iff, recordSize_lt_iff, recordSize_eq]
    have hleast := isLeast_roundUp (fixedOverhead + usernameLength + contentLength)
    exact and_congr_right fun _ => ⟨fun h => h ▸ hleast, fun h => h.unique hleast⟩
  · rw [size?_eq_none_iff, size_eq_sum]
    constructor
    · exact fun h => Or.inr (by omega)
    · rintro (⟨user, huser, hnone⟩ | h)
      · have hlarge := mt recordSize_lt_iff.mp (Nat.not_le.mpr (recordSize?_eq_none_iff.mp hnone))
        exact (Nat.le_of_not_lt hlarge).trans (recordSize_le_size huser)
      · omega
  · rw [size?_eq_some_iff, size_eq_sum]
    constructor
    · rintro ⟨hfits, rfl⟩
      refine ⟨fun user huser => recordSize?_eq_some_iff.mpr ⟨?_, rfl⟩, by omega, rfl⟩
      exact (recordSize_le_size huser).trans_lt hfits
    · rintro ⟨-, hfits, rfl⟩
      exact ⟨by omega, rfl⟩

/-- A user whose record has the largest size that a word can tell, and one with a usual record. -/
def brink : List Footprint := [⟨"a", UInt64.ofNat (2 ^ 64 - 97)⟩, ⟨"b", 0⟩]

/-- With one byte more the first record would still be a word until it is padded. Each of the two is a
    word, but the file is none, whoever comes first. -/
theorem predictions_in_words_brink :
    recordSize? 1 (2 ^ 64 - 97) = some (2 ^ 64 - 8) ∧
    recordSize? 1 (2 ^ 64 - 96) = none ∧ wordSum? [88, 1, 2 ^ 64 - 96] = some (2 ^ 64 - 7) ∧
    (∀ user ∈ brink, user.recordSize? ≠ none) ∧ brink.reverse.Perm brink ∧
    size? brink = none ∧ size? brink.reverse = none := by
  have hlargest : recordSize? 1 (2 ^ 64 - 97) = some (2 ^ 64 - 8) := by
    refine ((predictions_in_words.1 1 (2 ^ 64 - 97)).2 (2 ^ 64 - 8)).mpr ⟨by decide, ?_⟩
    exact ⟨⟨by decide, by decide⟩, fun m hm => hm.2⟩
  have hpadding : recordSize? 1 (2 ^ 64 - 96) = none :=
    (predictions_in_words.1 1 (2 ^ 64 - 96)).1.mpr (by decide)
  have hfile : size? brink = none :=
    (predictions_in_words.2 brink).1.mpr (Or.inr (by decide))
  have hreversed := List.reverse_perm brink
  exact ⟨hlargest, hpadding, rfl, by decide, hreversed, hfile,
    ((predictions_in_words.2 brink).2.2 _ hreversed).trans hfile⟩

end Conformance.Directory
