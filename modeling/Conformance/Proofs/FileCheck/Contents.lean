import Conformance.Proofs.FileSystem
import Conformance.Proofs.Session.Actions
import Conformance.Proofs.Text.Lossy
import Mathlib.Algebra.Group.Nat.Defs

/-!
# The bytes of files are compared exactly

Two checks look at bytes. One compares fetched content with the file that it was set from; it says where
the two part, which is at the end of the longest stretch with which both begin
(`LongestCommonPrefix`, `firstDifference_eq`). The other reads bytes at a position and shows them as
text.

Reading as text is forgiving, so the second check compares texts where it means bytes. That is no loss
as long as the expected text holds no replacement character: only its own bytes are read as it, wherever
the range was cut and however many bytes it holds (`peek_passed_iff`).
-/

namespace Conformance.FileCheck

/-! ## Where two byte strings part -/

/-- The longest stretch with which two byte strings begin. -/
structure LongestCommonPrefix (common a b : Bytes) : Prop where
  left : common <+: a
  right : common <+: b
  longest : ∀ other, other <+: a → other <+: b → other.length ≤ common.length

namespace LongestCommonPrefix

variable {common a b : Bytes} {x y : UInt8}

theorem symm (h : LongestCommonPrefix common a b) : LongestCommonPrefix common b a :=
  ⟨h.right, h.left, fun other hb ha => h.longest other ha hb⟩

theorem nil_left (b : Bytes) : LongestCommonPrefix [] [] b := by
  refine ⟨List.nil_prefix, List.nil_prefix, ?_⟩
  intro other hother _
  exact hother.length_le

theorem cons (h : LongestCommonPrefix common a b) (x : UInt8) :
    LongestCommonPrefix (x :: common) (x :: a) (x :: b) := by
  refine ⟨(List.prefix_cons_inj x).mpr h.left, (List.prefix_cons_inj x).mpr h.right, ?_⟩
  intro other ha hb
  cases other with
  | nil => exact Nat.zero_le _
  | cons z other =>
      obtain ⟨-, ha⟩ := List.cons_prefix_cons.mp ha
      obtain ⟨-, hb⟩ := List.cons_prefix_cons.mp hb
      exact Nat.succ_le_succ (h.longest other ha hb)

theorem of_ne (h : x ≠ y) (a b : Bytes) : LongestCommonPrefix [] (x :: a) (y :: b) := by
  refine ⟨List.nil_prefix, List.nil_prefix, ?_⟩
  intro other ha hb
  cases other with
  | nil => exact Nat.le_refl 0
  | cons z other =>
      obtain ⟨hx, -⟩ := List.cons_prefix_cons.mp ha
      obtain ⟨hy, -⟩ := List.cons_prefix_cons.mp hb
      exact absurd (hx.symm.trans hy) h

/-- A byte string with which the other one begins is the common stretch itself. -/
theorem length_of_prefix (h : LongestCommonPrefix common a b) (hab : a <+: b) :
    common.length = a.length :=
  Nat.le_antisymm h.left.length_le (h.longest a (List.prefix_refl a) hab)

/-- So it is the shorter length that is reported if one byte string begins with the other. -/
theorem length_eq_min (h : LongestCommonPrefix common a b) (hbegins : a <+: b ∨ b <+: a) :
    common.length = min a.length b.length := by
  rcases hbegins with hab | hba
  · rw [h.length_of_prefix hab, Nat.min_eq_left hab.length_le]
  · rw [h.symm.length_of_prefix hba, Nat.min_eq_right hba.length_le]

end LongestCommonPrefix

/-- A search that has come to a position ends behind the stretch that is still common. -/
theorem go_eq_some (here : Nat) {a b : Bytes} (h : a ≠ b) :
    ∃ common, LongestCommonPrefix common a b ∧
      firstDifference.go here a b = some (here + common.length) := by
  induction a generalizing b here with
  | nil =>
      refine ⟨[], .nil_left b, ?_⟩
      cases b with
      | nil => exact absurd rfl h
      | cons y b => rfl
  | cons x a ih =>
      cases b with
      | nil => exact ⟨[], (LongestCommonPrefix.nil_left _).symm, rfl⟩
      | cons y b =>
          rw [firstDifference.go]
          by_cases hxy : x = y
          · subst hxy
            have hne : a ≠ b := fun heq => h (congrArg (x :: ·) heq)
            obtain ⟨common, hcommon, hgo⟩ := ih (here + 1) hne
            refine ⟨x :: common, hcommon.cons x, ?_⟩
            rw [if_pos rfl, hgo, List.length_cons, Nat.add_assoc, Nat.add_comm 1]
          · rw [if_neg hxy]
            exact ⟨[], .of_ne hxy a b, rfl⟩

theorem go_self (here : Nat) (bytes : Bytes) : firstDifference.go here bytes bytes = none := by
  induction bytes generalizing here with
  | nil => rfl
  | cons x bytes ih => rw [firstDifference.go, if_pos rfl, ih]

/-- Equal byte strings are called identical. -/
theorem difference_self (bytes : Bytes) : difference bytes bytes = identical := by
  rw [difference, firstDifference, go_self]

/-- **Byte strings that differ do so behind their longest common stretch.** -/
theorem difference_of_ne {want got : Bytes} (h : want ≠ got) :
    ∃ common, LongestCommonPrefix common want got ∧
      difference want got =
        "Files do not match (first difference at byte " ++ Text.decimal common.length ++ "; " ++
          Text.decimal got.length ++ " vs " ++ Text.decimal want.length ++ " bytes)" := by
  obtain ⟨common, hcommon, hgo⟩ := go_eq_some 0 h
  refine ⟨common, hcommon, ?_⟩
  rw [difference, firstDifference, hgo, Nat.zero_add]

theorem difference_eq_identical_iff {want got : Bytes} :
    identical = difference want got ↔ want = got := by
  constructor
  · intro h
    by_contra hne
    obtain ⟨common, -, hdifference⟩ := difference_of_ne hne
    -- the two messages differ in their first letter
    have hhead := congrArg (fun text => text.toList.head?) (h.trans hdifference)
    simp [identical] at hhead
  · rintro rfl
    exact (difference_self want).symm

/-! ## Fetched content -/

section RoundTrip

variable {fs : FileSystem} {workDir source fetched : Path} {want got : Bytes} {e : OsError}

theorem roundTrip_read (hgot : fs.read (workDir.join fetched) = .ok got)
    (hwant : fs.read (workDir.join source) = .ok want) :
    (roundTrip fs workDir source fetched).1 =
      .compare ("Comparing " ++ source ++ " and " ++ fetched ++ ".") identical
        (difference want got) := by
  rw [roundTrip, hgot, hwant]

theorem roundTrip_unfetched (h : fs.read (workDir.join fetched) = .error e) :
    (roundTrip fs workDir source fetched).1 =
      cannotFind ("Comparing " ++ source ++ " and " ++ fetched ++ ".") fetched := by
  rw [roundTrip, h]

theorem roundTrip_unsourced (hgot : fs.read (workDir.join fetched) = .ok got)
    (hwant : fs.read (workDir.join source) = .error e) :
    (roundTrip fs workDir source fetched).1 =
      cannotFind ("Comparing " ++ source ++ " and " ++ fetched ++ ".") source := by
  rw [roundTrip, hgot, hwant]

/-- Content passes just if both files can be read and hold the same bytes. -/
theorem roundTrip_passed_iff :
    (roundTrip fs workDir source fetched).1.passed = true ↔
      ∃ content, fs.read (workDir.join fetched) = .ok content ∧
        fs.read (workDir.join source) = .ok content := by
  cases hgot : fs.read (workDir.join fetched) with
  | error e =>
      rw [roundTrip_unfetched hgot]
      refine iff_of_false Bool.false_ne_true ?_
      rintro ⟨content, hcontent, -⟩
      exact nomatch hcontent
  | ok got =>
      cases hwant : fs.read (workDir.join source) with
      | error e =>
          rw [roundTrip_unsourced hgot hwant]
          refine iff_of_false Bool.false_ne_true ?_
          rintro ⟨content, -, hcontent⟩
          exact nomatch hcontent
      | ok want =>
          rw [roundTrip_read hgot hwant, Outcome.passed_compare, difference_eq_identical_iff]
          constructor
          · rintro rfl
            exact ⟨want, rfl, rfl⟩
          · rintro ⟨content, hfetched, hsource⟩
            rw [Except.ok.inj hfetched, Except.ok.inj hsource]

end RoundTrip

/-- **FETCHED CONTENT IS COMPARED BYTE BY BYTE AND REMOVED.** The check passes just if both files can be
    read and are equal. Files that differ are reported with the length of the longest stretch with which
    both begin and with their sizes, and a file that cannot be read is a failure of the environment, the
    fetched one first. In all of these cases the fetched file is gone if it was one, and every path that
    leads elsewhere, that of the source among them, names what it named. -/
theorem fetched_compared (fs : FileSystem) (workDir source fetched : Path) :
    let result := roundTrip fs workDir source fetched
    (result.1.passed = true ↔ ∃ content, fs.read (workDir.join fetched) = .ok content ∧
      fs.read (workDir.join source) = .ok content) ∧
    (∀ want got, fs.read (workDir.join source) = .ok want →
      fs.read (workDir.join fetched) = .ok got → want ≠ got →
      ∃ common, LongestCommonPrefix common want got ∧
        (want <+: got ∨ got <+: want → common.length = min want.length got.length) ∧
        result.1.actual =
          "Files do not match (first difference at byte " ++ Text.decimal common.length ++ "; " ++
            Text.decimal got.length ++ " vs " ++ Text.decimal want.length ++ " bytes)") ∧
    (∀ e, fs.read (workDir.join fetched) = .error e →
      result.1.isInfrastructureFailure = true ∧ result.1.actual = "Cannot find " ++ fetched) ∧
    (∀ got e, fs.read (workDir.join fetched) = .ok got → fs.read (workDir.join source) = .error e →
      result.1.isInfrastructureFailure = true ∧ result.1.actual = "Cannot find " ++ source) ∧
    (fs.IsFile (workDir.join fetched) → result.2.exists? (workDir.join fetched) = false) ∧
    fs.SameBeside (workDir.join fetched) result.2 ∧
    (¬ fs.SamePlace (workDir.join fetched) (workDir.join source) → ∀ want,
      result.2.read (workDir.join source) = .ok want ↔ fs.read (workDir.join source) = .ok want) := by
  have hbeside : fs.SameBeside (workDir.join fetched) (roundTrip fs workDir source fetched).2 :=
    FileSystem.sameBeside_removeIfExists fs _
  refine ⟨roundTrip_passed_iff, ?_, ?_, ?_, ?_, hbeside, ?_⟩
  · intro want got hwant hgot hne
    obtain ⟨common, hcommon, hdifference⟩ := difference_of_ne hne
    refine ⟨common, hcommon, hcommon.length_eq_min, ?_⟩
    rw [roundTrip_read hgot hwant]
    exact hdifference
  · intro e hgot
    rw [roundTrip_unfetched hgot]
    exact ⟨rfl, rfl⟩
  · intro got e hgot hwant
    rw [roundTrip_unsourced hgot hwant]
    exact ⟨rfl, rfl⟩
  · rintro ⟨content, executable, readable, hnode⟩
    exact FileSystem.exists?_removeIfExists hnode nofun
  · intro hsource want
    exact hbeside.read_eq_ok_iff hsource

/-- A working directory in which the fetched copy of a file was cut short. -/
def cutCopy : FileSystem :=
  ((FileSystem.bare ["work"]).put ["work", "whole"] (.file (Text.encode "abcdef") false)).put
    ["work", "copy"] (.file (Text.encode "abc") false)

/-- A working directory in which the fetched copy of a file may not be read. -/
def sealedCopy : FileSystem :=
  ((FileSystem.bare ["work"]).put ["work", "whole"] (.file (Text.encode "abcdef") false)).put
    ["work", "copy"] (.file (Text.encode "abcdef") false false)

/-- A copy that was cut short differs from the whole file where it ends; it is gone afterwards and the
    whole file is not. If neither file can be read, the fetched one is reported; a copy that may not be
    read is reported and gone as well. -/
theorem fetched_compared_cutCopy :
    (roundTrip cutCopy "." "whole" "copy").1.actual =
      "Files do not match (first difference at byte 3; 3 vs 6 bytes)" ∧
    (roundTrip cutCopy "." "whole" "copy").2.exists? "./copy" = false ∧
    (roundTrip cutCopy "." "whole" "copy").2.read "./whole" = .ok (Text.encode "abcdef") ∧
    (roundTrip cutCopy "." "lost" "gone").1.actual = "Cannot find gone" ∧
    (roundTrip cutCopy "." "lost" "copy").1.actual = "Cannot find lost" ∧
    sealedCopy.IsFile "./copy" ∧
    (roundTrip sealedCopy "." "whole" "copy").1.actual = "Cannot find copy" ∧
    (roundTrip sealedCopy "." "whole" "copy").2.exists? "./copy" = false := by
  have hwhole : cutCopy.read (Path.join "." "whole") = .ok (Text.encode "abcdef") := by decide +kernel
  have hcopy : cutCopy.read (Path.join "." "copy") = .ok (Text.encode "abc") := by decide +kernel
  have hlost : cutCopy.read (Path.join "." "lost") = .error .notFound := by decide +kernel
  have hgone : cutCopy.read (Path.join "." "gone") = .error .notFound := by decide +kernel
  obtain ⟨-, hdiffer, -, -, hremoved, -, hkept⟩ := fetched_compared cutCopy "." "whole" "copy"
  obtain ⟨common, -, hlength, hactual⟩ := hdiffer _ _ hwhole hcopy (by decide +kernel)
  have hthree : common.length = 3 := (hlength (.inr (by decide +kernel))).trans (by decide +kernel)
  have hsealed : sealedCopy.nodeAt sealedCopy.home (Path.join "." "copy") =
      .ok (.file (Text.encode "abcdef") false false) := by
    decide +kernel
  have hfile : sealedCopy.IsFile (Path.join "." "copy") := by decide +kernel
  obtain ⟨-, -, hunread, -, hgone', -⟩ := fetched_compared sealedCopy "." "whole" "copy"
  refine ⟨?_, hremoved (by decide +kernel), (hkept ?_ _).mpr hwhole, ?_, ?_, hfile,
    (hunread _ (FileSystem.read_of_unreadable hsealed)).2, hgone' hfile⟩
  · rw [hactual, hthree]
    decide +kernel
  · rintro ⟨place, hfetched, hsource⟩
    exact absurd (hfetched.trans hsource.symm) (by decide +kernel)
  · exact ((fetched_compared cutCopy "." "lost" "gone").2.2.1 _ hgone).2
  · exact ((fetched_compared cutCopy "." "lost" "copy").2.2.2.1 _ _ hcopy hlost).2

/-! ## Bytes at a position -/

/-- A slice is a byte string just if every byte of that stands in its place. -/
theorem take_drop_eq_iff {bytes part : Bytes} {offset : Nat} :
    (bytes.drop offset).take part.length = part ↔
      ∀ i, (h : i < part.length) → bytes[offset + i]? = some part[i] := by
  constructor
  · intro h i hi
    rw [← List.getElem?_drop, ← List.getElem?_take_of_lt hi, h, List.getElem?_eq_getElem hi]
  · intro h
    refine List.ext_getElem? fun i => ?_
    by_cases hi : i < part.length
    · rw [List.getElem?_take_of_lt hi, List.getElem?_drop, h i hi, List.getElem?_eq_getElem hi]
    · have hi := Nat.le_of_not_lt hi
      rw [List.getElem?_eq_none hi, List.getElem?_eq_none]
      exact Nat.le_trans (List.length_take_le _ _) hi

section Peek

variable {fs : FileSystem} {workDir file : Path} {content : Bytes} {executable : Bool} {offset : Nat}

/-- A position that can be reached is looked at in the file's bytes, as far as they go. -/
theorem peek_eq (hfile : fs.nodeAt fs.home (workDir.join file) = .ok (.file content executable))
    (hoffset : offset < 2 ^ 63) (expected : String) :
    peek fs workDir file offset expected =
      .compare ("Checking position " ++ Text.decimal offset ++ " of " ++ file ++ " for '" ++
          expected ++ "'")
        expected (Text.decode ((content.drop offset).take (Text.encode expected).length)) := by
  have hreach : ¬ seekLimit ≤ offset := Nat.not_le_of_lt hoffset
  rw [peek, FileSystem.openAt_eq_ok_iff.mpr ⟨hfile, rfl⟩]
  dsimp only
  rw [readAt, if_neg hreach, Text.byteLength]

/-- Bytes that are read as a text without a replacement are the bytes of that text. -/
theorem peek_passed_iff
    (hfile : fs.nodeAt fs.home (workDir.join file) = .ok (.file content executable))
    (hoffset : offset < 2 ^ 63) {expected : String} (hexpected : Text.replacement ∉ expected.toList) :
    (peek fs workDir file offset expected).passed = true ↔
      ∀ i, (h : i < (Text.encode expected).length) →
        content[offset + i]? = some (Text.encode expected)[i] := by
  rw [peek_eq hfile hoffset, Outcome.passed_compare, eq_comm, Text.decode_eq_iff hexpected,
    take_drop_eq_iff]

/-- Behind the end of a file there is nothing to compare. -/
theorem peek_actual_of_lt
    (hfile : fs.nodeAt fs.home (workDir.join file) = .ok (.file content executable))
    (hoffset : offset < 2 ^ 63) {expected : String}
    (hend : content.length < offset + (Text.encode expected).length) :
    (peek fs workDir file offset expected).actual = Text.decode (content.drop offset) := by
  have hall : (content.drop offset).length ≤ (Text.encode expected).length := by
    rw [List.length_drop]
    omega
  rw [peek_eq hfile hoffset]
  show Text.decode _ = _
  rw [List.take_of_length_le hall]

end Peek

/-- **BYTES AT A POSITION ARE COMPARED EXACTLY.** For a text without a replacement character the check
    passes just if every byte of the text stands in the file, each in its place. A range that reaches
    past the end of the file is shown as far as it goes, and no text but the empty one passes there. The
    check changes nothing outside the session, no file in particular. -/
theorem position_compared {fs : FileSystem} {workDir file : Path} {content : Bytes}
    {executable : Bool} (hfile : fs.nodeAt fs.home (workDir.join file) = .ok (.file content executable))
    {offset : Nat} (hoffset : offset < 2 ^ 63) {expected : String}
    (hexpected : Text.replacement ∉ expected.toList) :
    let outcome := peek fs workDir file offset expected
    (outcome.passed = true ↔ ∀ i, (h : i < (Text.encode expected).length) →
      content[offset + i]? = some (Text.encode expected)[i]) ∧
    (content.length < offset + (Text.encode expected).length →
      outcome.actual = Text.decode (content.drop offset) ∧
        (expected ≠ "" → outcome.passed = false)) ∧
    ∀ {σ : Type} [Machine σ] (s : Session σ),
      ((Session.checkPeek file offset expected).after s).machine = s.machine := by
  have hpassed := peek_passed_iff hfile hoffset hexpected
  refine ⟨hpassed, ?_, ?_⟩
  · intro hend
    refine ⟨peek_actual_of_lt hfile hoffset hend, ?_⟩
    intro hne
    have hpos : 0 < (Text.encode expected).length := by
      refine List.length_pos_iff.mpr fun hnil => hne ?_
      rw [← Text.decode_encode expected, hnil]
      rfl
    -- the last byte of the text would have to stand behind the end
    rw [Bool.eq_false_iff, Ne, hpassed]
    intro hall
    obtain ⟨hlast, -⟩ := List.getElem?_eq_some_iff.mp
      (hall ((Text.encode expected).length - 1) (Nat.sub_lt hpos Nat.one_pos))
    omega
  · intro σ _ s
    rfl

/-- A file with a character of three bytes. -/
def priced : FileSystem :=
  (FileSystem.bare ["work"]).put ["work", "price"] (.file (Text.encode "12€.") false)

/-- A character is found where it stands; a range that begins inside it and ends behind the file shows
    what can be read there. -/
theorem position_compared_priced :
    (peek priced "." "price" 2 "€").passed = true ∧
      (peek priced "." "price" 4 "€").actual = "\uFFFD." ∧
      (peek priced "." "price" 4 "€").passed = false := by
  have hfile : priced.nodeAt priced.home (Path.join "." "price") =
      .ok (.file (Text.encode "12€.") false) := by
    decide +kernel
  have hexpected : Text.replacement ∉ "€".toList := by decide
  obtain ⟨hfound, -⟩ := position_compared hfile (show 2 < 2 ^ 63 by decide) hexpected
  obtain ⟨-, hbehind, -⟩ := position_compared hfile (show 4 < 2 ^ 63 by decide) hexpected
  refine ⟨hfound.mpr (by decide +kernel), ?_⟩
  obtain ⟨hactual, hfailed⟩ := hbehind (by decide +kernel)
  exact ⟨hactual.trans (by decide +kernel), hfailed (by decide)⟩

end Conformance.FileCheck
