import Conformance.Proofs.FileSystem
import Conformance.Proofs.LineReader.Entries

/-!
# Listings are compared exactly, and consumed

A listing is compared with what is expected entry by entry. The texts that an outcome shows are joined by
feeds, and joined texts may coincide where lists differ: a blank entry looks like no entry, and an
expected value with a feed in it looks like two. The verdict is reached on the lists
(`passed_list_iff`), so it does not share this ambiguity.

* Sorting decides whether lists are the same up to their order (`ascending_eq_iff`).
* The entries of a listing come from its lines one by one (`entries_decode`), so permuting the lines of
  the file permutes the entries.
* Once read, the listing is removed whatever the verdict, and nothing else is touched.
-/

namespace Conformance

/-! ## The lines of a file -/

namespace Text

/-- The lines of a file as bytes: those that a feed ends, and what stands behind the last feed if that
    is not empty. -/
def byteLines (content : Bytes) : List Bytes :=
  let pieces := content.splitOn 10
  if pieces.getLast? = some [] then pieces.dropLast else pieces

theorem byteLines_begun {begun : Bytes} (h : 10 ∉ begun) :
    byteLines begun = if begun = [] then [] else [begun] := by
  rw [byteLines, List.splitOn_eq_singleton h]
  show (if some begun = some [] then [] else [begun]) = _
  simp only [Option.some.injEq]

theorem byteLines_line {line : Bytes} (h : 10 ∉ line) (rest : Bytes) :
    byteLines (line ++ 10 :: rest) = line :: byteLines rest := by
  have hne := List.splitOn_ne_nil 10 rest
  rw [byteLines, byteLines, List.splitOn_append_cons_self_of_not_mem h]
  rw [List.getLast?_cons_of_ne_nil hne, List.dropLast_cons_of_ne_nil hne, apply_ite (line :: ·)]

/-- **Every line of a file gives one entry**, whatever stands on the others. -/
theorem entries_decode (content : Bytes) :
    entries (decode content) = (byteLines content).map fun line => entry (decode line) := by
  induction content using LineReader.lineInduction with
  | @begun begun h =>
      rw [byteLines_begun h, entries_begun (LineReader.feed_notMem_decode h)]
      by_cases hbegun : begun = []
      · subst hbegun
        rfl
      · have htext : decode begun ≠ "" := by
          intro hempty
          exact decode_ne_empty hbegun (congrArg String.toList hempty)
        rw [if_neg htext, if_neg hbegun, List.map_singleton]
  | @line line rest h ih =>
      rw [LineReader.decode_line, entries_line (LineReader.feed_notMem_decode h), ih,
        byteLines_line h, List.map_cons]

end Text

/-! ## The verdict -/

/-- How the entries of a listing have to agree with those expected. -/
def ListOrder.Agrees (order : ListOrder) (entries expected : List String) : Prop :=
  match order with
  | .sorted => entries.Perm expected
  | .asEmitted => entries = expected

instance (order : ListOrder) (entries expected : List String) :
    Decidable (order.Agrees entries expected) :=
  match order with
  | .sorted => inferInstanceAs (Decidable (entries.Perm expected))
  | .asEmitted => inferInstanceAs (Decidable (entries = expected))

namespace FileCheck

theorem perm_ascending (texts : List String) : (ascending texts).Perm texts :=
  List.mergeSort_perm texts _

theorem pairwise_ascending (texts : List String) : (ascending texts).Pairwise (· ≤ ·) := by
  have hsorted : (ascending texts).Pairwise fun a b => decide (a ≤ b) = true := by
    refine List.pairwise_mergeSort ?_ ?_ texts
    · intro a b c hab hbc
      exact decide_eq_true (String.le_trans (of_decide_eq_true hab) (of_decide_eq_true hbc))
    · intro a b
      simpa using String.le_total a b
  simpa using hsorted

/-- **Sorting leaves just the order open.** -/
theorem ascending_eq_iff {texts others : List String} :
    ascending texts = ascending others ↔ texts.Perm others := by
  constructor
  · intro h
    exact (perm_ascending texts).symm.trans (h ▸ perm_ascending others)
  · intro h
    refine List.Perm.eq_of_pairwise ?_ (pairwise_ascending texts) (pairwise_ascending others) ?_
    · intro a b _ _ hab hba
      exact String.le_antisymm hab hba
    · exact (perm_ascending texts).trans (h.trans (perm_ascending others).symm)

theorem arranged_eq_iff {order : ListOrder} {expected entries : List String} :
    arranged order expected = arranged order entries ↔ order.Agrees entries expected := by
  cases order with
  | sorted => exact ascending_eq_iff.trans List.perm_comm
  | asEmitted => exact eq_comm

section Listing

variable {fs : FileSystem} {workDir file : Path} {content : Bytes}

/-- The verdict is on lists, not on the texts that are shown. -/
theorem passed_list_iff (h : fs.read (workDir.join file) = .ok content) (expected : List String)
    (order : ListOrder) :
    (list fs workDir file expected order).1.passed = true ↔
      order.Agrees (Text.entries (Text.decode content)) expected := by
  have hpassed : (list fs workDir file expected order).1.passed =
      decide (arranged order expected = arranged order (Text.entries (Text.decode content))) := by
    rw [list, h]
    rfl
  rw [hpassed, decide_eq_true_iff, arranged_eq_iff]

theorem files_list (h : fs.read (workDir.join file) = .ok content) (expected : List String)
    (order : ListOrder) :
    (list fs workDir file expected order).2 = (fs.removeIfExists (workDir.join file)).2 := by
  rw [list, h]

theorem list_unreadable {e : OsError} (h : fs.read (workDir.join file) = .error e)
    (expected : List String) (order : ListOrder) :
    list fs workDir file expected order = (cannotFind ("Checking " ++ file ++ ".") file, fs) := by
  rw [list, h]

end Listing

/-- **A LISTING IS COMPARED EXACTLY AND CONSUMED.** If the file can be read, the check passes just if its
    entries are those expected, up to their order or in their order; then the file is gone whatever the
    verdict, and nothing else has changed. If it cannot be read, that is a failure of the environment,
    and no file has changed. Where the order is open, neither the order of the lines in the file nor
    that of the expected entries matters. -/
theorem listing_compared (fs : FileSystem) (workDir file : Path) (expected : List String) :
    (∀ content order, fs.read (workDir.join file) = .ok content →
      let result := list fs workDir file expected order
      (result.1.passed = true ↔ order.Agrees (Text.entries (Text.decode content)) expected) ∧
        result.2.exists? (workDir.join file) = false ∧
        fs.SameBeside (workDir.join file) result.2) ∧
    (∀ e order, fs.read (workDir.join file) = .error e →
      (list fs workDir file expected order).1.isInfrastructureFailure = true ∧
        (list fs workDir file expected order).2 = fs) ∧
    ∀ content content' fs' expected', fs.read (workDir.join file) = .ok content →
      FileSystem.read fs' (workDir.join file) = .ok content' →
      (Text.byteLines content').Perm (Text.byteLines content) → expected'.Perm expected →
      (list fs' workDir file expected' .sorted).1.passed =
        (list fs workDir file expected .sorted).1.passed := by
  refine ⟨?_, ?_, ?_⟩
  · intro content order hread
    obtain ⟨node, hnode, hdirectory⟩ := FileSystem.exists_node_of_read hread
    have hnode := (FileSystem.openAt_eq_ok_iff.mp hnode).1
    refine ⟨passed_list_iff hread expected order, ?_⟩
    rw [files_list hread]
    exact ⟨FileSystem.exists?_removeIfExists hnode hdirectory,
      FileSystem.sameBeside_removeIfExists fs _⟩
  · intro e order hread
    rw [list_unreadable hread]
    exact ⟨rfl, rfl⟩
  · intro content content' fs' expected' hread hread' hlines hexpected
    have hentries : (Text.entries (Text.decode content')).Perm (Text.entries (Text.decode content)) := by
      rw [Text.entries_decode, Text.entries_decode]
      exact hlines.map _
    rw [Bool.eq_iff_iff, passed_list_iff hread', passed_list_iff hread]
    constructor
    · intro hagrees
      exact hentries.symm.trans (hagrees.trans hexpected)
    · intro hagrees
      exact hentries.trans (hagrees.trans hexpected.symm)

/-- A working directory with one listing in it. -/
def listed (text : String) : FileSystem :=
  (FileSystem.bare ["work"]).put ["work", "allfile"] (.file (Text.encode text) false)

/-- A working directory with one listing in it that may not be read. -/
def sealed (text : String) : FileSystem :=
  (FileSystem.bare ["work"]).put ["work", "allfile"] (.file (Text.encode text) false false)

/-- A blank line is shown like an empty list and is not taken for one; a listing that is not there costs
    no other file; one that may not be read fails and stays where it is; and a listing passes as it would
    in any other order of its lines. -/
theorem listing_compared_blank :
    (list (listed "\n") "." "allfile" [] .sorted).1.expected =
      (list (listed "\n") "." "allfile" [] .sorted).1.actual ∧
    (list (listed "\n") "." "allfile" [] .sorted).1.passed = false ∧
    (list (listed "\n") "." "otherfile" [] .sorted).2 = listed "\n" ∧
    (list (sealed "alice\n") "." "allfile" ["alice"] .asEmitted).1.isInfrastructureFailure = true ∧
    (list (sealed "alice\n") "." "allfile" ["alice"] .asEmitted).2.IsFile "./allfile" ∧
    (list (listed "bob\r\nalice\nbob") "." "allfile" ["alice", "bob", "bob"] .sorted).1.passed =
      (list (listed "alice\nbob\nbob\r") "." "allfile" ["bob", "alice", "bob"] .sorted).1.passed := by
  have hnode : (sealed "alice\n").nodeAt (sealed "alice\n").home (Path.join "." "allfile") =
      .ok (.file (Text.encode "alice\n") false false) := by
    decide +kernel
  obtain ⟨hfailed, hkept⟩ := (listing_compared (sealed "alice\n") "." "allfile" ["alice"]).2.1
    .denied .asEmitted (FileSystem.read_of_unreadable hnode)
  refine ⟨by decide +kernel, ?_, ?_, hfailed, ?_, ?_⟩
  · have hverdict := ((listing_compared (listed "\n") "." "allfile" []).1 (Text.encode "\n") .sorted
      (by decide +kernel)).1
    rw [Bool.eq_false_iff, Ne, hverdict]
    decide +kernel
  · exact ((listing_compared (listed "\n") "." "otherfile" []).2.1 .notFound .sorted
      (by decide +kernel)).2
  · rw [hkept]
    decide +kernel
  · exact (listing_compared (listed "alice\nbob\nbob\r") "." "allfile" ["bob", "alice", "bob"]).2.2
      (Text.encode "alice\nbob\nbob\r") (Text.encode "bob\r\nalice\nbob") _ _
      (by decide +kernel) (by decide +kernel) (by decide +kernel) (by decide +kernel)

end FileCheck

end Conformance
