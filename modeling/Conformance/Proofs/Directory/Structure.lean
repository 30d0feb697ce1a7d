import Conformance.FileCheck
import Conformance.Proofs.Directory.RoundTrip
import Conformance.Proofs.Text.Joined
import Conformance.Proofs.Text.Utf8

/-!
# The structure check tells exactly which users are stored

The check of a directory file compares the usernames once, as one text with a line feed between any two
of them, and looks every expected user up by the bytes of the name. Neither half is enough: a stored
name may hold line feeds or be no text at all, and a name may be stored twice. Together they are
(`directory_passes_iff`). Every expected name is found among the stored ones, so there are at least as
many records as expected users; the joined names then leave no room for another one, nor for a line feed
in a stored name.
-/

namespace Conformance.FileCheck

open Directory (Footprint Record)

/-! ## The two halves -/

/-- Where the lookup finds a record, and the length that it gives is the one expected. -/
theorem storedLength_eq_iff (records : List Record) (name : String) (length : Nat) :
    Text.decimal length = storedLength records name ↔
      ∃ record, records.find? (fun r => r.username = Text.encode name) = some record ∧
        record.content.length = length := by
  rw [storedLength]
  cases records.find? (fun r => r.username = Text.encode name) with
  | none =>
      refine iff_of_false (fun h => ?_) (fun ⟨_, h, _⟩ => nomatch h)
      have hm : 'm' ∈ (Text.decimal length).toList := by
        rw [h]
        decide
      exact absurd (Text.isDigit_of_mem_decimal hm) (by decide)
  | some record =>
      refine ⟨fun h => ⟨record, rfl, (Text.decimal_injective h).symm⟩, ?_⟩
      rintro ⟨_, hrecord, rfl⟩
      rw [Option.some.inj hrecord]

/-- What the outcomes of the check stand for: the file is read and follows the layout, the joined names
    agree, and every expected user is found with a content of the expected length. -/
theorem directory_all_passed_iff (fs : FileSystem) (workDir file : Path) (expected : List Footprint) :
    (directory fs workDir file expected).all (·.passed) = true ↔
      ∃ bytes records, fs.read (workDir.join file) = .ok bytes ∧
        Directory.parse bytes = .ok records ∧
        "\n".intercalate (expected.map Footprint.name) =
          "\n".intercalate (Directory.usernames records) ∧
        ∀ user ∈ expected, ∃ record,
          records.find? (fun r => r.username = Text.encode user.name) = some record ∧
            record.content.length = user.contentLength.toNat := by
  unfold directory
  dsimp only
  cases fs.read (workDir.join file) with
  | error e => exact iff_of_false (by simp [cannotFind, Outcome.infrastructure]) (by simp)
  | ok bytes =>
      cases hparse : Directory.parse bytes with
      | error e => exact iff_of_false (by simp [hparse, Outcome.verdict]) (by simp [hparse])
      | ok records =>
          simp only [hparse, List.all_cons, List.all_map, Bool.and_eq_true, List.all_eq_true,
            Function.comp_apply, Outcome.passed_compare, storedLength_eq_iff, Except.ok.injEq,
            exists_and_left, exists_eq_left']

/-! ## Records and footprints -/

variable {records : List Record} {expected : List Footprint}

/-- Different names are different bytes. -/
theorem nodup_encoded (hdistinct : (expected.map Footprint.name).Nodup) :
    (expected.map fun user => Text.encode user.name).Nodup := by
  have hbytes := hdistinct.map Text.encode_injective
  rwa [List.map_map] at hbytes

/-- The stored names read as text are the expected ones, if there are as many records as users and the
    joined names agree. -/
theorem names_eq_of_joined (hstored : ∀ record ∈ records, record.username ≠ [])
    (hfeed : ∀ user ∈ expected, '\n' ∉ user.name.toList) (hlength : expected.length ≤ records.length)
    (hjoined : "\n".intercalate (expected.map Footprint.name) =
      "\n".intercalate (Directory.usernames records)) :
    expected.map Footprint.name = records.map Record.name := by
  have hlists := congrArg String.toList hjoined
  rw [String.toList_intercalate, String.toList_intercalate] at hlists
  have hinjective : Function.Injective String.toList := fun _ _ => String.toList_injective
  refine List.map_injective_iff.mpr hinjective (Text.eq_of_joined_eq ?_ ?_ ?_ hlists)
  · intro text htext
    obtain ⟨name, hname, rfl⟩ := List.mem_map.mp htext
    obtain ⟨user, huser, rfl⟩ := List.mem_map.mp hname
    exact hfeed user huser
  · simpa only [Directory.usernames, List.length_map] using hlength
  · intro text htext
    obtain ⟨name, hname, rfl⟩ := List.mem_map.mp htext
    obtain ⟨record, hrecord, rfl⟩ := List.mem_map.mp hname
    exact Text.decode_ne_empty (hstored record hrecord)

/-- The expected users are stored under their names, in order and in number, if all of them are found
    and the joined names agree. -/
theorem usernames_eq_of_found (hstored : ∀ record ∈ records, record.username ≠ [])
    (hdistinct : (expected.map Footprint.name).Nodup)
    (hfeed : ∀ user ∈ expected, '\n' ∉ user.name.toList)
    (hjoined : "\n".intercalate (expected.map Footprint.name) =
      "\n".intercalate (Directory.usernames records))
    (hfound : ∀ user ∈ expected, ∃ record ∈ records, record.username = Text.encode user.name) :
    records.map Record.username = expected.map fun user => Text.encode user.name := by
  -- the names are different, so each is found in a record of its own
  have hsubset : (expected.map fun user => Text.encode user.name) ⊆
      records.map Record.username := by
    intro bytes hbytes
    obtain ⟨user, huser, rfl⟩ := List.mem_map.mp hbytes
    obtain ⟨record, hrecord, hname⟩ := hfound user huser
    exact List.mem_map.mpr ⟨record, hrecord, hname⟩
  have hsubperm := List.subperm_of_subset (nodup_encoded hdistinct) hsubset
  have hnames := names_eq_of_joined hstored hfeed
    (by simpa only [List.length_map] using hsubperm.length_le) hjoined
  -- there are no more records than users, so every stored name is the bytes of an expected one
  have hperm : (expected.map fun user => Text.encode user.name).Perm
      (records.map Record.username) := by
    refine hsubperm.perm_of_length_le ?_
    have hcount := congrArg List.length hnames
    simp only [List.length_map] at hcount ⊢
    omega
  have htext : ∀ record ∈ records, Text.encode record.name = record.username := by
    intro record hrecord
    obtain ⟨user, _, hname⟩ :=
      List.mem_map.mp (hperm.mem_iff.mpr (List.mem_map_of_mem hrecord))
    rw [Record.name, ← hname, Text.decode_encode]
  calc records.map Record.username
      = records.map (Text.encode ∘ Record.name) :=
        List.map_congr_left fun record hrecord => (htext record hrecord).symm
    _ = (records.map Record.name).map Text.encode := List.map_map.symm
    _ = (expected.map Footprint.name).map Text.encode := by rw [hnames]
    _ = expected.map fun user => Text.encode user.name := List.map_map

/-- The record that stands under a name is the one that a lookup of the name finds. -/
theorem find?_username (hnodup : (records.map Record.username).Nodup) {record : Record} {name : String}
    (hrecord : record ∈ records) (hname : record.username = Text.encode name) :
    records.find? (fun r => r.username = Text.encode name) = some record := by
  have hsome : (records.find? fun r => r.username = Text.encode name).isSome :=
    List.find?_isSome.mpr ⟨record, hrecord, decide_eq_true hname⟩
  obtain ⟨found, hfound⟩ := Option.isSome_iff_exists.mp hsome
  have husername : found.username = Text.encode name := by
    simpa using List.find?_some hfound
  rw [hfound, List.inj_on_of_nodup_map hnodup (List.mem_of_find?_eq_some hfound) hrecord
    (husername.trans hname.symm)]

/-- What the two halves of the check compare, as one list. -/
theorem footprints_eq_of_found (hstored : ∀ record ∈ records, record.username ≠ [])
    (hdistinct : (expected.map Footprint.name).Nodup)
    (hfeed : ∀ user ∈ expected, '\n' ∉ user.name.toList)
    (hjoined : "\n".intercalate (expected.map Footprint.name) =
      "\n".intercalate (Directory.usernames records))
    (hfound : ∀ user ∈ expected, ∃ record,
      records.find? (fun r => r.username = Text.encode user.name) = some record ∧
        record.content.length = user.contentLength.toNat) :
    records.map (fun record => (record.username, record.content.length)) =
      expected.map fun user => (Text.encode user.name, user.contentLength.toNat) := by
  have hnames := usernames_eq_of_found hstored hdistinct hfeed hjoined fun user huser => by
    obtain ⟨record, hrecord, _⟩ := hfound user huser
    exact ⟨record, List.mem_of_find?_eq_some hrecord, by simpa using List.find?_some hrecord⟩
  have hnodup : (records.map Record.username).Nodup := hnames ▸ nodup_encoded hdistinct
  -- record by record: what was found under a name is what stands in its place
  refine List.ext_getElem (by simpa using congrArg List.length hnames) fun i hi hj => ?_
  rw [List.length_map] at hi hj
  have hname : records[i].username = Text.encode expected[i].name := by
    have hget := List.getElem_of_eq hnames (i := i) (by rwa [List.length_map])
    rwa [List.getElem_map, List.getElem_map] at hget
  obtain ⟨record, hrecord, hlength⟩ := hfound expected[i] (List.getElem_mem hj)
  rw [find?_username hnodup (List.getElem_mem hi) hname] at hrecord
  obtain rfl := Option.some.inj hrecord
  rw [List.getElem_map, List.getElem_map, hname, hlength]

theorem usernames_of_footprints_eq
    (h : records.map (fun record => (record.username, record.content.length)) =
      expected.map fun user => (Text.encode user.name, user.contentLength.toNat)) :
    records.map Record.username = expected.map fun user => Text.encode user.name := by
  have hfirst := congrArg (List.map Prod.fst) h
  rwa [List.map_map, List.map_map] at hfirst

/-- Users that are stored as expected have the expected joined names, and each is found with the
    expected length. -/
theorem found_of_footprints_eq (hdistinct : (expected.map Footprint.name).Nodup)
    (h : records.map (fun record => (record.username, record.content.length)) =
      expected.map fun user => (Text.encode user.name, user.contentLength.toNat)) :
    expected.map Footprint.name = Directory.usernames records ∧
      ∀ user ∈ expected, ∃ record,
        records.find? (fun r => r.username = Text.encode user.name) = some record ∧
          record.content.length = user.contentLength.toNat := by
  have hnames := usernames_of_footprints_eq h
  have hnodup : (records.map Record.username).Nodup := hnames ▸ nodup_encoded hdistinct
  constructor
  · have htexts := congrArg (List.map Text.decode) hnames
    rw [List.map_map, List.map_map] at htexts
    refine Eq.trans ?_ htexts.symm
    exact List.map_congr_left fun user _ => (Text.decode_encode user.name).symm
  · intro user huser
    obtain ⟨record, hrecord, hpair⟩ := List.mem_map.mp (h ▸ List.mem_map_of_mem huser)
    exact ⟨record, find?_username hnodup hrecord (congrArg Prod.fst hpair),
      congrArg Prod.snd hpair⟩

/-! ## The check -/

/-- **THE STRUCTURE CHECK IS EXACT.** For users with different names of one line each, all its outcomes
    pass just for a file that can be read, follows the layout, and stores these users with contents of
    these lengths in this order and no others. So it never passes a file in which a name holds a line
    feed, is no text, or is stored twice. -/
theorem directory_passes_iff (fs : FileSystem) (workDir file : Path) (expected : List Footprint)
    (hdistinct : (expected.map Footprint.name).Nodup)
    (hfeed : ∀ user ∈ expected, '\n' ∉ user.name.toList) :
    ((directory fs workDir file expected).all (·.passed) = true ↔
      ∃ bytes records, fs.read (workDir.join file) = .ok bytes ∧
        Directory.parse bytes = .ok records ∧
        records.map (fun record => (record.username, record.content.length)) =
          expected.map fun user => (Text.encode user.name, user.contentLength.toNat)) ∧
    ∀ bytes records, fs.read (workDir.join file) = .ok bytes → Directory.parse bytes = .ok records →
      (∃ record ∈ records, 10 ∈ record.username ∨ ∀ text, record.username ≠ Text.encode text) ∨
        ¬ (records.map Record.username).Nodup →
      (directory fs workDir file expected).all (·.passed) = false := by
  have hexact : (directory fs workDir file expected).all (·.passed) = true ↔
      ∃ bytes records, fs.read (workDir.join file) = .ok bytes ∧
        Directory.parse bytes = .ok records ∧
        records.map (fun record => (record.username, record.content.length)) =
          expected.map fun user => (Text.encode user.name, user.contentLength.toNat) := by
    rw [directory_all_passed_iff]
    constructor
    · rintro ⟨bytes, records, hread, hparse, hjoined, hfound⟩
      have hstored : ∀ record ∈ records, record.username ≠ [] := fun record hrecord =>
        ((Directory.parse_eq_ok_iff.mp hparse).1 record hrecord).1.1
      exact ⟨bytes, records, hread, hparse,
        footprints_eq_of_found hstored hdistinct hfeed hjoined hfound⟩
    · rintro ⟨bytes, records, hread, hparse, h⟩
      obtain ⟨hnames, hfound⟩ := found_of_footprints_eq hdistinct h
      exact ⟨bytes, records, hread, hparse, by rw [hnames], hfound⟩
  refine ⟨hexact, fun bytes records hread hparse hbad => Bool.eq_false_iff.mpr fun hpassed => ?_⟩
  obtain ⟨_, _, hread', hparse', h⟩ := hexact.mp hpassed
  obtain rfl := Except.ok.inj (hread.symm.trans hread')
  obtain rfl := Except.ok.inj (hparse.symm.trans hparse')
  -- the stored names are those of the expected users, and these are one line each
  have hnames := usernames_of_footprints_eq h
  rcases hbad with ⟨record, hrecord, hbad⟩ | hrepeated
  · obtain ⟨user, huser, hname⟩ := List.mem_map.mp (hnames ▸ List.mem_map_of_mem hrecord)
    rcases hbad with hmem | hnone
    · exact Text.feed_notMem_encode (hfeed user huser) (hname.symm ▸ hmem)
    · exact hnone user.name hname.symm
  · exact hrepeated (hnames ▸ nodup_encoded hdistinct)

/-- A working directory with nothing in it but a directory file. -/
def storing (records : List Record) : FileSystem :=
  ⟨[(["company.dir"], .file (Directory.encode records) false)], []⟩

/-- Two users, one of them with a content. -/
def twoUsers : List Footprint := [⟨"alice", 3⟩, ⟨"bob", 0⟩]

/-- What the two users leave in the directory file. -/
def honest : List Record :=
  [⟨Text.encode "alice", [1], [2], [10, 10, 10]⟩, ⟨Text.encode "bob", [1], [2], []⟩]

/-- One user whose name reads like the names of the two. -/
def forged : List Record := [⟨Text.encode "alice\nbob", [1], [2], [10, 10, 10]⟩]

theorem parse_encode_of_short {records : List Record}
    (h : ∀ r ∈ records, r.Complete ∧ ∀ which ∈ [Directory.SizedField.username, .salt, .hash, .content],
      (r.field which).length < 2 ^ 64) :
    Directory.parse (Directory.encode records) = .ok records := by
  refine Directory.parse_eq_ok_iff.mpr ⟨fun r hr => ⟨(h r hr).1, fun which => ?_⟩, rfl⟩
  exact (h r hr).2 which (by cases which <;> decide)

/-- The two users are recognised, and the one with the forged name is not taken for them. -/
theorem directory_passes_iff_forged :
    (twoUsers.map Footprint.name).Nodup ∧ (∀ user ∈ twoUsers, '\n' ∉ user.name.toList) ∧
    (directory (storing honest) "." "company.dir" twoUsers).all (·.passed) = true ∧
    (directory (storing forged) "." "company.dir" twoUsers).all (·.passed) = false := by
  have hdistinct : (twoUsers.map Footprint.name).Nodup := by decide
  have hfeed : ∀ user ∈ twoUsers, '\n' ∉ user.name.toList := by decide
  have hhonest : Directory.parse (Directory.encode honest) = .ok honest :=
    parse_encode_of_short (by decide)
  have hforged : Directory.parse (Directory.encode forged) = .ok forged :=
    parse_encode_of_short (by decide)
  refine ⟨hdistinct, hfeed, ?_, ?_⟩
  · exact (directory_passes_iff _ _ _ _ hdistinct hfeed).1.mpr ⟨_, honest, rfl, hhonest, rfl⟩
  · exact (directory_passes_iff _ _ _ _ hdistinct hfeed).2 _ forged rfl hforged
      (Or.inl ⟨_, List.mem_cons_self, Or.inl (by decide)⟩)

end Conformance.FileCheck
