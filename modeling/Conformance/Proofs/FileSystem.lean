import Conformance.FileCheck
import Mathlib.Tactic.SplitIfs

/-!
# Removing files

The checker tidies up by paths, and a path only says where to look. Removing what a path names makes no
other path name a file that it did not name before: the way along a path leads through directories, and
a directory is never removed (`walk_of_isDirectory`). So paths can be cleared one after the other, in any
order and even if several of them name the same file (`not_isFile_removeIfExists`,
`isFile_of_removeIfExists`).

A check may consume the file that it looks into. Then nothing stands where its path leads
(`exists?_removeIfExists`), and every path that leads elsewhere names what it named: `SameBeside`.
-/

namespace Conformance.FileSystem

variable {fs fs' : FileSystem} {path other : Path} {place : Place}

/-- A path names a regular file, whether or not it may be read. -/
def IsFile (fs : FileSystem) (path : Path) : Prop :=
  ∃ content executable readable,
    fs.nodeAt fs.home path = .ok (.file content executable readable)

instance (fs : FileSystem) (path : Path) : Decidable (fs.IsFile path) :=
  match h : fs.nodeAt fs.home path with
  | .ok (.file content executable readable) => .isTrue ⟨content, executable, readable, h⟩
  | .ok .directory | .ok (.pipe _) | .ok (.device _) | .error _ =>
    .isFalse fun ⟨_, _, _, hfile⟩ => nomatch h.symm.trans hfile

/-- A path names a node just if it leads to a place where that node stands. -/
theorem nodeAt_eq_ok_iff {directory : Place} {node : Node} :
    fs.nodeAt directory path = .ok node ↔
      ∃ place, fs.locate directory path = .ok place ∧ fs.get? place = some node := by
  rw [nodeAt]
  cases hlocate : fs.locate directory path with
  | error e => simp
  | ok place =>
      cases hnode : fs.get? place with
      | none => simp [hnode]
      | some there => simp [hnode]

theorem isFile_iff :
    fs.IsFile path ↔ ∃ place content executable readable,
      fs.locate fs.home path = .ok place ∧
        fs.get? place = some (.file content executable readable) := by
  constructor
  · rintro ⟨content, executable, readable, h⟩
    obtain ⟨place, hlocate, hnode⟩ := nodeAt_eq_ok_iff.mp h
    exact ⟨place, content, executable, readable, hlocate, hnode⟩
  · rintro ⟨place, content, executable, readable, hlocate, hnode⟩
    exact ⟨content, executable, readable, nodeAt_eq_ok_iff.mpr ⟨place, hlocate, hnode⟩⟩

/-! ## Ways through directories -/

/-- Where the same directories stand, the same ways can be gone. -/
theorem walk_of_isDirectory (h : ∀ place, fs'.isDirectory place = fs.isDirectory place)
    {start : Place} {pieces : List String} (hwalk : fs.walk start pieces = .ok place) :
    fs'.walk start pieces = .ok place := by
  induction pieces generalizing start with
  | nil => exact hwalk
  | cons piece rest ih =>
      rw [walk] at hwalk ⊢
      rw [h start]
      by_cases hstart : (!fs.isDirectory start) = true
      · rw [if_pos hstart] at hwalk
        exact nomatch hwalk
      · rw [if_neg hstart] at hwalk ⊢
        -- what the piece says does not depend on the files
        split_ifs at hwalk ⊢ with hstay hup hlong
        · exact ih hwalk
        · exact ih hwalk
        · exact ih hwalk

theorem locate_of_isDirectory (h : ∀ place, fs'.isDirectory place = fs.isDirectory place)
    {directory : Place} (hlocate : fs.locate directory path = .ok place) :
    fs'.locate directory path = .ok place := by
  rw [locate] at hlocate ⊢
  split_ifs at hlocate ⊢ with hempty habsolute
  · exact walk_of_isDirectory h hlocate
  · exact walk_of_isDirectory h hlocate

/-! ## Removal -/

/-- What is removed is something, and no directory. -/
theorem unlink_ok (h : fs.unlink path = .ok fs') :
    ∃ place, fs.locate fs.home path = .ok place ∧ fs.get? place ≠ some .directory ∧
      fs' = fs.remove place := by
  rw [unlink] at h
  split at h
  · exact nomatch h
  · next place hlocate =>
      split at h
      · exact nomatch h
      · next node hnode hdirectory =>
          refine ⟨place, hlocate, fun hget => ?_, (Except.ok.inj h).symm⟩
          exact hnode (Option.some.inj (hdirectory.symm.trans hget))
      · exact nomatch h

/-- Whatever a path names is removed, unless it is a directory. -/
theorem unlink_of_node {node : Node} (h : fs.nodeAt fs.home path = .ok node)
    (hnode : node ≠ .directory) :
    ∃ place, fs.locate fs.home path = .ok place ∧ fs.unlink path = .ok (fs.remove place) := by
  obtain ⟨place, hlocate, hget⟩ := nodeAt_eq_ok_iff.mp h
  refine ⟨place, hlocate, ?_⟩
  rw [unlink, hlocate]
  dsimp only
  rw [hget]
  cases node with
  | directory => exact absurd rfl hnode
  | file | pipe | device => rfl

theorem get?_remove_of_file (h : fs.get? place ≠ some .directory) (other : Place) :
    (fs.remove place).get? other = if other = place then none else fs.get? other :=
  fs.get?_remove place other fun hroot => h (hroot ▸ fs.get?_root)

theorem isDirectory_remove (h : fs.get? place ≠ some .directory) (other : Place) :
    (fs.remove place).isDirectory other = fs.isDirectory other := by
  rw [isDirectory, isDirectory, get?_remove_of_file h]
  by_cases hother : other = place
  · rw [if_pos hother, hother, decide_eq_false h]
    rfl
  · rw [if_neg hother]

/-- No way is lost by a removal, and none is opened. -/
theorem locate_remove_eq_ok_iff (h : fs.get? place ≠ some .directory) {directory there : Place} :
    (fs.remove place).locate directory other = .ok there ↔
      fs.locate directory other = .ok there := by
  constructor
  · exact locate_of_isDirectory fun p => (isDirectory_remove h p).symm
  · exact locate_of_isDirectory (isDirectory_remove h)

/-- The files that are left when something that is no directory is removed. -/
theorem isFile_remove (h : fs.get? place ≠ some .directory) (hfile : (fs.remove place).IsFile other) :
    fs.IsFile other ∧ fs.locate fs.home other ≠ .ok place := by
  obtain ⟨there, content, executable, readable, hthere, hnode⟩ := isFile_iff.mp hfile
  have hlocate := (locate_remove_eq_ok_iff h).mp hthere
  rw [get?_remove_of_file h] at hnode
  split_ifs at hnode with hsame
  refine ⟨isFile_iff.mpr ⟨there, content, executable, readable, hlocate, hnode⟩,
    fun hplace => hsame ?_⟩
  exact Except.ok.inj (hlocate.symm.trans hplace)

/-- **What was removed is no file any more.** -/
theorem not_isFile_removeIfExists (fs : FileSystem) (path : Path) :
    ¬ (fs.removeIfExists path).2.IsFile path := by
  rw [removeIfExists]
  cases hunlink : fs.unlink path with
  | ok fs' =>
      obtain ⟨place, hlocate, hplace, rfl⟩ := unlink_ok hunlink
      exact fun hfile => (isFile_remove hplace hfile).2 hlocate
  | error e =>
      rintro ⟨content, executable, readable, hnode⟩
      obtain ⟨place, -, hremoved⟩ := unlink_of_node hnode nofun
      exact nomatch hunlink.symm.trans hremoved

/-- **Removing one file makes no other.** -/
theorem isFile_of_removeIfExists (h : (fs.removeIfExists path).2.IsFile other) :
    fs.IsFile other := by
  rw [removeIfExists] at h
  cases hunlink : fs.unlink path with
  | ok fs' =>
      obtain ⟨place, hlocate, hplace, rfl⟩ := unlink_ok hunlink
      rw [hunlink] at h
      exact (isFile_remove hplace h).1
  | error e =>
      rw [hunlink] at h
      exact h

/-! ## Reading -/

/-- What is opened is what the path names, and it may be read. -/
theorem openAt_eq_ok_iff {node : Node} :
    fs.openAt path = .ok node ↔ fs.nodeAt fs.home path = .ok node ∧ node.isReadable = true := by
  rw [openAt]
  cases fs.nodeAt fs.home path with
  | error e => exact ⟨nofun, fun h => nomatch h.1⟩
  | ok there =>
      dsimp only
      by_cases hreadable : there.isReadable = true
      · rw [if_pos hreadable]
        refine ⟨fun h => ⟨h, ?_⟩, And.left⟩
        rw [← Except.ok.inj h, hreadable]
      · rw [if_neg hreadable]
        refine ⟨nofun, fun h => absurd ?_ hreadable⟩
        rw [Except.ok.inj h.1, h.2]

/-- **A file that may not be read is not read**, though it is there. -/
theorem read_of_unreadable {content : Bytes} {executable : Bool}
    (h : fs.nodeAt fs.home path = .ok (.file content executable false)) :
    fs.read path = .error .denied := by
  rw [read, openAt, h]
  rfl

/-- A directory cannot be read. -/
theorem exists_node_of_read {content : Bytes} (h : fs.read path = .ok content) :
    ∃ node, fs.openAt path = .ok node ∧ node ≠ .directory := by
  rw [read] at h
  split at h
  · exact nomatch h
  · next hnode => exact ⟨_, hnode, nofun⟩
  · exact nomatch h
  · next hnode => exact ⟨_, hnode, nofun⟩
  · next hnode => exact ⟨_, hnode, nofun⟩

/-! ## What a removal leaves -/

/-- Two paths lead to one place. -/
def SamePlace (fs : FileSystem) (path other : Path) : Prop :=
  ∃ place, fs.locate fs.home path = .ok place ∧ fs.locate fs.home other = .ok place

/-- Nothing has changed but what stands where a path leads: every other place holds what it held, and
    whatever path leads elsewhere, or nowhere, names just what it named. -/
structure SameBeside (fs : FileSystem) (path : Path) (fs' : FileSystem) : Prop where
  home : fs'.home = fs.home
  place : ∀ place, fs.locate fs.home path ≠ .ok place → fs'.get? place = fs.get? place
  other : ∀ other, ¬ fs.SamePlace path other → ∀ node,
    fs'.nodeAt fs'.home other = .ok node ↔ fs.nodeAt fs.home other = .ok node

theorem SameBeside.refl (fs : FileSystem) (path : Path) : fs.SameBeside path fs :=
  ⟨rfl, fun _ _ => rfl, fun _ _ _ => Iff.rfl⟩

/-- What is read under a path that leads elsewhere is what was read before. -/
theorem SameBeside.read_eq_ok_iff (h : fs.SameBeside path fs') (hother : ¬ fs.SamePlace path other)
    {content : Bytes} : fs'.read other = .ok content ↔ fs.read other = .ok content := by
  have hopen : ∀ node, fs'.openAt other = .ok node ↔ fs.openAt other = .ok node := by
    intro node
    rw [openAt_eq_ok_iff, openAt_eq_ok_iff, h.other other hother node]
  constructor
  · intro hread
    obtain ⟨node, hnode, -⟩ := exists_node_of_read hread
    rw [read, hnode] at hread
    rw [read, (hopen node).mp hnode]
    exact hread
  · intro hread
    obtain ⟨node, hnode, -⟩ := exists_node_of_read hread
    rw [read, hnode] at hread
    rw [read, (hopen node).mpr hnode]
    exact hread

/-- A removal leaves everything else as it is. -/
theorem sameBeside_remove (hlocate : fs.locate fs.home path = .ok place)
    (hplace : fs.get? place ≠ some .directory) : fs.SameBeside path (fs.remove place) := by
  have hget : ∀ there, there ≠ place → (fs.remove place).get? there = fs.get? there := by
    intro there hne
    rw [get?_remove_of_file hplace, if_neg hne]
  refine ⟨rfl, ?_, ?_⟩
  · intro there hthere
    refine hget there fun heq => hthere ?_
    rw [hlocate, heq]
  · intro other hother node
    -- both ways lead through directories, so they lead to one place
    have hsame : ∀ there, fs.locate fs.home other = .ok there →
        (fs.remove place).get? there = fs.get? there := by
      intro there hthere
      refine hget there fun heq => hother ?_
      exact ⟨place, hlocate, heq ▸ hthere⟩
    rw [nodeAt_eq_ok_iff, nodeAt_eq_ok_iff]
    constructor
    · rintro ⟨there, hthere, hnode⟩
      have hbefore := (locate_remove_eq_ok_iff hplace).mp hthere
      exact ⟨there, hbefore, (hsame there hbefore).symm.trans hnode⟩
    · rintro ⟨there, hthere, hnode⟩
      have hafter := (locate_remove_eq_ok_iff hplace).mpr hthere
      exact ⟨there, hafter, (hsame there hthere).trans hnode⟩

/-- **Removing a file touches nothing else**, whether there was a file or not. -/
theorem sameBeside_removeIfExists (fs : FileSystem) (path : Path) :
    fs.SameBeside path (fs.removeIfExists path).2 := by
  rw [removeIfExists]
  cases hunlink : fs.unlink path with
  | error e => exact .refl fs path
  | ok fs' =>
      obtain ⟨place, hlocate, hplace, rfl⟩ := unlink_ok hunlink
      exact sameBeside_remove hlocate hplace

/-- **What was no directory is gone once removed**: nothing stands where the path leads. -/
theorem exists?_removeIfExists {node : Node} (h : fs.nodeAt fs.home path = .ok node)
    (hnode : node ≠ .directory) : (fs.removeIfExists path).2.exists? path = false := by
  obtain ⟨place, hlocate, hremoved⟩ := unlink_of_node h hnode
  obtain ⟨_, hlocate', hplace, -⟩ := unlink_ok hremoved
  obtain rfl := Except.ok.inj (hlocate.symm.trans hlocate')
  rw [removeIfExists, hremoved, exists?]
  cases hafter : (fs.remove place).nodeAt (fs.remove place).home path with
  | error e => rfl
  | ok there =>
      obtain ⟨left, hleft, hget⟩ := nodeAt_eq_ok_iff.mp hafter
      -- the path still leads to the same place, and nothing stands there
      have hbefore := (locate_remove_eq_ok_iff hplace).mp hleft
      rw [get?_remove_of_file hplace, ← Except.ok.inj (hlocate.symm.trans hbefore), if_pos rfl] at hget
      exact nomatch hget

end Conformance.FileSystem
