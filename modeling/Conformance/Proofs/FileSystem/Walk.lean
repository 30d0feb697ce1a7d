import Mathlib.Data.List.Basic
import Mathlib.Tactic.SplitIfs
import Conformance.FileSystem

/-!
# Ways along paths

A path is walked piece by piece, so a way can be broken off anywhere and gone on with from where it
led (`walk_append`). A path that is seen from a directory and one that is joined to the directory's
path are therefore the same way: `locate_join`.
-/

namespace Conformance

namespace Path

/-- A separator between two paths divides their pieces. -/
theorem pieces_slash (front back : String) :
    pieces (front ++ "/" ++ back) = pieces front ++ pieces back := by
  rw [pieces, String.toList_append, String.toList_append]
  show ((front.toList ++ ['/'] ++ back.toList).splitOn '/').map String.ofList = _
  rw [List.append_assoc, List.singleton_append, List.splitOn_append_cons_self, List.map_append]
  rfl

theorem pieces_ne_nil (path : Path) : path.pieces ≠ [] := by
  rw [pieces, Ne, List.map_eq_nil_iff]
  exact List.splitOn_ne_nil '/' path.toList

theorem isAbsolute_append {front : String} (h : front ≠ "") (back : String) :
    isAbsolute (front ++ back) = isAbsolute front := by
  obtain ⟨c, rest, hfront⟩ := List.exists_cons_of_ne_nil fun hnil => h (String.toList_eq_nil_iff.mp hnil)
  rw [isAbsolute, isAbsolute, String.toList_append, hfront]
  rfl

variable {directory path : Path}

theorem join_of_relative (hpath : path.isAbsolute = false) :
    directory.join path =
      if directory.isEmpty || directory.toList.getLast? = some '/' then directory ++ path
      else directory ++ "/" ++ path := by
  rw [join, hpath, if_neg Bool.false_ne_true]

/-- What is joined to an absolute path is absolute, and to a relative one relative. -/
theorem isAbsolute_join (hdirectory : directory ≠ "") (hpath : path.isAbsolute = false) :
    (directory.join path).isAbsolute = directory.isAbsolute := by
  rw [join_of_relative hpath]
  split
  · exact isAbsolute_append hdirectory path
  · rw [String.append_assoc]
    exact isAbsolute_append hdirectory ("/" ++ path)

theorem join_ne_empty (hdirectory : directory ≠ "") (hpath : path.isAbsolute = false) :
    directory.join path ≠ "" := by
  intro h
  rw [join_of_relative hpath] at h
  split at h
  · exact hdirectory (String.append_eq_empty_iff.mp h).1
  · rw [String.append_assoc] at h
    exact hdirectory (String.append_eq_empty_iff.mp h).1

/-- The pieces of a joined path are those of its parts, but for the empty piece behind a separator at the
    end of the first. -/
theorem pieces_join (hdirectory : directory ≠ "") (hpath : path.isAbsolute = false) :
    ∃ front, (directory.join path).pieces = front ++ path.pieces ∧
      (directory.pieces = front ∨ directory.pieces = front ++ [""]) := by
  rw [join_of_relative hpath]
  split
  · next hlast =>
      have hslash : directory.toList.getLast? = some '/' := by
        rcases Bool.or_eq_true_iff.mp hlast with hnone | hslash
        · exact absurd (String.isEmpty_iff.mp hnone) hdirectory
        · exact of_decide_eq_true hslash
      obtain ⟨front, hfront⟩ := List.getLast?_eq_some_iff.mp hslash
      have hwhole : directory = String.ofList front ++ "/" := by
        apply String.toList_injective
        rw [hfront, String.toList_append, String.toList_ofList]
        rfl
      refine ⟨pieces (String.ofList front), ?_, Or.inr ?_⟩
      · rw [hwhole]
        exact pieces_slash _ _
      · rw [hwhole, ← String.append_empty (s := String.ofList front ++ "/"), pieces_slash]
        rfl
  · exact ⟨directory.pieces, pieces_slash directory path, Or.inl rfl⟩

end Path

namespace FileSystem

variable {fs : FileSystem} {place : Place}

/-- A way is gone in two parts. -/
theorem walk_append (fs : FileSystem) (start : Place) (front back : List String) :
    fs.walk start (front ++ back) = fs.walk start front >>= fun place => fs.walk place back := by
  induction front generalizing start with
  | nil => rfl
  | cons piece rest ih =>
      rw [List.cons_append, walk, walk]
      -- the first piece decides on both sides alike: an error, or the same place to go on from
      by_cases hstart : (!fs.isDirectory start) = true
      · rw [if_pos hstart, if_pos hstart]
        rfl
      rw [if_neg hstart, if_neg hstart]
      by_cases hstay : piece = "" ∨ piece = "."
      · rw [if_pos hstay, if_pos hstay, ih]
      rw [if_neg hstay, if_neg hstay]
      by_cases hup : piece = ".."
      · rw [if_pos hup, if_pos hup, ih]
      rw [if_neg hup, if_neg hup]
      by_cases hlong : 255 < Text.byteLength piece
      · rw [if_pos hlong, if_pos hlong]
        rfl
      · rw [if_neg hlong, if_neg hlong, ih]

/-- To stay where one is takes what the next piece takes anyway: that it is a directory. -/
theorem walk_stay (fs : FileSystem) (start : Place) {pieces : List String} (h : pieces ≠ []) :
    (fs.walk start [""] >>= fun place => fs.walk place pieces) = fs.walk start pieces := by
  obtain ⟨piece, rest, rfl⟩ := List.exists_cons_of_ne_nil h
  by_cases hstart : fs.isDirectory start = true
  · have hstay : fs.walk start [""] = .ok start := by
      rw [walk, if_neg (by rw [hstart]; exact Bool.false_ne_true), if_pos (Or.inl rfl)]
      rfl
    rw [hstay]
    rfl
  · have hnot : (!fs.isDirectory start) = true := by rw [Bool.eq_false_iff.mpr hstart]; rfl
    rw [walk, if_pos hnot, walk, if_pos hnot]
    rfl

/-- **A joined path leads where the path leads from the directory.** -/
theorem locate_join (fs : FileSystem) (home : Place) {directory path : Path}
    (hdirectory : directory ≠ "") (hempty : path ≠ "") (hpath : path.isAbsolute = false) :
    fs.locate home (directory.join path) =
      fs.locate home directory >>= fun place => fs.locate place path := by
  have hfrom : ∀ place, fs.locate place path = fs.walk place path.pieces := by
    intro place
    rw [locate, if_neg hempty, hpath]
    rfl
  simp only [hfrom]
  rw [locate, if_neg (Path.join_ne_empty hdirectory hpath), Path.isAbsolute_join hdirectory hpath,
    locate, if_neg hdirectory]
  generalize (if directory.isAbsolute = true then [] else home) = start
  obtain ⟨front, hjoin, hfront | hfront⟩ := Path.pieces_join hdirectory hpath
  · rw [hjoin, hfront, walk_append]
  · -- the directory's path ends in a separator, and the empty piece behind it stays where it is
    rw [hjoin, hfront, walk_append, walk_append]
    cases fs.walk start front with
    | error e => rfl
    | ok place => exact (fs.walk_stay place path.pieces_ne_nil).symm

end FileSystem

end Conformance
