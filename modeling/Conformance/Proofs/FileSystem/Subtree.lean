import Conformance.Proofs.FileSystem
import Conformance.Proofs.FileSystem.Walk

/-!
# Subtrees

What a program does to one subtree of the files. `SameOutside` says that everything else is as it was,
and `Orderly` that the subtree holds only files and directories, under proper names. A path without
steps upwards goes down only, so it leads where it led as long as the directories above that place are
left alone (`walk_of_prefixes`).
-/

namespace Conformance

namespace Path

/-- A text that can name something in a directory. -/
structure IsName (name : String) : Prop where
  nonempty : name ≠ ""
  noSlash : '/' ∉ name.toList
  notHere : name ≠ "."
  notUp : name ≠ ".."

variable {name : String}

instance : Decidable (IsName name) :=
  decidable_of_iff (name ≠ "" ∧ '/' ∉ name.toList ∧ name ≠ "." ∧ name ≠ "..")
    ⟨fun ⟨hempty, hslash, hhere, hup⟩ => ⟨hempty, hslash, hhere, hup⟩,
      fun h => ⟨h.nonempty, h.noSlash, h.notHere, h.notUp⟩⟩

theorem IsName.pieces (h : IsName name) : Path.pieces name = [name] := by
  rw [Path.pieces, List.splitOn_eq_singleton h.noSlash, List.map_singleton, String.ofList_toList]

theorem IsName.isAbsolute (h : IsName name) : Path.isAbsolute name = false :=
  decide_eq_false fun hhead => h.noSlash (List.mem_of_mem_head? hhead)

end Path

/-- Something that can be copied and removed at once: a file that may be read, or a directory. -/
def Node.IsPlain : Node → Prop
  | .file _ _ readable => readable = true
  | .directory => True
  | .pipe _ | .device _ => False

namespace FileSystem

open Conformance.Path (IsName)

variable {fs fs' : FileSystem} {root place start : Place} {path : Path} {name : String}

/-! ## Ways through names -/

/-- A name leads from a directory to what it names there. -/
theorem walk_name (hname : IsName name) (hshort : Text.byteLength name ≤ 255)
    (hstart : fs.isDirectory start = true) (rest : List String) :
    fs.walk start (name :: rest) = fs.walk (start ++ [name]) rest := by
  rw [walk, if_neg (by rw [hstart]; exact Bool.false_ne_true),
    if_neg (not_or.mpr ⟨hname.nonempty, hname.notHere⟩), if_neg hname.notUp,
    if_neg (Nat.not_lt_of_le hshort)]

/-- A name leads nowhere else. -/
theorem eq_of_walk_name (hname : IsName name) {rest : List String}
    (h : fs.walk start (name :: rest) = .ok place) : fs.walk (start ++ [name]) rest = .ok place := by
  rw [walk] at h
  by_cases hstart : (!fs.isDirectory start) = true
  · rw [if_pos hstart] at h
    cases h
  rw [if_neg hstart, if_neg (not_or.mpr ⟨hname.nonempty, hname.notHere⟩), if_neg hname.notUp] at h
  split at h
  · cases h
  · exact h

/-- The last name leads from a directory to what it names there, unless it is too long. -/
theorem walk_last (hname : IsName name) (hstart : fs.isDirectory start = true) :
    fs.walk start [name] =
      if 255 < Text.byteLength name then .error .nameTooLong else .ok (start ++ [name]) := by
  rw [walk, if_neg (by rw [hstart]; exact Bool.false_ne_true),
    if_neg (not_or.mpr ⟨hname.nonempty, hname.notHere⟩), if_neg hname.notUp]
  rfl

/-- Through directories one gets on by their names, one after the other. -/
theorem walk_directories {names : List String}
    (hnames : ∀ name ∈ names, IsName name ∧ Text.byteLength name ≤ 255)
    (hdirectories : ∀ front, front <+: names → fs.isDirectory (start ++ front) = true)
    (rest : List String) : fs.walk start (names ++ rest) = fs.walk (start ++ names) rest := by
  induction names generalizing start with
  | nil => rw [List.nil_append, List.append_nil]
  | cons name others ih =>
      obtain ⟨hname, hshort⟩ := hnames name List.mem_cons_self
      have hstart : fs.isDirectory start = true := by
        simpa using hdirectories [] (List.nil_prefix)
      have hothers : ∀ front, front <+: others → fs.isDirectory (start ++ [name] ++ front) = true := by
        intro front hfront
        rw [List.append_assoc]
        exact hdirectories (name :: front) ((List.prefix_cons_inj name).mpr hfront)
      rw [List.cons_append, walk_name hname hshort hstart,
        ih (fun other hother => hnames other (List.mem_cons_of_mem name hother)) hothers,
        List.append_assoc, List.singleton_append]

/-- Names lead down from where one is, one after the other. -/
theorem eq_of_walk_names {names : List String} (hnames : ∀ name ∈ names, IsName name)
    (h : fs.walk start names = .ok place) : place = start ++ names := by
  induction names generalizing start with
  | nil => rw [List.append_nil]; exact (Except.ok.inj h).symm
  | cons name rest ih =>
      have hrest := ih (fun other hother => hnames other (List.mem_cons_of_mem name hother))
        (eq_of_walk_name (hnames name List.mem_cons_self) h)
      rw [hrest, List.append_assoc, List.singleton_append]

/-- A path whose pieces are names leads there too, joined to the path of a directory. -/
theorem locate_join_name (fs : FileSystem) (directory : Place) (hpath : path ≠ "")
    (hname : IsName name) :
    fs.locate directory (path.join name) =
      fs.locate directory path >>= fun place => fs.walk place [name] := by
  rw [locate_join fs directory hpath hname.nonempty hname.isAbsolute]
  congr 1
  funext place
  rw [locate, if_neg hname.nonempty, hname.isAbsolute, hname.pieces]
  rfl

/-- Without steps upwards one gets only down. -/
theorem prefix_of_walk {pieces : List String} (hup : ".." ∉ pieces)
    (h : fs.walk start pieces = .ok place) : start <+: place := by
  induction pieces generalizing start with
  | nil => exact Except.ok.inj h ▸ List.prefix_rfl
  | cons piece rest ih =>
      have hrest : ".." ∉ rest := fun hmem => hup (List.mem_cons_of_mem piece hmem)
      have hpiece : piece ≠ ".." := fun heq => hup (heq ▸ List.mem_cons_self)
      rw [walk] at h
      split at h
      · cases h
      split at h
      · exact ih hrest h
      split at h
      · cases h
      · exact (List.prefix_append start [piece]).trans (ih hrest h)

/-- **A way down depends only on the directories along it.** -/
theorem walk_of_prefixes {pieces : List String} (hup : ".." ∉ pieces)
    (hsame : ∀ front, front <+: place → fs'.isDirectory front = fs.isDirectory front)
    (h : fs.walk start pieces = .ok place) : fs'.walk start pieces = .ok place := by
  induction pieces generalizing start with
  | nil => exact h
  | cons piece rest ih =>
      -- one is on the way already, so this is a directory in both
      have hdown := prefix_of_walk hup h
      have hrest : ".." ∉ rest := fun hmem => hup (List.mem_cons_of_mem piece hmem)
      have hpiece : piece ≠ ".." := fun heq => hup (heq ▸ List.mem_cons_self)
      rw [walk] at h ⊢
      rw [hsame start hdown]
      split at h
      · cases h
      next hstart =>
        rw [if_neg hstart]
        split at h
        · next hstay => rw [if_pos hstay]; exact ih hrest h
        next hstay =>
          rw [if_neg hstay, if_neg hpiece]
          split at h
          · cases h
          · next hlong => rw [if_neg hlong]; exact ih hrest h

theorem locate_of_prefixes {directory : Place} (hup : ".." ∉ path.pieces)
    (hsame : ∀ front, front <+: place → fs'.isDirectory front = fs.isDirectory front)
    (h : fs.locate directory path = .ok place) : fs'.locate directory path = .ok place := by
  rw [locate] at h ⊢
  split at h
  · cases h
  · next hempty =>
      rw [if_neg hempty]
      exact walk_of_prefixes hup hsame h

/-! ## Other homes -/

theorem walk_home (fs : FileSystem) (home start : Place) (pieces : List String) :
    ({ fs with home := home } : FileSystem).walk start pieces = fs.walk start pieces := by
  induction pieces generalizing start with
  | nil => rfl
  | cons piece rest ih =>
      rw [walk, walk]
      simp only [ih]
      rfl

theorem locate_home (fs : FileSystem) (home directory : Place) (path : Path) :
    ({ fs with home := home } : FileSystem).locate directory path = fs.locate directory path := by
  rw [locate, locate]
  simp only [walk_home]

/-! ## One change after the other -/

@[simp] theorem put_put (fs : FileSystem) (place : Place) (node other : Node) :
    (fs.put place node).put place other = fs.put place other := by
  simp [put]

theorem ne_nil_of_get? (h : fs.get? place ≠ some .directory) : place ≠ [] :=
  fun hroot => h (hroot ▸ fs.get?_root)

/-- Where a file is written, there was no directory and is none. -/
theorem isDirectory_put_file (h : fs.get? place ≠ some .directory) (content : Bytes)
    (executable : Bool) (other : Place) :
    (fs.put place (.file content executable)).isDirectory other = fs.isDirectory other := by
  rw [isDirectory, isDirectory, get?_put fs place other _ (ne_nil_of_get? h)]
  by_cases hother : other = place
  · rw [if_pos hother, hother, decide_eq_false h]
    rfl
  · rw [if_neg hother]

/-! ## Changes inside a subtree -/

/-- Nothing has changed outside a subtree. -/
structure SameOutside (root : Place) (fs fs' : FileSystem) : Prop where
  home : fs'.home = fs.home
  get? : ∀ place, ¬ root <+: place → fs'.get? place = fs.get? place

theorem SameOutside.refl (root : Place) (fs : FileSystem) : SameOutside root fs fs :=
  ⟨rfl, fun _ _ => rfl⟩

theorem SameOutside.trans {middle : FileSystem} (h : SameOutside root fs middle)
    (h' : SameOutside root middle fs') : SameOutside root fs fs' where
  home := h'.home.trans h.home
  get? place hplace := (h'.get? place hplace).trans (h.get? place hplace)

/-- The last part of a place is the name at its end. -/
theorem isName_of_mem_getLast? {last : String} (hname : IsName name) (front : Place)
    (h : last ∈ (place ++ (front ++ [name])).getLast?) : IsName last := by
  rw [← List.append_assoc, List.getLast?_concat] at h
  exact Option.some.inj h ▸ hname

theorem ne_nil_of_below (hroot : root ≠ []) (hplace : root <+: place) : place ≠ [] :=
  fun hnil => hroot (List.prefix_nil.mp (hnil ▸ hplace))

theorem sameOutside_put (hroot : root ≠ []) (hplace : root <+: place) (node : Node) :
    SameOutside root fs (fs.put place node) where
  home := rfl
  get? other hother := by
    have hne : other ≠ place := fun heq => hother (heq ▸ hplace)
    rw [get?_put fs place other node (ne_nil_of_below hroot hplace), if_neg hne]

theorem sameOutside_remove (hroot : root ≠ []) (hplace : root <+: place) :
    SameOutside root fs (fs.remove place) where
  home := rfl
  get? other hother := by
    have hne : other ≠ place := fun heq => hother (heq ▸ hplace)
    rw [get?_remove fs place other (ne_nil_of_below hroot hplace), if_neg hne]

/-- A subtree of files and directories with proper names. -/
structure Orderly (root : Place) (fs : FileSystem) : Prop where
  nonempty : root ≠ []
  names : ∀ entry ∈ fs.nodes, root <+: entry.1 → ∀ name ∈ entry.1.getLast?, IsName name
  plain : ∀ place node, root <+: place → fs.get? place = some node → node.IsPlain

/-- What stands below the root is among the nodes. -/
theorem mem_nodes_of_get? {node : Node} (hplace : place ≠ []) (h : fs.get? place = some node) :
    (place, node) ∈ fs.nodes := by
  rw [get?, if_neg hplace] at h
  obtain ⟨entry, hentry, rfl⟩ := Option.map_eq_some_iff.mp h
  have heq : entry.1 = place := by simpa using List.find?_some hentry
  exact heq ▸ List.mem_of_find?_eq_some hentry

theorem Orderly.put (h : Orderly root fs) (hplace : place ≠ [])
    (hname : root <+: place → ∀ name ∈ place.getLast?, IsName name) {node : Node}
    (hnode : node.IsPlain) : Orderly root (fs.put place node) where
  nonempty := h.nonempty
  names entry hentry := by
    rcases List.mem_cons.mp hentry with rfl | hentry
    · exact hname
    · exact h.names entry (List.mem_of_mem_filter hentry)
  plain other there hother hthere := by
    rw [get?_put fs place other node hplace] at hthere
    split at hthere
    · exact Option.some.inj hthere ▸ hnode
    · exact h.plain other there hother hthere

theorem Orderly.remove (h : Orderly root fs) (hplace : place ≠ []) :
    Orderly root (fs.remove place) where
  nonempty := h.nonempty
  names entry hentry := h.names entry (List.mem_of_mem_filter hentry)
  plain other there hother hthere := by
    rw [get?_remove fs place other hplace] at hthere
    split at hthere
    · cases hthere
    · exact h.plain other there hother hthere

theorem Orderly.isName_of_mem_namesIn (h : Orderly root fs) (hplace : root <+: place)
    (hname : name ∈ fs.namesIn place) : IsName name := by
  obtain ⟨entry, hentry, hlast⟩ := List.mem_filterMap.mp hname
  split at hlast
  · next hbelow =>
      obtain ⟨-, hparent⟩ := hbelow
      have hdown : root <+: entry.1 := (hparent ▸ hplace).trans (List.dropLast_prefix entry.1)
      exact h.names entry hentry hdown name hlast
  · cases hlast

/-! ## Paths into a subtree -/

/-- A path that leads into a subtree if it leads anywhere, and does not end in a separator. -/
structure LeadsInto (directory root : Place) (path : Path) : Prop where
  nonempty : path ≠ ""
  last : path.pieces.getLast? ≠ some ""
  below : ∀ fs place, locate fs directory path = .ok place →
    root <+: place ∧ ∀ name ∈ place.getLast?, IsName name

variable {directory : Place}

theorem LeadsInto.mono {scope : Place} (h : LeadsInto directory root path) (hscope : scope <+: root) :
    LeadsInto directory scope path where
  nonempty := h.nonempty
  last := h.last
  below fs place hplace := ⟨hscope.trans (h.below fs place hplace).1, (h.below fs place hplace).2⟩

theorem LeadsInto.join (h : LeadsInto directory root path) (hname : IsName name) :
    LeadsInto directory root (path.join name) where
  nonempty := Path.join_ne_empty h.nonempty hname.isAbsolute
  last := by
    obtain ⟨front, hpieces, -⟩ := Path.pieces_join h.nonempty hname.isAbsolute
    rw [hpieces, hname.pieces, List.getLast?_concat]
    exact fun heq => hname.nonempty (Option.some.inj heq)
  below fs place hplace := by
    rw [locate_join_name fs directory h.nonempty hname] at hplace
    cases hparent : fs.locate directory path with
    | error e => rw [hparent] at hplace; cases hplace
    | ok parent =>
        rw [hparent] at hplace
        obtain rfl : place = parent ++ [name] :=
          eq_of_walk_names (fun other hother => List.mem_singleton.mp hother ▸ hname) hplace
        exact ⟨(h.below fs parent hparent).1.trans (List.prefix_append parent [name]),
          fun _ => isName_of_mem_getLast? hname []⟩

/-- A path that does not end in a separator leads to the place where something can be made. -/
theorem withoutEnd_eq {pieces : List String} (h : pieces.getLast? ≠ some "") :
    withoutEnd pieces = pieces := by
  rw [withoutEnd]
  -- empty pieces are dropped from the front of the reversed path, where there is none
  cases hlast : pieces.reverse with
  | nil => rw [List.reverse_eq_nil_iff.mp hlast]; rfl
  | cons last rest =>
      rw [← List.head?_reverse, hlast] at h
      have hne : last ≠ "" := fun heq => h (congrArg some heq)
      rw [List.dropWhile_cons, if_neg (by simpa using hne), ← hlast, List.reverse_reverse]

/-! ## Changes from a directory -/

/-- What is made stands where the path leads. -/
theorem make_of_within {node : Node} (hlast : path.pieces.getLast? ≠ some "")
    (h : fs.within directory (·.make path node) = .ok fs') :
    ∃ place, fs.locate directory path = .ok place ∧ fs' = fs.put place node := by
  rw [within, make, vacancy] at h
  by_cases hempty : path = ""
  · rw [if_pos hempty] at h
    cases h
  rw [if_neg hempty, withoutEnd_eq hlast, walk_home] at h
  rw [locate, if_neg hempty]
  split at h
  · cases h
  next hmade =>
    split at hmade
    · cases hmade
    next place hvacant =>
      split at hvacant
      · cases hvacant
      next hwalk =>
        refine ⟨place, ?_, ?_⟩
        · split at hvacant
          · cases hvacant
          · split at hvacant
            · rw [← Except.ok.inj hvacant]
              exact hwalk
            · cases hvacant
        · rw [← Except.ok.inj h, ← Except.ok.inj hmade]
          rfl

/-- What is removed is what the path leads to. -/
theorem remove_of_within_unlink (h : fs.within directory (·.unlink path) = .ok fs') :
    ∃ place, fs.locate directory path = .ok place ∧ fs' = fs.remove place := by
  rw [within] at h
  split at h
  · cases h
  next hremoved =>
    obtain ⟨place, hplace, -, rfl⟩ := unlink_ok hremoved
    rw [locate_home] at hplace
    exact ⟨place, hplace, (Except.ok.inj h).symm⟩

theorem remove_of_within_removeDirectory (h : fs.within directory (·.removeDirectory path) = .ok fs') :
    ∃ place, fs.locate directory path = .ok place ∧ fs' = fs.remove place := by
  rw [within, removeDirectory, locate_home] at h
  split at h
  · cases h
  next hremoved =>
    split at hremoved
    · cases hremoved
    next place hplace =>
      refine ⟨place, hplace, ?_⟩
      split at hremoved
      · cases hremoved
      · split at hremoved
        · cases hremoved
        · rw [← Except.ok.inj h, ← Except.ok.inj hremoved]
          rfl
      · cases hremoved

end FileSystem

end Conformance
