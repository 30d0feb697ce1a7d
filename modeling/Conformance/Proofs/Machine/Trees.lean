import Conformance.Proofs.Machine.Tasks

/-!
# Copying and removing trees

What becomes of a tree that is copied or removed depends on what stands in it, and need not be said
here: `Task.Keeps` says that a task comes to its end on whatever orderly files it finds, and that it
touches nothing outside a subtree. It is composed along the binds, so that a recursion into directories
is an induction on its depth.
-/

namespace Conformance

open FileSystem (LeadsInto Orderly SameOutside)
open Conformance.Path (IsName)

namespace Task

variable {α β : Type} {task : Task α} {directory scope root : Place} {post : α → Prop}
  {post' : β → Prop} {path source target : Path}

/-- Whatever orderly files it finds, the task comes to its end with a value that meets a condition. It
    leaves the files orderly, and as they were outside a subtree. -/
def Keeps (task : Task α) (directory scope root : Place) (post : α → Prop) : Prop :=
  ∀ files, Orderly scope files → ∃ value files', task.Does directory files value files' ∧
    post value ∧ SameOutside root files files' ∧ Orderly scope files'

theorem keeps_pure {value : α} (h : post value) :
    (pure value : Task α).Keeps directory scope root post :=
  fun files horderly => ⟨value, files, does_pure value, h, .refl root files, horderly⟩

theorem Keeps.bind {following : α → Task β} (h : task.Keeps directory scope root post)
    (h' : ∀ value, post value → (following value).Keeps directory scope root post') :
    (task >>= following).Keeps directory scope root post' := by
  intro files horderly
  obtain ⟨value, middle, hdoes, hvalue, hsame, hmiddle⟩ := h files horderly
  obtain ⟨result, files', hdoes', hresult, hsame', hfiles'⟩ := h' value hvalue middle hmiddle
  exact ⟨result, files', hdoes.bind hdoes', hresult, hsame.trans hsame', hfiles'⟩

theorem keeps_forAll {γ : Type} {action : γ → Task Bool} {members : List γ}
    (h : ∀ member ∈ members, (action member).Keeps directory scope root fun _ => True) :
    (forAll action members).Keeps directory scope root fun _ => True := by
  induction members with
  | nil => exact keeps_pure trivial
  | cons first rest ih =>
      refine (h first List.mem_cons_self).bind fun _ _ => ?_
      refine (ih fun member hmember => h member (List.mem_cons_of_mem first hmember)).bind fun _ _ => ?_
      exact keeps_pure trivial

/-! ## Questions and changes in a subtree -/

theorem keeps_inspect (hpath : LeadsInto directory scope path) :
    (inspect path).Keeps directory scope root fun result =>
      ∀ info, result = .ok info → info.kind = .file ∨ info.kind = .directory := by
  intro files horderly
  refine ⟨_, files, does_inspect path, fun info hinfo => ?_, .refl root files, horderly⟩
  cases hnode : files.nodeAt directory path with
  | error e => rw [hnode] at hinfo; exact nomatch hinfo
  | ok node =>
      obtain ⟨place, hplace, hget⟩ := FileSystem.nodeAt_eq_ok_iff.mp hnode
      have hplain := horderly.plain place node (hpath.below files place hplace).1 hget
      rw [hnode] at hinfo
      obtain rfl := Except.ok.inj hinfo
      cases node with
      | file content executable => exact .inl rfl
      | directory => exact .inr rfl
      | pipe _ | device _ => exact absurd hplain id

theorem keeps_isDirectory (hpath : LeadsInto directory scope path) :
    (isDirectory path).Keeps directory scope root fun _ => True := by
  refine (keeps_inspect hpath).bind fun result _ => ?_
  cases result with
  | error e => exact keeps_pure trivial
  | ok info => exact keeps_pure trivial

theorem keeps_names (hpath : LeadsInto directory scope path) :
    (names path).Keeps directory scope root fun result =>
      ∀ found, result = .ok found → ∀ name ∈ found, IsName name := by
  intro files horderly
  obtain ⟨result, hresult, hnames⟩ := Host.exists_namesAt_eq directory files path
  refine ⟨result, files, fun next host h => h.names hresult, fun found hfound name hname => ?_,
    .refl root files, horderly⟩
  obtain ⟨place, hplace, rfl⟩ := hnames found hfound
  exact horderly.isName_of_mem_namesIn (hpath.below files place hplace).1 hname

theorem keeps_change {what : Change} {change : FileSystem → Except OsError FileSystem}
    (hwhat : ∀ (host : Host) process, host.applyChange process what = host.changeFiles process change)
    (hchange : ∀ files files', Orderly scope files → files.within directory change = .ok files' →
      SameOutside root files files' ∧ Orderly scope files') :
    (Task.change what).Keeps directory scope root fun _ => True := by
  intro files horderly
  cases hwithin : files.within directory change with
  | error e =>
      exact ⟨.error e, files, fun next host h => h.change_error hwhat hwithin, trivial,
        .refl root files, horderly⟩
  | ok files' =>
      exact ⟨.ok (), files', fun next host h => h.change_ok hwhat hwithin, trivial,
        hchange files files' horderly hwithin⟩

theorem keeps_remove {what : Change} {change : FileSystem → Except OsError FileSystem}
    (hscope : scope <+: root) (hpath : LeadsInto directory root path)
    (hwhat : ∀ (host : Host) process, host.applyChange process what = host.changeFiles process change)
    (hchange : ∀ files files' : FileSystem, files.within directory change = .ok files' →
      ∃ place, files.locate directory path = .ok place ∧ files' = files.remove place) :
    (Task.change what).Keeps directory scope root fun _ => True := by
  refine keeps_change hwhat fun files files' horderly hwithin => ?_
  obtain ⟨place, hplace, rfl⟩ := hchange files files' hwithin
  have hroot := FileSystem.ne_nil_of_below horderly.nonempty hscope
  have hbelow := (hpath.below files place hplace).1
  exact ⟨FileSystem.sameOutside_remove hroot hbelow,
    horderly.remove (FileSystem.ne_nil_of_below hroot hbelow)⟩

/-- Something plain is put at the end of a path into a subtree. -/
theorem same_and_orderly_put {files : FileSystem} {place : Place} {node : Node}
    (horderly : Orderly scope files) (hscope : scope <+: root)
    (hpath : LeadsInto directory root path) (hplace : files.locate directory path = .ok place)
    (hnode : node.IsPlain) :
    SameOutside root files (files.put place node) ∧ Orderly scope (files.put place node) := by
  have hroot := FileSystem.ne_nil_of_below horderly.nonempty hscope
  obtain ⟨hbelow, hname⟩ := hpath.below files place hplace
  exact ⟨FileSystem.sameOutside_put hroot hbelow node,
    horderly.put (FileSystem.ne_nil_of_below hroot hbelow) (fun _ => hname) hnode⟩

theorem keeps_makeDirectory (hscope : scope <+: root) (hpath : LeadsInto directory root path) :
    (Task.change (.makeDirectory path)).Keeps directory scope root fun _ => True := by
  refine keeps_change (fun _ _ => rfl) fun files files' horderly hwithin => ?_
  obtain ⟨place, hplace, rfl⟩ := FileSystem.make_of_within hpath.last hwithin
  exact same_and_orderly_put horderly hscope hpath hplace trivial

/-! ## Files in a subtree -/

theorem keeps_load (hpath : LeadsInto directory scope path) :
    (load path).Keeps directory scope root fun _ => True := by
  intro files horderly
  obtain ⟨result, hdoes⟩ := exists_does_load fun place node hplace hnode =>
    horderly.plain place node (hpath.below files place hplace).1 hnode
  exact ⟨result, files, hdoes, trivial, .refl root files, horderly⟩

theorem keeps_save_output (hscope : scope <+: root) (hpath : LeadsInto directory root path)
    (bytes : Bytes) :
    (save path .output bytes).Keeps directory scope root fun _ => True := by
  intro files horderly
  obtain ⟨result, files', hdoes, hfiles'⟩ := exists_does_save .output rfl rfl rfl
    (fun place node hplace hnode =>
      horderly.plain place node (hscope.trans (hpath.below files place hplace).1) hnode) bytes
  refine ⟨result, files', hdoes, trivial, ?_⟩
  rcases hfiles' with rfl | ⟨place, _, _, _, hplace, -, rfl⟩
  · exact ⟨.refl root _, horderly⟩
  · exact same_and_orderly_put horderly hscope hpath hplace rfl

theorem does_complain {files : FileSystem} (line : String) :
    (complain line).Does directory files () files := by
  intro next host h
  obtain ⟨result, hreaches⟩ := Host.Alone.complain h
  exact hreaches

theorem keeps_complain (line : String) :
    (complain line).Keeps directory scope root fun _ => True :=
  fun files horderly => ⟨(), files, does_complain line, trivial, .refl root files, horderly⟩

/-! ## Trees -/

theorem keeps_removeTree (hscope : scope <+: root) (depth : Nat)
    (hpath : LeadsInto directory root path) :
    (removeTree depth path).Keeps directory scope root fun _ => True := by
  induction depth generalizing path with
  | zero => exact keeps_pure trivial
  | succ depth ih =>
      have hwithin := hpath.mono hscope
      refine (keeps_isDirectory hwithin).bind fun isDirectory _ => ?_
      cases isDirectory with
      | false =>
          refine (keeps_remove hscope hpath (fun _ _ => rfl)
            fun _ _ => FileSystem.remove_of_within_unlink).bind fun _ _ => ?_
          exact keeps_pure trivial
      | true =>
          refine (keeps_names hwithin).bind fun result hnames => ?_
          cases result with
          | error e => exact keeps_pure trivial
          | ok found =>
              refine (keeps_forAll fun name hname => ih (hpath.join (hnames found rfl name hname))).bind
                fun _ _ => ?_
              refine (keeps_remove hscope hpath (fun _ _ => rfl)
                fun _ _ => FileSystem.remove_of_within_removeDirectory).bind fun _ _ => ?_
              exact keeps_pure trivial

theorem keeps_copyFile (hscope : scope <+: root) (hsource : LeadsInto directory scope source)
    (htarget : LeadsInto directory root target) :
    (copyFile source target).Keeps directory scope root fun _ => True := by
  refine (keeps_load hsource).bind fun result _ => ?_
  cases result with
  | error e => exact (keeps_complain _).bind fun _ _ => keeps_pure trivial
  | ok content =>
      refine (keeps_save_output hscope htarget content).bind fun result _ => ?_
      cases result with
      | error e => exact (keeps_complain _).bind fun _ _ => keeps_pure trivial
      | ok _ => exact keeps_pure trivial

theorem keeps_copyTree (hscope : scope <+: root) (depth : Nat)
    (hsource : LeadsInto directory scope source) (htarget : LeadsInto directory root target) :
    (copyTree depth source target).Keeps directory scope root fun _ => True := by
  induction depth generalizing source target with
  | zero => exact keeps_pure trivial
  | succ depth ih =>
      refine (keeps_inspect hsource).bind fun result hplain => ?_
      cases result with
      | error e => exact (keeps_complain _).bind fun _ _ => keeps_pure trivial
      | ok info =>
          obtain ⟨kind, size, executable⟩ := info
          rcases hplain _ rfl with rfl | rfl
          · exact keeps_copyFile hscope hsource htarget
          · refine (keeps_makeDirectory hscope htarget).bind fun _ _ => ?_
            refine (keeps_names hsource).bind fun result hnames => ?_
            cases result with
            | error e => exact keeps_pure trivial
            | ok found =>
                refine keeps_forAll fun name hname => ?_
                have hname := hnames found rfl name hname
                exact ih (hsource.join hname) (htarget.join hname)

end Task

end Conformance
