import Conformance.Proofs.Machine.Alone

/-!
# What tasks do

`Task.Does` says of a task of a process that runs alone what it makes of the files and which value it
gives; it is composed along the binds of a program, and the host does not appear in it any more. Whole
files are read and written as one step.
-/

namespace Conformance

namespace FileSystem

variable {fs : FileSystem} {place : Place}

/-- What a file holds to which something is written: nothing if there is no file yet. -/
def Offers (fs : FileSystem) (place : Place) (content : Bytes) (executable : Bool) : Prop :=
  fs.get? place = some (.file content executable) ∨
    fs.get? place = none ∧ content = [] ∧ executable = false

theorem Offers.not_directory {content : Bytes} {executable : Bool}
    (h : fs.Offers place content executable) : fs.get? place ≠ some .directory := by
  intro hdirectory
  rcases h with h | ⟨h, -⟩
  · exact nomatch hdirectory.symm.trans h
  · exact nomatch hdirectory.symm.trans h

theorem Offers.ne_nil {content : Bytes} {executable : Bool} (h : fs.Offers place content executable) :
    place ≠ [] :=
  ne_nil_of_get? h.not_directory

end FileSystem

namespace Task

variable {α β : Type} {task : Task α} {directory : Place} {files files' files'' : FileSystem}
  {value : α} {path : Path} {place : Place} {content bytes : Bytes} {executable : Bool}

/-- A task of a process that runs alone comes to its end, from some files and with others, and gives a
    value. -/
def Does (task : Task α) (directory : Place) (files : FileSystem) (value : α)
    (files' : FileSystem) : Prop :=
  ∀ (next : α → Program) (host : Host), host.Alone directory files (task next) →
    host.Reaches fun host => host.Alone directory files' (next value)

theorem does_pure (value : α) : (pure value : Task α).Does directory files value files :=
  fun _ _ h => .here h

theorem Does.bind {following : α → Task β} {result : β} (h : task.Does directory files value files')
    (h' : (following value).Does directory files' result files'') :
    (task >>= following).Does directory files result files'' :=
  fun next _ halone => (h (fun value => following value next) _ halone).trans (h' next)

/-- A task does one thing only. -/
theorem Does.unique {value' : α} (h : task.Does directory files value files')
    (h' : task.Does directory files value' files'') : files'' = files' := by
  have halone := Host.alone_single directory files (task fun _ => .exit 0)
  obtain ⟨first, hgoes, hfirst⟩ := h (fun _ => .exit 0) _ halone
  obtain ⟨second, hgoes', hsecond⟩ := h' (fun _ => .exit 0) _ halone
  exact hfirst.files_unique hsecond hgoes hgoes'

/-! ## Questions -/

theorem does_inspect (path : Path) :
    (inspect path).Does directory files ((files.nodeAt directory path).map Host.infoOf) files :=
  fun _ _ h => h.inspect

theorem does_isFile (hplace : files.locate directory path = .ok place)
    (hfile : files.get? place = some (.file content executable)) :
    (isFile path).Does directory files true files := by
  refine (does_inspect path).bind ?_
  rw [FileSystem.nodeAt_eq_ok_iff.mpr ⟨place, hplace, hfile⟩]
  exact does_pure true

theorem does_not_isFile
    (h : ∀ content executable readable,
      files.nodeAt directory path ≠ .ok (.file content executable readable)) :
    (isFile path).Does directory files false files := by
  refine (does_inspect path).bind ?_
  cases hnode : files.nodeAt directory path with
  | error e => exact does_pure false
  | ok node =>
      cases node with
      | file content executable readable => exact absurd hnode (h content executable readable)
      | directory | pipe _ | device _ => exact does_pure false

theorem does_not_isDirectory (hplace : files.locate directory path = .ok place)
    (hnode : files.get? place ≠ some .directory) : (isDirectory path).Does directory files false files := by
  refine (does_inspect path).bind ?_
  cases hresult : files.nodeAt directory path with
  | error e => exact does_pure false
  | ok node =>
      obtain ⟨there, hthere, hget⟩ := FileSystem.nodeAt_eq_ok_iff.mp hresult
      cases node with
      | directory =>
          rw [← Except.ok.inj (hplace.symm.trans hthere)] at hget
          exact absurd hget hnode
      | file _ _ _ | pipe _ | device _ => exact does_pure false

/-! ## Whole files -/

theorem drop_length_take (bytes : Bytes) (count : Nat) :
    bytes.drop (bytes.take count).length = bytes.drop count := by
  have hdrop : (bytes.take count ++ bytes.drop count).drop (bytes.take count).length =
      bytes.drop count := List.drop_left
  rwa [List.take_append_drop] at hdrop

/-- A content is read in turns. -/
theorem readRest_reads {descriptor : Nat} {mode : OpenMode} (hmode : mode.reading = true)
    (hfile : files.get? place = some (.file content executable)) (rounds : Nat) {sofar : Bytes}
    {offset : Nat} {next : Except OsError Bytes → Program} {host : Host}
    (h : host.Holding directory files (readRest descriptor rounds sofar next) descriptor place mode
      offset) :
    host.Reaches fun host => ∃ offset', host.Holding directory files
      (next (.ok (sofar ++ (content.drop offset).take (rounds * readUnit)))) descriptor place mode
        offset' := by
  induction rounds generalizing sofar offset host with
  | zero =>
      refine .here ⟨offset, ?_⟩
      rw [Nat.zero_mul, List.take_zero, List.append_nil]
      exact h
  | succ rounds ih =>
      refine (Host.Holding.read h hmode hfile).trans fun host h => ?_
      generalize hunit : (content.drop offset).take readUnit = unit at h
      cases unit with
      | nil =>
          -- there is nothing behind the offset
          have hrest : content.drop offset = [] := by
            rcases List.take_eq_nil_iff.mp hunit with hzero | hnil
            · exact absurd hzero (by decide)
            · exact hnil
          rw [hrest, List.take_nil, List.append_nil]
          exact .here ⟨_, h⟩
      | cons byte rest =>
          have hmore := ih h
          rw [← List.drop_drop, ← hunit, drop_length_take, List.append_assoc, ← List.take_add,
            Nat.add_comm readUnit, ← Nat.succ_mul] at hmore
          exact hmore

/-- How much of a file is read. -/
def sizeLimit : Nat := lifetime * readUnit

/-- **A file is read to its end.** -/
theorem does_load (hplace : files.locate directory path = .ok place)
    (hfile : files.get? place = some (.file content executable)) :
    (load path).Does directory files (.ok (content.take sizeLimit)) files := by
  intro next host h
  have hopen : ∀ host : Host, host.files = files →
      host.openPlace place .input = .ok (.place place, { host with files := files }) := by
    rintro host rfl
    rw [Host.openPlace, hfile]
    rfl
  refine (Host.Alone.open_ok h hplace hopen).trans fun host ⟨descriptor, h⟩ => ?_
  refine (readRest_reads rfl hfile lifetime h).trans fun host ⟨offset, h⟩ => ?_
  exact Host.Holding.close h

/-- A file that is opened for writing holds what stays of it. -/
theorem openPlace_of_offers {mode : OpenMode} (hcreating : mode.creating = true)
    (htruncating : mode.truncating = !mode.appending)
    (hoffers : files.Offers place content executable) :
    ∃ opened, (∀ host : Host, host.files = files →
        host.openPlace place mode = .ok (.place place, { host with files := opened })) ∧
      opened.get? place = some (.file (if mode.appending then content else []) executable) ∧
      ∀ node, opened.put place node = files.put place node := by
  have hput : ∀ node, (files.put place node).get? place = some node := by
    intro node
    rw [files.get?_put place place node hoffers.ne_nil, if_pos rfl]
  -- appending keeps what a file holds; otherwise it is emptied, or was not there
  cases happending : mode.appending with
  | true =>
      rw [happending] at htruncating
      rcases hoffers with hfile | ⟨hnone, rfl, rfl⟩
      · refine ⟨files, ?_, hfile, fun _ => rfl⟩
        rintro host rfl
        rw [Host.openPlace, hfile]
        simp only [htruncating, Bool.not_true, Bool.and_false, Bool.false_eq_true, if_false]
      · refine ⟨files.put place (.file [] false), ?_, hput _, files.put_put place _⟩
        rintro host rfl
        rw [Host.openPlace, hnone]
        simp only [hcreating, if_true]
  | false =>
      rw [happending] at htruncating
      refine ⟨files.put place (.file [] executable), ?_, hput _, files.put_put place _⟩
      rintro host rfl
      rcases hoffers with hfile | ⟨hnone, rfl, rfl⟩
      · rw [Host.openPlace, hfile]
        simp only [htruncating, Bool.not_true, Bool.and_false, Bool.false_eq_true, if_false,
          Bool.not_false, if_true]
      · rw [Host.openPlace, hnone]
        simp only [hcreating, if_true]

/-- What is written at the end of a content stands behind it. -/
theorem overwrite_end (content bytes : Bytes) :
    Host.overwrite content content.length bytes = content ++ bytes := by
  simp [Host.overwrite]

/-- **Bytes are written to a file**, behind what it holds or in its place. -/
theorem does_save (mode : OpenMode) (hwriting : mode.writing = true) (hcreating : mode.creating = true)
    (htruncating : mode.truncating = !mode.appending)
    (hplace : files.locate directory path = .ok place)
    (hoffers : files.Offers place content executable) (bytes : Bytes) :
    (save path mode bytes).Does directory files (.ok ())
      (files.put place (.file ((if mode.appending then content else []) ++ bytes) executable)) := by
  intro next host h
  obtain ⟨opened, hopen, hfile, hput⟩ := openPlace_of_offers hcreating htruncating hoffers
  refine (Host.Alone.open_ok h hplace hopen).trans fun host ⟨descriptor, h⟩ => ?_
  refine (Host.Holding.write h hwriting hfile).trans fun host ⟨offset, h⟩ => ?_
  have hoffset : (if mode.appending then (if mode.appending then content else []).length else 0) =
      (if mode.appending then content else []).length := by
    split <;> rfl
  rw [hoffset, overwrite_end, hput] at h
  have hclose : host.Holding directory _ (.change (.close descriptor) fun _ => next (.ok ())) descriptor
      place mode offset := h
  exact hclose.close

/-- Nothing is written where a path leads nowhere. -/
theorem does_save_error {mode : OpenMode} {e : OsError}
    (hplace : files.locate directory path = .error e) (bytes : Bytes) :
    (save path mode bytes).Does directory files (.error e) files := by
  intro next host h
  refine Host.Alone.open_error h fun host hfiles => ?_
  rw [hfiles, hplace]
  rfl

/-! ## Tasks that come to an end on plain files -/

theorem offers_or_directory (hplain : ∀ node, files.get? place = some node → node.IsPlain) :
    (∃ content executable, files.Offers place content executable) ∨
      files.get? place = some .directory := by
  cases hnode : files.get? place with
  | none => exact .inl ⟨[], false, .inr ⟨hnode, rfl, rfl⟩⟩
  | some node =>
      cases node with
      | file content executable readable =>
          obtain rfl : readable = true := hplain _ hnode
          exact .inl ⟨content, executable, .inl hnode⟩
      | directory => exact .inr rfl
      | pipe _ | device _ => exact absurd (hplain _ hnode) id

/-- Loading comes to an end, whatever plain thing stands there. -/
theorem exists_does_load (hplain : ∀ place node, files.locate directory path = .ok place →
      files.get? place = some node → node.IsPlain) :
    ∃ result, (load path).Does directory files result files := by
  cases hplace : files.locate directory path with
  | error e =>
      refine ⟨.error e, fun next host h => Host.Alone.open_error h fun host hfiles => ?_⟩
      rw [hfiles, hplace]
      rfl
  | ok place =>
      cases hnode : files.get? place with
      | none =>
          refine ⟨.error .notFound, fun next host h => Host.Alone.open_error h fun host hfiles => ?_⟩
          rw [hfiles, hplace]
          show host.openPlace place .input = _
          rw [Host.openPlace, hfiles, hnode]
          rfl
      | some node =>
          cases node with
          | file content executable readable =>
              obtain rfl : readable = true := hplain place _ hplace hnode
              exact ⟨_, does_load hplace hnode⟩
          | directory =>
              refine ⟨.error .isDirectory, fun next host h => ?_⟩
              have hopen : ∀ host : Host, host.files = files →
                  host.openPlace place .input = .ok (.place place, { host with files := files }) := by
                rintro host rfl
                rw [Host.openPlace, hnode]
                rfl
              refine (Host.Alone.open_ok h hplace hopen).trans fun host ⟨descriptor, h⟩ => ?_
              -- opening a directory works, reading it does not
              have hread : host.Holding directory files (readRest descriptor lifetime []
                  fun content => .change (.close descriptor) fun _ => next content) descriptor place
                  .input 0 := h
              obtain ⟨rounds, hrounds⟩ : ∃ rounds, lifetime = rounds + 1 := ⟨lifetime - 1, by decide⟩
              rw [hrounds] at hread
              refine (hread.read_directory rfl hnode).trans fun host hclose => ?_
              exact Host.Holding.close hclose
          | pipe _ => exact absurd (hplain place _ hplace hnode) id
          | device _ => exact absurd (hplain place _ hplace hnode) id

/-- Saving comes to an end, and changes only what stands where the path leads. -/
theorem exists_does_save (mode : OpenMode) (hwriting : mode.writing = true)
    (hcreating : mode.creating = true) (htruncating : mode.truncating = !mode.appending)
    (hplain : ∀ place node, files.locate directory path = .ok place →
      files.get? place = some node → node.IsPlain) (bytes : Bytes) :
    ∃ result files', (save path mode bytes).Does directory files result files' ∧
      (files' = files ∨ ∃ place before written executable,
        files.locate directory path = .ok place ∧ files.Offers place before executable ∧
        files' = files.put place (.file written executable)) := by
  cases hplace : files.locate directory path with
  | error e => exact ⟨_, files, does_save_error hplace bytes, .inl rfl⟩
  | ok place =>
      rcases offers_or_directory fun node hnode => hplain place node hplace hnode with
        ⟨content, executable, hoffers⟩ | hdirectory
      · exact ⟨_, _, does_save mode hwriting hcreating htruncating hplace hoffers bytes,
          .inr ⟨place, _, _, _, rfl, hoffers, rfl⟩⟩
      · refine ⟨.error .isDirectory, files, fun next host h =>
          Host.Alone.open_error h fun host hfiles => ?_, .inl rfl⟩
        rw [hfiles, hplace]
        show host.openPlace place mode = _
        rw [Host.openPlace, hfiles, hdirectory]
        simp only [hwriting, if_true]

end Task

end Conformance
