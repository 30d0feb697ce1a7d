import Conformance.Proofs.Standin.Store

/-!
# What surrounds an answer

A client answers one request, but it does more than that: it makes the directories and the file of names
if they are missing, fetches the public key if it lacks it, and writes a line for each of its connections.
None of this makes a difference to the users whom the files stand for (`Store.prepare`,
`Store.announce`), as long as the copy of the public key is kept apart from what the stand-ins keep.
-/

namespace Conformance

open Conformance.Path (IsName)

variable {directory output place : Place} {line : Bytes} {fs fs' : FileSystem} {path : Path}

/-! ## Directories that are there -/

namespace FileSystem

/-- Nothing is made where something stands. -/
theorem within_make_error (hlast : path.pieces.getLast? ≠ some "")
    (hplace : fs.locate directory path = .ok place) (hthere : (fs.get? place).isSome = true)
    (node : Node) : fs.within directory (·.make path node) = .error .alreadyExists := by
  have hvacancy : ({ fs with home := directory } : FileSystem).vacancy path =
      .error .alreadyExists := by
    rw [locate] at hplace
    rw [vacancy]
    split_ifs at hplace ⊢ with hempty habsolute
    · rw [withoutEnd_eq hlast, walk_home, hplace]
      exact if_pos hthere
    · rw [withoutEnd_eq hlast, walk_home, hplace]
      exact if_pos hthere
  rw [within, make, hvacancy]

end FileSystem

namespace Task

/-- A directory that is there is not made. -/
theorem does_makeDirectories_cons {sofar : Path} {piece : String} {rest : List String}
    (hpiece : piece ≠ "") (hpath : path = if sofar = "" then piece else sofar ++ "/" ++ piece)
    (hlast : path.pieces.getLast? ≠ some "") (hplace : fs.locate directory path = .ok place)
    (hthere : fs.isDirectory place = true)
    (hrest : (makeDirectories path rest).Does directory fs true fs) :
    (makeDirectories sofar (piece :: rest)).Does directory fs true fs := by
  have hnode : fs.get? place = some .directory := by simpa [FileSystem.isDirectory] using hthere
  have hexists := FileSystem.within_make_error hlast hplace (by rw [hnode]; rfl) .directory
  have hchange : (Task.change (.makeDirectory path)).Does directory fs (.error .alreadyExists) fs :=
    fun _ _ h => h.change_error (fun _ _ => rfl) hexists
  have hthere : (isDirectory path).Does directory fs true fs := by
    refine (does_inspect path).bind ?_
    rw [FileSystem.nodeAt_eq_ok_iff.mpr ⟨place, hplace, hnode⟩]
    exact does_pure true
  rw [makeDirectories, if_neg hpiece, ← hpath]
  exact hchange.bind (hthere.bind hrest)

/-- Asking for a file gives an answer and changes nothing. -/
theorem exists_does_isFile (directory : Place) (fs : FileSystem) (path : Path) :
    ∃ there, (isFile path).Does directory fs there fs := by
  have hinspect : (inspect path).Does directory fs ((fs.nodeAt directory path).map Host.infoOf) fs :=
    does_inspect path
  cases hnode : (fs.nodeAt directory path).map Host.infoOf with
  | ok info => exact ⟨_, (hnode ▸ hinspect).bind (does_pure _)⟩
  | error e => exact ⟨_, (hnode ▸ hinspect).bind (does_pure _)⟩

end Task

namespace Standin

/-- A path that leads to nothing that the stand-ins keep, and to no pipe or device. -/
def LeadsOutside (directory : Place) (fs : FileSystem) (path : Path) : Prop :=
  ∀ place, fs.locate directory path = .ok place →
    ¬ directory ++ [".fake"] <+: place ∧ ∀ node, fs.get? place = some node → node.IsPlain

/-- It does so too when a file is written anywhere. -/
theorem LeadsOutside.put {content : Bytes} {executable : Bool} (h : LeadsOutside directory fs path)
    (hoffers : fs.Offers place content executable) (bytes : Bytes) (mode : Bool) :
    LeadsOutside directory (fs.put place (.file bytes mode)) path := by
  have hdirectory := FileSystem.isDirectory_put_file hoffers.not_directory bytes mode
  intro other hother
  obtain ⟨houtside, hplain⟩ := h other
    (FileSystem.locate_of_isDirectory (fun place => (hdirectory place).symm) hother)
  refine ⟨houtside, fun node hnode => ?_⟩
  rw [fs.get?_put place other _ hoffers.ne_nil] at hnode
  split at hnode
  · rw [← Option.some.inj hnode]
    rfl
  · exact hplain node hnode

/-- Where a line for each connection is written. -/
def wirePlace (directory : Place) : Place := directory ++ [".fake", "wire"]

theorem Installed.locate_tree (h : Installed directory line output fs) (path : Path) (tree : Place)
    (htree : tree ∈ treeNames) (hempty : path ≠ "") (hrelative : path.isAbsolute = false)
    (hpieces : path.pieces = tree) : fs.locate directory path = .ok (directory ++ tree) := by
  rw [locate_of_relative tree hempty hrelative hpieces, ← List.append_nil tree, h.walk_tree htree,
    List.append_nil]
  rfl

theorem Installed.locate_wireFile (h : Installed directory line output fs) :
    fs.locate directory wireFile = .ok (wirePlace directory) :=
  h.locate_in_tree wireFile [".fake"] "wire" (by decide) (by decide) (by decide) (by decide)
    (by decide)

namespace Store

variable {accounts : List Account}

/-- **The trees are there**, so none of their directories is made. -/
theorem makeDirectories (h : Store directory line output fs accounts) {tree : String}
    (htree : tree = "users" ∨ tree = "content") :
    (Task.makeDirectories "" [".fake", "live", tree]).Does directory fs true fs := by
  have hlive : (Task.makeDirectories ".fake/live" [tree]).Does directory fs true fs := by
    rcases htree with rfl | rfl
    · exact Task.does_makeDirectories_cons (by decide) (by decide) (by decide)
        (h.toInstalled.locate_tree ".fake/live/users" _ (by decide) (by decide) (by decide)
          (by decide)) (h.trees [".fake", "live", "users"] (by decide)) (Task.does_pure true)
    · exact Task.does_makeDirectories_cons (by decide) (by decide) (by decide)
        (h.toInstalled.locate_tree ".fake/live/content" _ (by decide) (by decide) (by decide)
          (by decide)) (h.trees [".fake", "live", "content"] (by decide)) (Task.does_pure true)
  have hfake : (Task.makeDirectories ".fake" ["live", tree]).Does directory fs true fs :=
    Task.does_makeDirectories_cons (by decide) (by decide) (by decide)
      (h.toInstalled.locate_tree ".fake/live" _ (by decide) (by decide) (by decide) (by decide))
      (h.trees [".fake", "live"] (by decide)) hlive
  exact Task.does_makeDirectories_cons (by decide) (by decide) (by decide)
    (h.toInstalled.locate_tree ".fake" _ (by decide) (by decide) (by decide) (by decide))
    (h.trees [".fake"] (by decide)) hfake

/-- The file of names is touched. -/
theorem touch (h : Store directory line output fs accounts) :
    ∃ fs', (Task.save orderFile .append []).Does directory fs (.ok ()) fs' ∧
      Store directory line output fs' accounts ∧
      ∀ path, LeadsOutside directory fs path → LeadsOutside directory fs' path := by
  have hoffers : fs.Offers (orderPlace directory) (orderBytes (accounts.map Account.name)) false :=
    .inl h.order
  have hsave := Task.does_save .append rfl rfl rfl h.toInstalled.locate_orderFile hoffers []
  refine ⟨_, hsave, h.same ?_ fun names _ => ?_, fun path hpath => hpath.put hoffers _ _⟩
  · exact h.toInstalled.put _ _ hoffers
      (fun _ _ => FileSystem.isName_of_mem_getLast? (by decide : IsName "order") [".fake", "live"])
      (by simp [pointerPlace, orderPlace])
  · rw [fs.get?_put _ _ _ hoffers.ne_nil]
    split
    · next hplace =>
        rw [hplace, h.order, List.append_nil]
        rfl
    · rfl

/-- **A line for a connection is none of the store's.** -/
theorem announce (h : Store directory line output fs accounts) (word : String) :
    ∃ fs', (writeLine wireFile .append word).Does directory fs () fs' ∧
      Store directory line output fs' accounts ∧
      ∀ path, LeadsOutside directory fs path → LeadsOutside directory fs' path := by
  have hplace := h.toInstalled.locate_wireFile
  obtain ⟨result, fs', hsave, hfs'⟩ := Task.exists_does_save .append rfl rfl rfl
    (fun place node hlocate hnode => h.orderly.plain place node
      (Except.ok.inj (hplace.symm.trans hlocate) ▸
        (List.prefix_append_right_inj directory).mpr ⟨["wire"], rfl⟩) hnode)
    (Text.echoLine word)
  refine ⟨fs', hsave.bind (Task.does_pure ()), ?_⟩
  rcases hfs' with rfl | ⟨place, before, written, executable, hlocate, hoffers, rfl⟩
  · exact ⟨h, fun _ hpath => hpath⟩
  · obtain rfl : wirePlace directory = place := Except.ok.inj (hplace.symm.trans hlocate)
    refine ⟨h.putOther hoffers (by simp [pointerPlace, wirePlace]) ?_ (fun _ _ =>
      FileSystem.isName_of_mem_getLast? (by decide : IsName "wire") [".fake"]) _ _,
      fun path hpath => hpath.put hoffers _ _⟩
    exact fun hlive => absurd ((List.prefix_append_right_inj directory).mp hlive) (by decide)

/-- Neither is the copy of the public key. -/
theorem saveKey (h : Store directory line output fs accounts)
    (hpath : LeadsOutside directory fs path) (word : String) :
    ∃ fs', (writeLine path .output word).Does directory fs () fs' ∧
      Store directory line output fs' accounts := by
  obtain ⟨result, fs', hsave, hfs'⟩ := Task.exists_does_save .output rfl rfl rfl
    (fun place node hlocate hnode => (hpath place hlocate).2 node hnode) (Text.echoLine word)
  refine ⟨fs', hsave.bind (Task.does_pure ()), ?_⟩
  rcases hfs' with rfl | ⟨place, before, written, executable, hlocate, hoffers, rfl⟩
  · exact h
  · exact h.putOutside hoffers (hpath place hlocate).1 _ _

/-- **Making what is missing leaves the users as they are.** -/
theorem prepare (h : Store directory line output fs accounts) (options : Client.Options)
    (hkey : LeadsOutside directory fs options.keyFile) :
    ∃ fs', (Client.prepare options).Does directory fs () fs' ∧
      Store directory line output fs' accounts := by
  have husers := h.makeDirectories (Or.inl rfl)
  have hcontent := h.makeDirectories (Or.inr rfl)
  obtain ⟨touched, htouch, h₁, houtside₁⟩ := h.touch
  obtain ⟨there, hthere⟩ := Task.exists_does_isFile directory touched options.keyFile
  -- the key is fetched or not, and a line is written just if it is
  have hfetch : ∃ fs', (if !there then do
        writeLine wireFile .append keyWord
        writeLine options.keyFile .output "public"
      else pure () : Task Unit).Does directory touched () fs' ∧
        Store directory line output fs' accounts := by
    cases there with
    | true => exact ⟨touched, Task.does_pure (), h₁⟩
    | false =>
        obtain ⟨announced, hannounce, h₂, houtside₂⟩ := h₁.announce keyWord
        obtain ⟨fs', hsave, h₃⟩ := h₂.saveKey (houtside₂ _ (houtside₁ _ hkey)) "public"
        exact ⟨fs', hannounce.bind hsave, h₃⟩
  obtain ⟨fs', hrest, h'⟩ := hfetch
  exact ⟨fs', husers.bind (hcontent.bind (htouch.bind (hthere.bind hrest))), h'⟩

end Store

end Standin

end Conformance
