import Conformance.Proofs.Machine.Trees
import Conformance.Proofs.Standin.Writer
import Conformance.Standin.Client

/-!
# What the stand-in client keeps

Users are kept as files: one with the names in order, and for each user one with the password and
perhaps one with a content. `Store` says that the files stand for a list of users; registering a user
adds one to the list (`Store.register`), and a content can be put to any user whose name is short enough
for a file (`Store.putContent`).
-/

namespace Conformance

open FileSystem (LeadsInto Orderly SameOutside)
open Conformance.Path (IsName)

namespace Standin

/-! ## Places -/

/-- The directories that the client finds, or makes before it answers. -/
def treeNames : List Place :=
  [[], [".fake"], [".fake", "live"], [".fake", "live", "users"], [".fake", "live", "content"]]

/-- Where the file stands that holds the name of the directory file. -/
def pointerPlace (directory : Place) : Place := directory ++ [".fake", "dirfile"]

/-- Where the file of names stands. -/
def orderPlace (directory : Place) : Place := directory ++ [".fake", "live", "order"]

/-- Where the password of a user stands. -/
def passwordPlace (directory : Place) (user : String) : Place :=
  directory ++ [".fake", "live", "users", user]

/-- Where the content of a user stands. -/
def contentPlace (directory : Place) (user : String) : Place :=
  directory ++ [".fake", "live", "content", user]

/-- The path of the directory file, as it is kept. -/
def outputPath (line : Bytes) : Path := Text.decode (withoutFeeds line)

/-- The stand-ins are set up in a directory: their trees are there, and a line names a directory file that
    can be written, outside of what the stand-ins keep. -/
structure Installed (directory : Place) (line : Bytes) (output : Place) (fs : FileSystem) : Prop where
  orderly : Orderly (directory ++ [".fake"]) fs
  trees : ∀ names ∈ treeNames, fs.isDirectory (directory ++ names) = true
  pointer : ∃ executable, fs.get? (pointerPlace directory) = some (.file line executable)
  small : line.length < 2 ^ 63
  down : ".." ∉ (outputPath line).pieces
  leads : fs.locate directory (outputPath line) = .ok output
  outside : ¬ directory ++ [".fake"] <+: output
  offers : ∃ content executable, fs.Offers output content executable

variable {directory output : Place} {line : Bytes} {fs fs' : FileSystem} {user : String}

/-! ## Paths -/

theorem locate_of_relative {path : Path} (pieces : List String) (hempty : path ≠ "")
    (hrelative : path.isAbsolute = false) (hpieces : path.pieces = pieces) :
    fs.locate directory path = fs.walk directory pieces := by
  rw [FileSystem.locate, if_neg hempty, hrelative, hpieces]
  rfl

/-- A path of names leads below each place on its way. -/
theorem leadsInto_of_names {path : Path} (front back : List String) (hempty : path ≠ "")
    (hrelative : path.isAbsolute = false) (hpieces : path.pieces = front ++ back)
    (hnames : ∀ name ∈ front ++ back, IsName name) :
    LeadsInto directory (directory ++ front) path where
  nonempty := hempty
  last := by
    rw [hpieces]
    exact fun hlast => (hnames "" (List.mem_of_getLast? hlast)).nonempty rfl
  below fs place hplace := by
    rw [locate_of_relative (front ++ back) hempty hrelative hpieces] at hplace
    obtain rfl := FileSystem.eq_of_walk_names hnames hplace
    have hne : front ++ back ≠ [] := hpieces ▸ path.pieces_ne_nil
    refine ⟨?_, fun name hname => ?_⟩
    · rw [← List.append_assoc]
      exact List.prefix_append _ back
    · rw [List.getLast?_append_of_ne_nil _ hne] at hname
      exact hnames name (List.mem_of_getLast? hname)

theorem leadsInto_savedTree (directory : Place) :
    LeadsInto directory (directory ++ [".fake", "saved"]) savedTree :=
  leadsInto_of_names [".fake", "saved"] [] (by decide) (by decide) (by decide) (by decide)

theorem leadsInto_liveTree (directory : Place) :
    LeadsInto directory (directory ++ [".fake"]) liveTree :=
  leadsInto_of_names [".fake"] ["live"] (by decide) (by decide) (by decide) (by decide)

namespace Installed

/-- Down to each of the trees the way is open. -/
theorem walk_tree (h : Installed directory line output fs) {tree : Place} (htree : tree ∈ treeNames)
    (rest : List String) : fs.walk directory (tree ++ rest) = fs.walk (directory ++ tree) rest := by
  have hnames : ∀ tree ∈ treeNames, ∀ name ∈ tree, IsName name ∧ Text.byteLength name ≤ 255 := by
    decide
  have habove : ∀ tree ∈ treeNames, ∀ front ∈ tree.inits, front ∈ treeNames := by decide
  refine FileSystem.walk_directories (hnames tree htree) (fun front hfront => ?_) rest
  exact h.trees front (habove tree htree front ((List.mem_inits front tree).mpr hfront))

/-- A file in one of the trees stands at its place, unless its name is too long for a file. -/
theorem locate_in_tree (h : Installed directory line output fs) (path : Path) (tree : Place)
    (name : String) (htree : tree ∈ treeNames) (hempty : path ≠ "")
    (hrelative : path.isAbsolute = false) (hpieces : path.pieces = tree ++ [name])
    (hname : IsName name) :
    fs.locate directory path = if 255 < Text.byteLength name then .error .nameTooLong
      else .ok (directory ++ (tree ++ [name])) := by
  rw [locate_of_relative _ hempty hrelative hpieces, h.walk_tree htree,
    FileSystem.walk_last hname (h.trees tree htree), List.append_assoc]

theorem locate_orderFile (h : Installed directory line output fs) :
    fs.locate directory orderFile = .ok (orderPlace directory) :=
  h.locate_in_tree orderFile [".fake", "live"] "order" (by decide) (by decide) (by decide) (by decide)
    (by decide)

theorem locate_nameFile (h : Installed directory line output fs) :
    fs.locate directory nameFile = .ok (pointerPlace directory) :=
  h.locate_in_tree nameFile [".fake"] "dirfile" (by decide) (by decide) (by decide) (by decide) (by decide)

/-- A user's file is one of the files in a tree. -/
theorem locate_slash (h : Installed directory line output fs) (front : Path) (tree : Place)
    (htree : tree ∈ treeNames) (hempty : front ≠ "") (hrelative : front.isAbsolute = false)
    (hpieces : front.pieces = tree) (huser : IsName user) :
    fs.locate directory (front ++ "/" ++ user) = if 255 < Text.byteLength user then .error .nameTooLong
      else .ok (directory ++ (tree ++ [user])) := by
  refine h.locate_in_tree _ tree user htree ?_ ?_ ?_ huser
  · rw [String.append_assoc]
    exact fun heq => hempty (String.append_eq_empty_iff.mp heq).1
  · rw [String.append_assoc, Path.isAbsolute_append hempty, hrelative]
  · rw [Path.pieces_slash, hpieces, huser.pieces]

theorem locate_passwordFile (h : Installed directory line output fs) (huser : IsName user) :
    fs.locate directory (passwordFile user) = if 255 < Text.byteLength user then .error .nameTooLong
      else .ok (passwordPlace directory user) :=
  h.locate_slash ".fake/live/users" [".fake", "live", "users"] (by decide) (by decide) (by decide)
    (by decide) huser

theorem locate_contentFile (h : Installed directory line output fs) (huser : IsName user) :
    fs.locate directory (contentFile user) = if 255 < Text.byteLength user then .error .nameTooLong
      else .ok (contentPlace directory user) :=
  h.locate_slash ".fake/live/content" [".fake", "live", "content"] (by decide) (by decide) (by decide)
    (by decide) huser

/-! ## What stays installed -/

/-- What is installed stays so when a file is written, other than the one that names the directory
    file. -/
theorem put (h : Installed directory line output fs) (bytes : Bytes) (executable : Bool)
    {place : Place} {content : Bytes} {before : Bool} (hoffers : fs.Offers place content before)
    (hname : directory ++ [".fake"] <+: place → ∀ name ∈ place.getLast?, IsName name)
    (hpointer : pointerPlace directory ≠ place) :
    Installed directory line output (fs.put place (.file bytes executable)) := by
  have hdirectory := FileSystem.isDirectory_put_file hoffers.not_directory bytes executable
  have hget := fun other => fs.get?_put place other (.file bytes executable) hoffers.ne_nil
  obtain ⟨mode, hmode⟩ := h.pointer
  exact
    { orderly := h.orderly.put hoffers.ne_nil hname rfl
      trees := fun names hnames => (hdirectory _).trans (h.trees names hnames)
      pointer := ⟨mode, by rw [hget, if_neg hpointer, hmode]⟩
      small := h.small
      down := h.down
      leads := FileSystem.locate_of_isDirectory hdirectory h.leads
      outside := h.outside
      offers := by
        -- the directory file may be the very file that is written
        by_cases hsame : output = place
        · exact ⟨bytes, executable, .inl (by rw [hget, if_pos hsame])⟩
        · obtain ⟨content, executable, houtput⟩ := h.offers
          refine ⟨content, executable, ?_⟩
          rw [FileSystem.Offers, hget, if_neg hsame]
          exact houtput }

/-- What is installed stays so when the copy of the trees is made anew. -/
theorem sameOutside (h : Installed directory line output fs)
    (hsame : SameOutside (directory ++ [".fake", "saved"]) fs fs')
    (horderly : Orderly (directory ++ [".fake"]) fs') : Installed directory line output fs' := by
  have hget : ∀ names : Place, ¬ [".fake", "saved"] <+: names →
      fs'.get? (directory ++ names) = fs.get? (directory ++ names) := by
    intro names hnames
    refine hsame.get? _ fun hunder => hnames ?_
    exact (List.prefix_append_right_inj directory).mp hunder
  -- no place on the way to the directory file is in the copy, or the file would be there too
  have houtput : ∀ front, front <+: output → fs'.get? front = fs.get? front := by
    intro front hfront
    refine hsame.get? front fun hunder => h.outside ?_
    have hfake : directory ++ [".fake"] <+: directory ++ [".fake", "saved"] :=
      (List.prefix_append_right_inj directory).mpr ⟨["saved"], rfl⟩
    exact hfake.trans (hunder.trans hfront)
  obtain ⟨mode, hmode⟩ := h.pointer
  obtain ⟨content, executable, hoffers⟩ := h.offers
  exact
    { orderly := horderly
      trees := fun names hnames => by
        have hnot : ¬ [".fake", "saved"] <+: names :=
          (by decide : ∀ names ∈ treeNames, ¬ [".fake", "saved"] <+: names) names hnames
        rw [FileSystem.isDirectory, hget names hnot]
        exact h.trees names hnames
      pointer := ⟨mode, (hget [".fake", "dirfile"] (by decide)).trans hmode⟩
      small := h.small
      down := h.down
      leads := by
        refine FileSystem.locate_of_prefixes h.down (fun front hfront => ?_) h.leads
        rw [FileSystem.isDirectory, houtput front hfront]
        rfl
      outside := h.outside
      offers := ⟨content, executable, by
        rw [FileSystem.Offers, houtput output List.prefix_rfl]
        exact hoffers⟩ }

end Installed

/-! ## Users -/

/-- A user who was registered, and the content that is kept for the user, if there is one. -/
structure Account where
  name : String
  content : Option Bytes
deriving DecidableEq, Repr

/-- The record that the directory file is to have for the user. -/
def Account.record (account : Account) : Directory.Record :=
  recordOf (Text.encode account.name) (account.content.getD [])

/-- The users once one of them has a content. -/
def withContent (user : String) (bytes : Bytes) (accounts : List Account) : List Account :=
  accounts.map fun account =>
    if account.name = user then { account with content := some bytes } else account

theorem names_withContent (user : String) (bytes : Bytes) (accounts : List Account) :
    (withContent user bytes accounts).map Account.name = accounts.map Account.name := by
  rw [withContent, List.map_map]
  congr 1
  funext account
  exact (apply_ite Account.name _ _ _).trans (ite_self _)

/-- The files stand for users in the order in which they were registered. Users without a content have
    no file for it, and whoever is not registered has no files at all. -/
structure Store (directory : Place) (line : Bytes) (output : Place) (fs : FileSystem)
    (accounts : List Account) : Prop extends Installed directory line output fs where
  named : ∀ account ∈ accounts, IsUserName account.name
  order : fs.get? (orderPlace directory) =
    some (.file (orderBytes (accounts.map Account.name)) false)
  contents : ∀ account ∈ accounts,
    fs.get? (contentPlace directory account.name) = account.content.map (Node.file · false)
  short : ∀ account ∈ accounts, account.content ≠ none → Text.byteLength account.name ≤ 255
  free : ∀ user, IsUserName user → user ∉ accounts.map Account.name →
    fs.get? (passwordPlace directory user) = none ∧ fs.get? (contentPlace directory user) = none

namespace Store

variable {accounts : List Account}

/-- With a line for a new user, and perhaps a password, the files stand for one user more. -/
theorem add (h : Store directory line output fs accounts) (huser : IsUserName user)
    (hnew : user ∉ accounts.map Account.name) (hinstalled : Installed directory line output fs')
    (horder : fs'.get? (orderPlace directory) =
      some (.file (orderBytes (accounts.map Account.name) ++ Text.echoLine user) false))
    (hsame : ∀ place, place ≠ orderPlace directory → place ≠ passwordPlace directory user →
      fs'.get? place = fs.get? place) :
    Store directory line output fs' (accounts ++ [⟨user, none⟩]) := by
  have hcontent : ∀ other,
      fs'.get? (contentPlace directory other) = fs.get? (contentPlace directory other) := fun other =>
    hsame _ (by simp [contentPlace, orderPlace]) (by simp [contentPlace, passwordPlace])
  exact
    { hinstalled with
      named := by
        intro account haccount
        rcases List.mem_append.mp haccount with hold | hadded
        · exact h.named account hold
        · rw [List.mem_singleton.mp hadded]
          exact huser
      order := by
        rw [horder, List.map_append, List.map_singleton, orderBytes_append]
      contents := by
        intro account haccount
        rw [hcontent]
        rcases List.mem_append.mp haccount with hold | hadded
        · exact h.contents account hold
        · rw [List.mem_singleton.mp hadded]
          exact (h.free user huser hnew).2
      short := by
        intro account haccount hsome
        rcases List.mem_append.mp haccount with hold | hadded
        · exact h.short account hold hsome
        · rw [List.mem_singleton.mp hadded] at hsome
          exact absurd rfl hsome
      free := by
        intro other hother hnot
        rw [List.map_append, List.mem_append, not_or] at hnot
        have hne : other ≠ user := fun heq => hnot.2 (by rw [heq]; exact List.mem_cons_self)
        rw [hcontent, hsame _ (by simp [passwordPlace, orderPlace]) (by simpa [passwordPlace] using hne)]
        exact h.free other hother hnot.1 }

/-- A new user has no password yet. -/
theorem nothing_saved (h : Store directory line output fs accounts) (huser : IsUserName user)
    (hnew : user ∉ accounts.map Account.name) {place : Place}
    (hplace : fs.locate directory (passwordFile user) = .ok place) : fs.get? place = none := by
  rw [h.toInstalled.locate_passwordFile huser.toIsName] at hplace
  split at hplace
  · cases hplace
  · rw [← Except.ok.inj hplace]
    exact (h.free user huser hnew).1

/-- Saving the password of a new user changes nothing else, and with a long name nothing at all. -/
theorem savePassword (h : Store directory line output fs accounts) (huser : IsUserName user)
    (hnew : user ∉ accounts.map Account.name) (password : Bytes) :
    ∃ result middle,
      (Task.save (passwordFile user) .output password).Does directory fs result middle ∧
      Installed directory line output middle ∧
      ∀ place, place ≠ passwordPlace directory user → middle.get? place = fs.get? place := by
  have hplace := h.toInstalled.locate_passwordFile huser.toIsName
  by_cases hlong : 255 < Text.byteLength user
  · rw [if_pos hlong] at hplace
    exact ⟨_, fs, Task.does_save_error hplace password, h.toInstalled, fun _ _ => rfl⟩
  · rw [if_neg hlong] at hplace
    have hoffers : fs.Offers (passwordPlace directory user) [] false :=
      .inr ⟨(h.free user huser hnew).1, rfl, rfl⟩
    have hinstalled := h.toInstalled.put password false hoffers
      (fun _ _ => FileSystem.isName_of_mem_getLast? huser.toIsName [".fake", "live", "users"])
      (by simp [pointerPlace, passwordPlace])
    refine ⟨.ok (), _, Task.does_save .output rfl rfl rfl hplace hoffers password, hinstalled,
      fun other hother => ?_⟩
    rw [fs.get?_put _ other _ hoffers.ne_nil, if_neg hother]

/-- **Registering a new user** adds the user to the others. -/
theorem register (h : Store directory line output fs accounts) (options : Client.Options)
    (huser : IsUserName options.user)
    (hnew : options.user ∉ accounts.map Account.name) :
    ∃ fs', (Client.register options).Does directory fs .ok fs' ∧
      Store directory line output fs' (accounts ++ [⟨options.user, none⟩]) := by
  obtain ⟨result, middle, hsave, hinstalled, hsame⟩ :=
    h.savePassword huser hnew (Text.encode options.password)
  have horder : middle.Offers (orderPlace directory) (orderBytes (accounts.map Account.name)) false :=
    .inl ((hsame _ (by simp [orderPlace, passwordPlace])).trans h.order)
  have hget := fun place => middle.get?_put (orderPlace directory) place
    (.file (orderBytes (accounts.map Account.name) ++ Text.echoLine options.user) false) horder.ne_nil
  refine ⟨middle.put (orderPlace directory)
    (.file (orderBytes (accounts.map Account.name) ++ Text.echoLine options.user) false), ?_, ?_⟩
  · -- no password is there, so the name is free; the password is saved and the line is added
    refine (Task.does_not_isFile fun content executable readable hnode => ?_).bind ?_
    · obtain ⟨place, hplace, hfile⟩ := FileSystem.nodeAt_eq_ok_iff.mp hnode
      exact nomatch hfile.symm.trans (h.nothing_saved huser hnew hplace)
    · refine hsave.bind ?_
      have happend := Task.does_save .append rfl rfl rfl hinstalled.locate_orderFile horder
        (Text.echoLine options.user)
      have hline : (writeLine orderFile .append options.user).Does directory middle () _ :=
        happend.bind (Task.does_pure ())
      exact hline.bind (Task.does_pure _)
  · have hadded := hinstalled.put
      (orderBytes (accounts.map Account.name) ++ Text.echoLine options.user) false horder
      (fun _ _ => FileSystem.isName_of_mem_getLast? (by decide : IsName "order") [".fake", "live"])
      (by simp [pointerPlace, orderPlace])
    refine h.add huser hnew hadded ?_ fun place hplace hne => ?_
    · rw [hget, if_pos rfl]
    · rw [hget, if_neg hplace, hsame place hne]

/-! ## Contents and the directory file -/

theorem offers_content (h : Store directory line output fs accounts)
    (huser : user ∈ accounts.map Account.name) :
    ∃ content, fs.Offers (contentPlace directory user) content false := by
  obtain ⟨account, haccount, rfl⟩ := List.mem_map.mp huser
  have hcontent := h.contents account haccount
  cases hkept : account.content with
  | none => exact ⟨[], .inr ⟨by rw [hcontent, hkept]; rfl, rfl, rfl⟩⟩
  | some kept => exact ⟨kept, .inl (by rw [hcontent, hkept]; rfl)⟩

/-- **A content for a user** who has none or another one. -/
theorem putContent (h : Store directory line output fs accounts)
    (huser : user ∈ accounts.map Account.name) (hshort : Text.byteLength user ≤ 255) (bytes : Bytes) :
    Store directory line output (fs.put (contentPlace directory user) (.file bytes false))
      (withContent user bytes accounts) := by
  obtain ⟨account, haccount, hname⟩ := List.mem_map.mp huser
  have hisName := (h.named account haccount).toIsName
  obtain ⟨content, hoffers⟩ := h.offers_content huser
  have hget := fun place => fs.get?_put (contentPlace directory user) place (.file bytes false) hoffers.ne_nil
  have hinstalled := h.toInstalled.put bytes false hoffers
    (fun _ _ => FileSystem.isName_of_mem_getLast? (hname ▸ hisName) [".fake", "live", "content"])
    (by simp [pointerPlace, contentPlace])
  exact
    { hinstalled with
      named := by
        intro changed hchanged
        obtain ⟨before, hbefore, rfl⟩ := List.mem_map.mp hchanged
        rw [apply_ite Account.name, ite_self]
        exact h.named before hbefore
      order := by
        rw [hget, if_neg (by simp [orderPlace, contentPlace]), names_withContent]
        exact h.order
      contents := by
        intro changed hchanged
        obtain ⟨before, hbefore, rfl⟩ := List.mem_map.mp hchanged
        rw [hget]
        by_cases hsame : before.name = user
        · rw [if_pos hsame, if_pos (by rw [hsame])]
          rfl
        · rw [if_neg hsame, if_neg (by simpa [contentPlace] using hsame)]
          exact h.contents before hbefore
      short := by
        intro changed hchanged hsome
        obtain ⟨before, hbefore, rfl⟩ := List.mem_map.mp hchanged
        by_cases hsame : before.name = user
        · rw [if_pos hsame]
          exact hsame ▸ hshort
        · rw [if_neg hsame] at hsome ⊢
          exact h.short before hbefore hsome
      free := by
        intro other hother hnot
        rw [names_withContent] at hnot
        have hne : other ≠ user := fun heq => hnot (heq ▸ huser)
        rw [hget, hget, if_neg (by simp [passwordPlace, contentPlace]),
          if_neg (by simpa [contentPlace] using hne)]
        exact h.free other hother hnot }

/-- The client puts the content of a file, on request. -/
theorem setContent (h : Store directory line output fs accounts) (options : Client.Options)
    (huser : options.user ∈ accounts.map Account.name) (hshort : Text.byteLength options.user ≤ 255)
    {source : Place} {content : Bytes} {executable : Bool}
    (hplace : fs.locate directory options.param = .ok source)
    (hfile : fs.get? source = some (.file content executable))
    (hsize : content.length ≤ Directory.maxContentLength) :
    (Client.setContent options).Does directory fs .ok
      (fs.put (contentPlace directory options.user) (.file content false)) := by
  obtain ⟨account, haccount, hname⟩ := List.mem_map.mp huser
  have htarget := h.toInstalled.locate_contentFile (hname ▸ (h.named account haccount).toIsName)
  rw [if_neg (Nat.not_lt_of_le hshort)] at htarget
  obtain ⟨before, hoffers⟩ := h.offers_content huser
  have hload := Task.does_load hplace hfile
  rw [List.take_of_length_le (Nat.le_trans hsize (by decide))] at hload
  have hcopy : (Task.copyFile options.param (contentFile options.user)).Does directory fs true _ :=
    hload.bind ((Task.does_save .output rfl rfl rfl htarget hoffers content).bind (Task.does_pure true))
  have hcopyTo : (Client.copyTo options.param (contentFile options.user)).Does directory fs () _ :=
    ((Task.does_not_isDirectory htarget hoffers.not_directory).bind (Task.does_pure _)).bind
      (hcopy.bind (Task.does_pure ()))
  have hinspect : (Client.fileSize? options.param).Does directory fs (some content.length) fs := by
    refine (Task.does_inspect options.param).bind ?_
    rw [FileSystem.nodeAt_eq_ok_iff.mpr ⟨source, hplace, hfile⟩]
    exact Task.does_pure _
  -- the size is within bounds, so the copy is what is done
  refine hinspect.bind ?_
  show (if Directory.maxContentLength < content.length then _ else _ : Task Reply).Does _ _ _ _
  rw [if_neg (Nat.not_lt_of_le hsize)]
  exact hcopyTo.bind (Task.does_pure _)

/-- Where the places of the store are left alone, the files stand for the same users. -/
theorem same (h : Store directory line output fs accounts)
    (hinstalled : Installed directory line output fs')
    (hsame : ∀ names : Place, [".fake", "live"] <+: names →
      fs'.get? (directory ++ names) = fs.get? (directory ++ names)) :
    Store directory line output fs' accounts := by
  have hpassword : ∀ user,
      fs'.get? (passwordPlace directory user) = fs.get? (passwordPlace directory user) :=
    fun user => hsame [".fake", "live", "users", user] ⟨_, rfl⟩
  have hcontent : ∀ user,
      fs'.get? (contentPlace directory user) = fs.get? (contentPlace directory user) :=
    fun user => hsame [".fake", "live", "content", user] ⟨_, rfl⟩
  exact
    { hinstalled with
      named := h.named
      order := (hsame [".fake", "live", "order"] (by decide)).trans h.order
      contents := fun account haccount => (hcontent _).trans (h.contents account haccount)
      short := h.short
      free := fun user huser hnot => by
        rw [hpassword, hcontent]
        exact h.free user huser hnot }

/-- Whatever file is written that is neither in the tree nor names the directory file, the files stand
    for the same users. -/
theorem putOther (h : Store directory line output fs accounts) {place : Place} {content : Bytes}
    {executable : Bool} (hoffers : fs.Offers place content executable)
    (hpointer : pointerPlace directory ≠ place) (hlive : ¬ directory ++ [".fake", "live"] <+: place)
    (hname : directory ++ [".fake"] <+: place → ∀ name ∈ place.getLast?, IsName name)
    (bytes : Bytes) (mode : Bool) :
    Store directory line output (fs.put place (.file bytes mode)) accounts := by
  refine h.same (h.toInstalled.put bytes mode hoffers hname hpointer) fun names hnames => ?_
  have hne : directory ++ names ≠ place := fun heq =>
    hlive (heq ▸ (List.prefix_append_right_inj directory).mpr hnames)
  rw [fs.get?_put place _ _ hoffers.ne_nil, if_neg hne]

/-- A file outside of what the stand-ins keep is none of the store's. -/
theorem putOutside (h : Store directory line output fs accounts) {place : Place} {content : Bytes}
    {executable : Bool} (hoffers : fs.Offers place content executable)
    (houtside : ¬ directory ++ [".fake"] <+: place) (bytes : Bytes) (mode : Bool) :
    Store directory line output (fs.put place (.file bytes mode)) accounts := by
  have hunder (names : Place) : directory ++ [".fake"] <+: directory ++ ".fake" :: names :=
    (List.prefix_append_right_inj directory).mpr ⟨names, rfl⟩
  exact h.putOther hoffers (fun heq => houtside (heq ▸ hunder ["dirfile"]))
    (fun hlive => houtside ((hunder ["live"]).trans hlive)) (fun hin => absurd hin houtside) bytes mode

/-- The directory file is one of those. -/
theorem putOutput (h : Store directory line output fs accounts) (bytes : Bytes) {content : Bytes}
    {executable : Bool} (hoffers : fs.Offers output content executable) (mode : Bool) :
    Store directory line output (fs.put output (.file bytes mode)) accounts :=
  h.putOutside hoffers h.outside bytes mode

/-- The copy of the trees is none of the store either. -/
theorem sameOutside (h : Store directory line output fs accounts)
    (hsame : SameOutside (directory ++ [".fake", "saved"]) fs fs')
    (horderly : Orderly (directory ++ [".fake"]) fs') : Store directory line output fs' accounts := by
  refine h.same (h.toInstalled.sameOutside hsame horderly) fun names hnames => ?_
  refine hsame.get? _ fun hunder => ?_
  have hsaved := (List.prefix_append_right_inj directory).mp hunder
  exact absurd (List.prefix_of_prefix_length_le hsaved hnames (Nat.le_refl 2)) (by decide)

end Store

end Standin

end Conformance
