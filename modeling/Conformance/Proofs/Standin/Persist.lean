import Conformance.Proofs.Standin.Visit

/-!
# The directory file that the stand-in client writes

However users were registered and whatever contents were put to them, the client's directory file is what
the library's encoder makes of one record for each of them, in the order of registration
(`persist_encodes`). One name is the exception: the shell's `echo` takes `-n` for an option, so its user
is registered, but not written down among the others, and gets no record (`persist_leaves_out`).
-/

namespace Conformance.Standin

open Directory (Record)

variable {directory output : Place} {line : Bytes} {fs fs' : FileSystem} {accounts : List Account}
  {content sofar : Bytes} {executable : Bool}

/-- Files are small: their sizes are numbers that the shell calculates with. -/
theorem le_sizeLimit {n : Nat} (h : n < 2 ^ 63) : n ≤ Task.sizeLimit :=
  Nat.le_of_lt (Nat.lt_of_lt_of_le h (by decide))

theorem does_loadOrNothing {path : Path} {place : Place}
    (hplace : fs.locate directory path = .ok place)
    (hfile : fs.get? place = some (.file content executable)) (hsmall : content.length < 2 ^ 63) :
    (loadOrNothing path).Does directory fs content fs := by
  have hload := Task.does_load hplace hfile
  rw [List.take_of_length_le (le_sizeLimit hsmall)] at hload
  exact hload.bind (Task.does_pure content)

/-- The users who get a record: all but one whose name is taken for an option. -/
def recorded (accounts : List Account) : List Account :=
  accounts.filter fun account => account.name ≠ optionName

/-- The directory file for users, as the library's encoder writes it. -/
def directoryOf (accounts : List Account) : Bytes :=
  Directory.encode ((recorded accounts).map Account.record)

theorem le_encodedLength (account : Account) :
    Text.byteLength account.name + 1 ≤ account.record.encodedLength ∧
      (account.content.getD []).length ≤ account.record.encodedLength := by
  have hround := Directory.le_roundUp account.record.rawLength
  have hraw := rawLength_recordOf (Text.encode account.name) (account.content.getD [])
  change account.record.rawLength = _ at hraw
  rw [Record.encodedLength, Text.byteLength]
  omega

/-- No record is longer than the directory file. -/
theorem encodedLength_le {account : Account} (haccount : account ∈ recorded accounts) :
    account.record.encodedLength ≤ (directoryOf accounts).length := by
  rw [directoryOf, Directory.length_encode]
  refine List.single_le_sum (fun _ _ => Nat.zero_le _) _ ?_
  exact List.mem_map_of_mem (List.mem_map_of_mem haccount)

/-- The file of names is no longer than the directory file either. -/
theorem length_orderBytes_le (hnamed : ∀ account ∈ accounts, IsUserName account.name) :
    (orderBytes (accounts.map Account.name)).length ≤ (directoryOf accounts).length := by
  induction accounts with
  | nil => exact Nat.le_refl 0
  | cons account rest ih =>
      have hrest := ih fun other hother => hnamed other (List.mem_cons_of_mem account hother)
      rw [List.map_cons, orderBytes, List.flatMap_cons, List.length_append]
      -- a name that is taken for an option adds to neither file
      by_cases hoption : account.name = optionName
      · rw [hoption, echoLine_optionName, directoryOf, recorded,
          List.filter_cons_of_neg (by simpa using hoption), List.length_nil, Nat.zero_add]
        exact hrest
      · have hname := hnamed account List.mem_cons_self
        have hline := (le_encodedLength account).1
        rw [echoLine_of_ne hname.noBackslash hoption, directoryOf, recorded,
          List.filter_cons_of_pos (by simpa using hoption), List.map_cons, Directory.encode_cons,
          List.length_append, List.length_append, Directory.length_encoded]
        exact Nat.add_le_add hline hrest

namespace Store

/-- What is looked up of a user is the content, if there is one. -/
theorem storedContent (h : Store directory line output fs accounts) {account : Account}
    (haccount : account ∈ accounts) (hsmall : (account.content.getD []).length < 2 ^ 63) :
    (Client.storedContent (Text.encode account.name)).Does directory fs (account.content.getD []) fs := by
  have hlocate := h.toInstalled.locate_contentFile (h.named account haccount).toIsName
  have hkept := h.contents account haccount
  unfold Client.storedContent
  rw [Text.decode_encode]
  cases hcontent : account.content with
  | none =>
      rw [hcontent] at hkept
      refine (Task.does_not_isFile fun content executable readable hnode => ?_).bind (Task.does_pure [])
      obtain ⟨place, hplace, hfile⟩ := FileSystem.nodeAt_eq_ok_iff.mp hnode
      rw [hlocate] at hplace
      split at hplace
      · cases hplace
      · rw [← Except.ok.inj hplace, hkept] at hfile
        cases hfile
  | some bytes =>
      rw [hcontent] at hkept hsmall
      have hshort := h.short account haccount (by rw [hcontent]; exact nofun)
      rw [if_neg (Nat.not_lt_of_le hshort)] at hlocate
      exact (Task.does_isFile hlocate hkept).bind (does_loadOrNothing hlocate hkept hsmall)

/-- **Record after record is written** behind what the directory file holds. -/
theorem writeRecords (h : Store directory line output fs accounts) (members : List Account)
    (hmembers : ∀ account ∈ members, account ∈ accounts ∧ (account.content.getD []).length < 2 ^ 63)
    (houtput : fs.get? output = some (.file sofar executable)) :
    ∃ fs', (Client.writeRecords (outputPath line)
        (members.map fun account => Text.encode account.name)).Does directory fs () fs' ∧
      Store directory line output fs' accounts ∧
      fs'.get? output =
        some (.file (sofar ++ Directory.encode (members.map Account.record)) executable) := by
  induction members generalizing fs sofar with
  | nil =>
      refine ⟨fs, Task.does_pure (), h, ?_⟩
      rw [houtput, List.map_nil, Directory.encode_nil, List.append_nil]
  | cons account rest ih =>
      obtain ⟨haccount, hsmall⟩ := hmembers account List.mem_cons_self
      have hoffers : fs.Offers output sofar executable := .inl houtput
      have hrecord := Task.does_save .append rfl rfl rfl h.leads hoffers
        (recordBytes (Text.encode account.name) (account.content.getD []))
      have hstore := h.putOutput
        (sofar ++ recordBytes (Text.encode account.name) (account.content.getD [])) hoffers executable
      obtain ⟨fs', hdoes, hstore', houtput'⟩ := ih hstore
        (fun other hother => hmembers other (List.mem_cons_of_mem account hother))
        (by rw [fs.get?_put output output _ hoffers.ne_nil, if_pos rfl])
      refine ⟨fs', (h.storedContent haccount hsmall).bind (hrecord.bind hdoes), hstore', ?_⟩
      rw [houtput', recordBytes_eq, List.map_cons, Directory.encode_cons, List.append_assoc]
      rfl

/-- **Writing the directory file** leaves the users as they are, and a record for each of them. -/
theorem persist (h : Store directory line output fs accounts)
    (hsmall : (directoryOf accounts).length < 2 ^ 63) :
    ∃ fs' executable, Client.persist.Does directory fs .ok fs' ∧
      Store directory line output fs' accounts ∧
      fs'.get? output = some (.file (directoryOf accounts) executable) := by
  have hfake : directory ++ [".fake"] <+: directory ++ [".fake", "saved"] :=
    (List.prefix_append_right_inj directory).mpr ⟨["saved"], rfl⟩
  obtain ⟨mode, hpointer⟩ := h.pointer
  have hline := does_loadOrNothing h.toInstalled.locate_nameFile hpointer h.small
  -- the copy of the trees is made anew, and nothing else is touched
  obtain ⟨_, cleared, hclear, -, hcleared, horderly⟩ :=
    Task.keeps_removeTree hfake Task.deepest (leadsInto_savedTree directory) fs h.orderly
  obtain ⟨_, copied, hcopy, -, hcopied, horderly⟩ :=
    Task.keeps_copyTree hfake Task.deepest (leadsInto_liveTree directory)
      (leadsInto_savedTree directory) cleared horderly
  have hstore := h.sameOutside (hcleared.trans hcopied) horderly
  -- the directory file is made empty
  obtain ⟨before, executable, hoffers⟩ := hstore.offers
  have hempty := Task.does_save .output rfl rfl rfl hstore.leads hoffers []
  have hstore := hstore.putOutput [] hoffers executable
  have horder := does_loadOrNothing hstore.toInstalled.locate_orderFile hstore.order
    (Nat.lt_of_le_of_lt (length_orderBytes_le h.named) hsmall)
  -- and it is filled with a record for each line of the file of names
  have hlines : feedLines (orderBytes (accounts.map Account.name)) =
      (recorded accounts).map fun account => Text.encode account.name := by
    rw [feedLines_orderBytes, recorded, List.filter_map, List.map_map]
    · rfl
    · intro name hname
      obtain ⟨account, haccount, rfl⟩ := List.mem_map.mp hname
      exact h.named account haccount
  obtain ⟨fs', hrecords, hstore', houtput⟩ := hstore.writeRecords (recorded accounts)
    (fun account haccount => ⟨List.mem_of_mem_filter haccount,
      Nat.lt_of_le_of_lt (Nat.le_trans (le_encodedLength account).2 (encodedLength_le haccount)) hsmall⟩)
    (by rw [copied.get?_put output output _ hoffers.ne_nil, if_pos rfl])
  refine ⟨fs', executable, ?_, hstore', houtput⟩
  refine hline.bind (hclear.bind (hcopy.bind (hempty.bind (horder.bind ?_))))
  rw [hlines]
  exact hrecords.bind (Task.does_pure _)

end Store

/-! ## Users who come one after the other -/

/-- What the files stand for after requests that clients were asked one after the other. Before it answers
    a client makes what is missing, and behind its answer it writes a line for its connection. A content
    is put where it belongs in whatever way (`Store.setContent` says that the client does it on
    request). -/
inductive Served (directory : Place) (line : Bytes) (output : Place) :
    FileSystem → List Account → Prop where
  | empty {fs : FileSystem} (h : Store directory line output fs []) : Served directory line output fs []
  | prepared {fs fs' : FileSystem} {accounts : List Account} {options : Client.Options}
      (h : Served directory line output fs accounts)
      (hkey : LeadsOutside directory fs options.keyFile)
      (hdone : (Client.prepare options).Does directory fs () fs') :
      Served directory line output fs' accounts
  | announced {fs fs' : FileSystem} {accounts : List Account} {word : String}
      (h : Served directory line output fs accounts)
      (hdone : (writeLine wireFile .append word).Does directory fs () fs') :
      Served directory line output fs' accounts
  | registered {fs fs' : FileSystem} {accounts : List Account} {options : Client.Options}
      (h : Served directory line output fs accounts) (huser : IsUserName options.user)
      (hnew : options.user ∉ accounts.map Account.name)
      (hdone : (Client.register options).Does directory fs .ok fs') :
      Served directory line output fs' (accounts ++ [⟨options.user, none⟩])
  | stored {fs : FileSystem} {accounts : List Account} {user : String}
      (h : Served directory line output fs accounts) (huser : user ∈ accounts.map Account.name)
      (hshort : Text.byteLength user ≤ 255) (bytes : Bytes) :
      Served directory line output (fs.put (contentPlace directory user) (.file bytes false))
        (withContent user bytes accounts)
  | persisted {fs fs' : FileSystem} {accounts : List Account}
      (h : Served directory line output fs accounts)
      (hsmall : (directoryOf accounts).length < 2 ^ 63)
      (hdone : Client.persist.Does directory fs .ok fs') : Served directory line output fs' accounts

/-- **The files always stand for the users**, whatever has been asked. -/
theorem Served.store (h : Served directory line output fs accounts) :
    Store directory line output fs accounts := by
  induction h with
  | empty h => exact h
  | prepared _ hkey hdone ih =>
      obtain ⟨fs', hdoes, hstore⟩ := ih.prepare _ hkey
      rw [hdoes.unique hdone]
      exact hstore
  | announced _ hdone ih =>
      obtain ⟨fs', hdoes, hstore, -⟩ := ih.announce _
      rw [hdoes.unique hdone]
      exact hstore
  | registered _ huser hnew hdone ih =>
      obtain ⟨fs', hdoes, hstore⟩ := ih.register _ huser hnew
      rw [hdoes.unique hdone]
      exact hstore
  | stored _ huser hshort bytes ih => exact ih.putContent huser hshort bytes
  | persisted _ hsmall hdone ih =>
      obtain ⟨fs', executable, hdoes, hstore, -⟩ := ih.persist hsmall
      rw [hdoes.unique hdone]
      exact hstore

/-- Whoever is new can be registered, in whatever order. -/
theorem Served.exists_registered (h : Served directory line output fs accounts)
    {names : List String} (hnames : ∀ name ∈ names, IsUserName name)
    (hnew : (accounts.map Account.name ++ names).Nodup) :
    ∃ fs', Served directory line output fs' (accounts ++ names.map (⟨·, none⟩)) := by
  induction names generalizing fs accounts with
  | nil => exact ⟨fs, by rw [List.map_nil, List.append_nil]; exact h⟩
  | cons name rest ih =>
      have hname : name ∉ accounts.map Account.name := fun hmem =>
        (List.disjoint_of_nodup_append hnew) hmem List.mem_cons_self
      obtain ⟨fs', hdoes, -⟩ := h.store.register ⟨"", name, "", "", ""⟩
        (hnames name List.mem_cons_self) hname
      have hserved := Served.registered h (hnames name List.mem_cons_self) hname hdoes
      obtain ⟨last, hlast⟩ := ih hserved
        (fun other hother => hnames other (List.mem_cons_of_mem name hother))
        (by rw [List.map_append, List.map_singleton, List.append_assoc]; exact hnew)
      refine ⟨last, ?_⟩
      rw [List.append_assoc] at hlast
      exact hlast

/-! ## The writer and the library -/

/-- What a user adds to the directory file, by the lengths alone. -/
def Account.footprint (account : Account) : Directory.Footprint :=
  ⟨account.name, UInt64.ofNat (account.content.getD []).length⟩

/-- Every record that is written can be read. -/
theorem complete_and_fits (hnamed : ∀ account ∈ accounts, IsUserName account.name)
    (hsmall : (directoryOf accounts).length < 2 ^ 63) :
    ∀ record ∈ (recorded accounts).map Account.record, record.Complete ∧ record.Fits := by
  intro record hrecord
  obtain ⟨account, haccount, rfl⟩ := List.mem_map.mp hrecord
  have hname := (hnamed account (List.mem_of_mem_filter haccount)).nonempty
  have hlong := encodedLength_le haccount
  obtain ⟨husername, hcontent⟩ := le_encodedLength account
  refine ⟨⟨fun hnil => hname (Text.encode_injective hnil), List.cons_ne_nil saltByte _,
    List.cons_ne_nil hashByte _⟩, fun which => ?_⟩
  cases which with
  | username => exact Nat.lt_of_le_of_lt (Nat.le_of_succ_le husername) (by omega)
  | salt => exact (by decide : 16 < 2 ^ 64)
  | hash => exact (by decide : 32 < 2 ^ 64)
  | content => exact Nat.lt_of_le_of_lt hcontent (by omega)

/-- The footprints say how long the file becomes. -/
theorem length_directoryOf (hnamed : ∀ account ∈ accounts, IsUserName account.name)
    (hsmall : (directoryOf accounts).length < 2 ^ 63) :
    (directoryOf accounts).length = Directory.size ((recorded accounts).map Account.footprint) := by
  refine Directory.length_encode_eq_size ?_ ?_
  · intro record hrecord
    obtain ⟨account, -, rfl⟩ := List.mem_map.mp hrecord
    exact ⟨List.length_replicate, List.length_replicate⟩
  · rw [List.forall₂_map_left_iff, List.forall₂_map_right_iff, List.forall₂_same]
    intro account haccount
    have hfits := (complete_and_fits hnamed hsmall account.record (List.mem_map_of_mem haccount)).2
    exact ⟨rfl, UInt64.toNat_ofNat_of_lt (hfits .content)⟩

/-- **THE STAND-IN WRITES WHAT THE ENCODER WRITES.** However users were registered one after the other,
    and whatever contents were put to them, a client that is asked to persist comes to its end and leaves
    in the directory file the encoding of one record for each user, in the order of registration, with the
    stand-in's salt and hash and the user's content. The file can be parsed, gives back the users in this
    order, and is as long as their footprints predict. The one user who has no record is one with the name
    `-n`. The file has to be one that can be: its size is a number of 63 bits. -/
theorem persist_encodes (h : Served directory line output fs accounts)
    (hsmall : (directoryOf accounts).length < 2 ^ 63) :
    (∃ fs', Client.persist.Does directory fs .ok fs') ∧
    (∀ fs', Client.persist.Does directory fs .ok fs' →
      ∃ executable, fs'.get? output = some (.file (directoryOf accounts) executable)) ∧
    Directory.parse (directoryOf accounts) = .ok ((recorded accounts).map Account.record) ∧
    Directory.usernames ((recorded accounts).map Account.record) =
      (accounts.map Account.name).filter (· ≠ optionName) ∧
    (directoryOf accounts).length = Directory.size ((recorded accounts).map Account.footprint) := by
  have hstore := h.store
  obtain ⟨fs', executable, hdoes, -, houtput⟩ := hstore.persist hsmall
  refine ⟨⟨fs', hdoes⟩, fun other hother => ⟨executable, ?_⟩, ?_, ?_,
    length_directoryOf hstore.named hsmall⟩
  · rw [hdoes.unique hother]
    exact houtput
  · exact Directory.parse_eq_ok_iff.mpr ⟨complete_and_fits hstore.named hsmall, rfl⟩
  · rw [Directory.usernames, List.map_map, recorded, List.filter_map]
    exact List.map_congr_left fun account _ => Text.decode_encode account.name

/-! ## Two runs -/

/-- What stands in a directory when a server has set up the trees and a client has made its own. -/
def fresh : FileSystem where
  nodes :=
    [(["w"], .directory), (["w", ".fake"], .directory), (["w", ".fake", "live"], .directory),
      (["w", ".fake", "live", "users"], .directory), (["w", ".fake", "live", "content"], .directory),
      (["w", ".fake", "live", "order"], .file [] false),
      (["w", ".fake", "dirfile"], .file (Text.echoLine "company.dir") false)]
  home := ["w"]

theorem fresh_below {place : Place} (hplace : 4 < place.length) : fresh.get? place = none := by
  by_contra hsome
  obtain ⟨node, hnode⟩ := Option.ne_none_iff_exists'.mp hsome
  have hmem := FileSystem.mem_nodes_of_get? (List.ne_nil_of_length_pos (by omega)) hnode
  have hshort : ∀ entry ∈ fresh.nodes, entry.1.length ≤ 4 := by decide
  exact absurd (hshort _ hmem) (Nat.not_le_of_lt hplace)

theorem store_fresh :
    Store ["w"] (Text.echoLine "company.dir") ["w", "company.dir"] fresh [] where
  orderly :=
    { nonempty := by decide
      names := by decide
      plain := by
        intro place node hroot hnode
        have hplace := FileSystem.ne_nil_of_below (by decide) hroot
        have hplain : ∀ entry ∈ fresh.nodes, entry.2.IsPlain := by simp [fresh, Node.IsPlain]
        exact hplain _ (FileSystem.mem_nodes_of_get? hplace hnode) }
  trees := by decide
  pointer := ⟨false, by decide⟩
  small := by decide
  down := by decide
  leads := by decide
  outside := by decide
  offers := ⟨[], false, .inr (by decide)⟩
  named := nofun
  order := by decide
  contents := nofun
  short := nofun
  free user _ _ := ⟨fresh_below (Nat.lt_succ_self 4), fresh_below (Nat.lt_succ_self 4)⟩

theorem persist_encodes_two : ∃ fs,
    Served ["w"] (Text.echoLine "company.dir") ["w", "company.dir"] fs
      [⟨"alice", some [1, 2, 3]⟩, ⟨"bob", none⟩] ∧
    ∃ fs' executable, Client.persist.Does ["w"] fs .ok fs' ∧
      fs'.get? ["w", "company.dir"] = some (.file (Directory.encode
        [⟨Text.encode "alice", List.replicate 16 83, List.replicate 32 72, [1, 2, 3]⟩,
          ⟨Text.encode "bob", List.replicate 16 83, List.replicate 32 72, []⟩]) executable) := by
  obtain ⟨fs, hregistered⟩ := (Served.empty store_fresh).exists_registered
    (by decide : ∀ name ∈ ["alice", "bob"], IsUserName name) (by decide)
  have hserved := hregistered.stored (by decide : "alice" ∈ ["alice", "bob"]) (by decide) [1, 2, 3]
  obtain ⟨⟨fs', hdoes⟩, houtput, -⟩ := persist_encodes hserved (by
    rw [directoryOf, Directory.length_encode]
    decide)
  obtain ⟨executable, houtput⟩ := houtput fs' hdoes
  exact ⟨_, hserved, fs', executable, hdoes, houtput⟩

/-- **A user who is called like an option has no record**, although the name is allowed and the user is
    registered. -/
theorem persist_leaves_out : ∃ fs fs',
    IsUserName "-n" ∧
    Served ["w"] (Text.echoLine "company.dir") ["w", "company.dir"] fs [⟨"-n", none⟩] ∧
    Client.persist.Does ["w"] fs .ok fs' ∧
    ∀ executable, fs'.get? ["w", "company.dir"] ≠
      some (.file (Directory.encode [Account.record ⟨"-n", none⟩]) executable) := by
  obtain ⟨fs, hserved⟩ := (Served.empty store_fresh).exists_registered
    (by decide : ∀ name ∈ ["-n"], IsUserName name) (by decide)
  obtain ⟨fs', written, hdoes, -, houtput⟩ := hserved.store.persist (by decide)
  refine ⟨fs, fs', by decide, hserved, hdoes, fun executable hencoded => ?_⟩
  have hbytes := congrArg List.length
    (Node.file.inj (Option.some.inj (houtput.symm.trans hencoded))).1
  rw [directoryOf, Directory.length_encode, Directory.length_encode] at hbytes
  exact absurd hbytes (by decide)

end Conformance.Standin
