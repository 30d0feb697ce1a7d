import Conformance.Machine.Host
import Conformance.Machine.Tasks
import Conformance.Proofs.FileSystem.Subtree
import Mathlib.Logic.Relation

/-!
# A process that runs alone

A host on which one process runs answers that process step by step, and what it answers depends on its
files and on the directory of the process only. `Task.Does` says what a task does there: from files on
which it is begun, to the value that it gives and the files that it leaves.
-/

namespace Conformance

namespace Host

/-! ## Going on -/

/-- The host as it is once an answer has taken its time. -/
def later (host : Host) : Host := { host with clock := host.clock + answerTime }

/-- The host goes on from answer to answer, whatever the deadline is. -/
def Goes : Host → Host → Prop :=
  Relation.ReflTransGen fun host next => ∀ deadline, host.step deadline = next

/-- The host gets to something by itself. -/
def Reaches (host : Host) (goal : Host → Prop) : Prop := ∃ later, host.Goes later ∧ goal later

variable {host next : Host} {process : Process} {goal goal' : Host → Prop}

theorem Reaches.here (h : goal host) : host.Reaches goal := ⟨host, .refl, h⟩

theorem Reaches.trans (h : host.Reaches goal) (h' : ∀ host, goal host → host.Reaches goal') :
    host.Reaches goal' := by
  obtain ⟨middle, hgoes, hgoal⟩ := h
  obtain ⟨last, hgoes', hgoal'⟩ := h' middle hgoal
  exact ⟨last, hgoes.trans hgoes', hgoal'⟩

theorem step_of_perform (hprocess : host.processes = [process])
    (hperform : host.perform process = some next) (deadline : Nat) :
    host.step deadline = next.later := by
  rw [step, hprocess, List.findSome?_cons, hperform]
  rfl

theorem Reaches.of_perform (hprocess : host.processes = [process])
    (hperform : host.perform process = some next) (hgoal : goal next.later) : host.Reaches goal :=
  ⟨next.later, .single (step_of_perform hprocess hperform), hgoal⟩

theorem processes_put (hprocess : host.processes = [process]) {changed : Process}
    (hnumber : changed.number = process.number) : (host.put changed).processes = [changed] := by
  simp [put, hprocess, hnumber]

/-! ## Open files -/

theorem mem_of_lookup {descriptors : List (Nat × Nat)} {descriptor number : Nat}
    (h : descriptors.lookup descriptor = some number) : (descriptor, number) ∈ descriptors := by
  obtain ⟨front, back, rfl, -⟩ := List.lookup_eq_some_iff.mp h
  exact List.mem_append_right front List.mem_cons_self

/-- Only the descriptors of a process and the numbers of open files decide what is forgotten. -/
theorem openFile?_tidy (hprocess : host.processes = [process]) (descriptor : Nat) :
    host.tidy.openFile? process descriptor = host.openFile? process descriptor := by
  rw [openFile?, openFile?]
  cases hlookup : process.descriptors.lookup descriptor with
  | none => rfl
  | some number =>
      have hmem := mem_of_lookup hlookup
      simp only [Option.bind_some, tidy, hprocess, List.find?_filter]
      congr 1
      funext entry
      -- an open file of this number is one that the process refers to
      by_cases hnumber : entry.number = number
      · have hkept : process.descriptors.any (fun held => held.2 = entry.number) = true :=
          List.any_eq_true.mpr ⟨_, hmem, decide_eq_true hnumber.symm⟩
        simp [hnumber, hnumber ▸ hkept]
      · simp [hnumber]

/-- What has become of an open file that was read or written. -/
theorem openFile?_seek (host : Host) (process : Process) (entry : OpenFile) (offset descriptor : Nat) :
    (host.seek entry offset).openFile? process descriptor =
      (host.openFile? process descriptor).map fun other =>
        if other.number = entry.number then { other with offset := offset } else other := by
  rw [openFile?, openFile?, Option.map_bind]
  congr 1
  funext number
  rw [seek, List.find?_map]
  congr 2
  funext other
  show decide ((if _ then _ else _ : OpenFile).number = _) = _
  split <;> rfl

/-- A descriptor that is added leaves the others as they are, and refers to the new open file. -/
theorem openFile?_attach (host : Host) {process : Process}
    (hknown : ∀ held ∈ process.descriptors, held.2 < host.unused) (target : Target) (mode : OpenMode)
    (descriptor : Nat) :
    (host.attach process target mode).2.2.openFile? (host.attach process target mode).2.1 descriptor =
      if descriptor = (host.attach process target mode).1 then some ⟨host.unused, target, mode, 0⟩
      else host.openFile? process descriptor := by
  rw [openFile?, attach]
  by_cases hsame : descriptor = freeDescriptor process 0
  · rw [if_pos hsame, hsame, List.lookup_cons_self, Option.bind_some,
      List.find?_cons_of_pos (by exact decide_eq_true rfl)]
  · rw [if_neg hsame, List.lookup_cons, beq_false_of_ne hsame]
    show (process.descriptors.lookup descriptor).bind _ = _
    rw [openFile?]
    cases hlookup : process.descriptors.lookup descriptor with
    | none => rfl
    | some number =>
        have hne : ¬ host.unused = number := Nat.ne_of_gt (hknown _ (mem_of_lookup hlookup))
        rw [Option.bind_some, Option.bind_some, List.find?_cons_of_neg (by simpa using hne)]

theorem lookup_filter_ne {descriptors : List (Nat × Nat)} {descriptor closed : Nat}
    (h : descriptor ≠ closed) :
    (descriptors.filter (·.1 ≠ closed)).lookup descriptor = descriptors.lookup descriptor := by
  induction descriptors with
  | nil => rfl
  | cons held rest ih =>
      obtain ⟨name, number⟩ := held
      by_cases hclosed : name = closed
      · rw [List.filter_cons_of_neg (by simpa using hclosed), ih, List.lookup_cons,
          beq_false_of_ne fun heq => h (heq.trans hclosed)]
      · rw [List.filter_cons_of_pos (by simpa using hclosed), List.lookup_cons, List.lookup_cons, ih]

theorem lookup_filter_self (descriptors : List (Nat × Nat)) (closed : Nat) :
    (descriptors.filter (·.1 ≠ closed)).lookup closed = none := by
  rw [List.lookup_eq_none_iff]
  intro held hheld
  exact bne_iff_ne.mpr (Ne.symm (by simpa using List.of_mem_filter hheld))

/-- Closing a descriptor leaves the others as they are. -/
theorem openFile?_close (host : Host) (process : Process) (closed descriptor : Nat) :
    host.openFile? { process with descriptors := process.descriptors.filter (·.1 ≠ closed) } descriptor =
      if descriptor = closed then none else host.openFile? process descriptor := by
  rw [openFile?, openFile?]
  split
  · next hsame =>
      subst hsame
      rw [lookup_filter_self]
      rfl
  · next hother => rw [lookup_filter_ne hother]

/-! ## One process alone -/

/-- One process runs on the host, in a directory and on files, and waits for nothing. -/
structure Lone (host : Host) (directory : Place) (files : FileSystem) (program : Program)
    (process : Process) : Prop where
  processes : host.processes = [process]
  directory : process.directory = directory
  files : host.files = files
  program : process.program = program
  running : process.ended = none
  settled : process.opened = none
  known : ∀ held ∈ process.descriptors, held.2 < host.unused

/-- What the process complains about is forgotten. -/
def Quiet (host : Host) (process : Process) : Prop :=
  ∀ entry, host.openFile? process 2 = some entry → ∃ which, entry.target = .device which

/-- One process runs on the host, about to do what a program says. -/
def Alone (host : Host) (directory : Place) (files : FileSystem) (program : Program) : Prop :=
  ∃ process, host.Lone directory files program process ∧ host.Quiet process

/-- One process runs on the host that has opened a file, in some way and read or written up to an
    offset. -/
def Holding (host : Host) (directory : Place) (files : FileSystem) (program : Program)
    (descriptor : Nat) (place : Place) (mode : OpenMode) (offset : Nat) : Prop :=
  ∃ process number, host.Lone directory files program process ∧
    host.openFile? process descriptor = some ⟨number, .place place, mode, offset⟩ ∧
    (descriptor ≠ 2 → host.Quiet process)

variable {directory : Place} {files files' : FileSystem} {program : Program}

/-- A process that goes on with another program is alone as before. -/
theorem Lone.proceed (h : host.Lone directory files program process) (following : Program) :
    (host.proceed process following).Lone directory files following
      { process with program := following } where
  processes := processes_put h.processes rfl
  directory := h.directory
  files := h.files
  program := rfl
  running := h.running
  settled := h.settled
  known := h.known

theorem Lone.later (h : host.Lone directory files program process) :
    host.later.Lone directory files program process :=
  ⟨h.processes, h.directory, h.files, h.program, h.running, h.settled, h.known⟩

theorem Lone.tidy (h : host.Lone directory files program process) :
    host.tidy.Lone directory files program process :=
  ⟨h.processes, h.directory, h.files, h.program, h.running, h.settled, h.known⟩

theorem Lone.withFiles (h : host.Lone directory files program process) (files' : FileSystem) :
    ({ host with files := files' } : Host).Lone directory files' program process :=
  ⟨h.processes, h.directory, rfl, h.program, h.running, h.settled, h.known⟩

/-- A lone process asks for what its program says next. -/
theorem Lone.perform_open {path : Path} {mode : OpenMode} {next : Except OsError Nat → Program}
    (h : host.Lone directory files (.openFile path mode next) process) :
    host.perform process = host.performOpen process path mode next := by
  rw [perform, h.running, h.program]
  rfl

theorem Lone.perform_read {descriptor count : Nat} {next : Except OsError Bytes → Program}
    (h : host.Lone directory files (.read descriptor count next) process) :
    host.perform process = host.performRead process descriptor count next := by
  rw [perform, h.running, h.program]
  rfl

theorem Lone.perform_write {descriptor : Nat} {bytes : Bytes} {next : Except OsError Unit → Program}
    (h : host.Lone directory files (.write descriptor bytes next) process) :
    host.perform process = host.performWrite process descriptor bytes next := by
  rw [perform, h.running, h.program]
  rfl

theorem Lone.perform_change {what : Change} {next : Except OsError Unit → Program}
    (h : host.Lone directory files (.change what next) process) :
    host.perform process = match host.applyChange process what with
      | .error e => some (host.proceed process (next (.error e)))
      | .ok (process, host) => some (host.proceed process (next (.ok ()))).tidy := by
  rw [perform, h.running, h.program]
  rfl

/-- What a lone process asks for is answered, if it can be. -/
theorem Lone.reaches (h : host.Lone directory files program process)
    (hperform : host.perform process = some next) (hgoal : goal next.later) : host.Reaches goal :=
  .of_perform h.processes hperform hgoal

theorem Alone.files_eq (h : host.Alone directory files program) : host.files = files := by
  obtain ⟨process, hlone, -⟩ := h
  exact hlone.files

/-- A question that is answered at once. -/
theorem Alone.answered (h : host.Alone directory files program) {following : Program}
    (hperform : ∀ process, host.Lone directory files program process →
      host.perform process = some (host.proceed process following)) :
    host.Reaches fun host => host.Alone directory files following := by
  obtain ⟨process, hlone, hquiet⟩ := h
  exact hlone.reaches (hperform process hlone) ⟨_, (hlone.proceed following).later, hquiet⟩

theorem Alone.inspect {path : Path} {following : Except OsError FileInfo → Program}
    (h : host.Alone directory files (.inspect path following)) :
    host.Reaches fun host =>
      host.Alone directory files (following ((files.nodeAt directory path).map infoOf)) := by
  refine h.answered fun process hlone => ?_
  have hinspect : host.inspect process path = (files.nodeAt directory path).map infoOf := by
    rw [Host.inspect, hlone.files, hlone.directory]
    cases files.nodeAt directory path <;> rfl
  rw [perform, hlone.running, hlone.program, ← hinspect]
  rfl

theorem Alone.names {path : Path} {following : Except OsError (List String) → Program}
    {found : Except OsError (List String)}
    (h : host.Alone directory files (.names path following))
    (hfound : ∀ (host : Host) process, host.files = files → process.directory = directory →
      host.namesAt process path = found) :
    host.Reaches fun host => host.Alone directory files (following found) := by
  refine h.answered fun process hlone => ?_
  rw [perform, hlone.running, hlone.program, ← hfound host process hlone.files hlone.directory]
  rfl

/-- Names are found in a directory only. -/
theorem exists_namesAt_eq (directory : Place) (files : FileSystem) (path : Path) :
    ∃ found, (∀ (host : Host) process, host.files = files → process.directory = directory →
        host.namesAt process path = found) ∧
      ∀ names, found = .ok names →
        ∃ place, files.locate directory path = .ok place ∧ names = files.namesIn place := by
  cases hplace : files.locate directory path with
  | error e =>
      exact ⟨.error e, by rintro host process rfl rfl; simp [namesAt, hplace], nofun⟩
  | ok place =>
      cases hnode : files.get? place with
      | none =>
          exact ⟨.error .notFound, by rintro host process rfl rfl; simp [namesAt, hplace, hnode], nofun⟩
      | some node =>
          cases node with
          | directory =>
              refine ⟨.ok (files.namesIn place), ?_, fun names hnames => ⟨place, rfl, ?_⟩⟩
              · rintro host process rfl rfl
                simp [namesAt, hplace, hnode]
              · exact (Except.ok.inj hnames).symm
          | file _ _ | pipe _ | device _ =>
              exact ⟨.error .notDirectory,
                by rintro host process rfl rfl; simp [namesAt, hplace, hnode], nofun⟩

/-- A change of files is refused. -/
theorem Alone.change_error {what : Change} {following : Except OsError Unit → Program}
    {change : FileSystem → Except OsError FileSystem} {e : OsError}
    (h : host.Alone directory files (.change what following))
    (hwhat : ∀ (host : Host) process, host.applyChange process what = host.changeFiles process change)
    (hchange : files.within directory change = .error e) :
    host.Reaches fun host => host.Alone directory files (following (.error e)) := by
  refine h.answered fun process hlone => ?_
  rw [hlone.perform_change, hwhat, changeFiles, hlone.files, hlone.directory, hchange]

/-- A change of files is made. -/
theorem Alone.change_ok {what : Change} {following : Except OsError Unit → Program}
    {change : FileSystem → Except OsError FileSystem}
    (h : host.Alone directory files (.change what following))
    (hwhat : ∀ (host : Host) process, host.applyChange process what = host.changeFiles process change)
    (hchange : files.within directory change = .ok files') :
    host.Reaches fun host => host.Alone directory files' (following (.ok ())) := by
  obtain ⟨process, hlone, hquiet⟩ := h
  have hproceed := (hlone.withFiles files').proceed (following (.ok ()))
  have hperform : host.perform process =
      some (({ host with files := files' } : Host).proceed process (following (.ok ()))).tidy := by
    rw [hlone.perform_change, hwhat, changeFiles, hlone.files, hlone.directory, hchange]
  refine hlone.reaches hperform ⟨_, hproceed.tidy.later, fun entry hentry => ?_⟩
  exact hquiet entry ((openFile?_tidy hproceed.processes 2).symm.trans hentry)

/-- Complaints go nowhere. -/
theorem Alone.complain {bytes : Bytes} {following : Except OsError Unit → Program}
    (h : host.Alone directory files (.write 2 bytes following)) :
    ∃ result, host.Reaches fun host => host.Alone directory files (following result) := by
  obtain ⟨process, hlone, hquiet⟩ := h
  have hperform : ∃ result,
      host.perform process = some (host.proceed process (following result)) := by
    rw [hlone.perform_write, performWrite]
    cases hentry : host.openFile? process 2 with
    | none => exact ⟨.error .badDescriptor, rfl⟩
    | some entry =>
        obtain ⟨which, hdevice⟩ := hquiet entry hentry
        dsimp only
        rw [hdevice]
        split
        · exact ⟨.error .badDescriptor, rfl⟩
        · exact ⟨.ok (), rfl⟩
  obtain ⟨result, hperform⟩ := hperform
  exact ⟨result, hlone.reaches hperform ⟨_, (hlone.proceed _).later, hquiet⟩⟩

/-! ## Opening, reading and writing -/

/-- A file cannot be opened. -/
theorem Alone.open_error {path : Path} {mode : OpenMode} {e : OsError}
    {following : Except OsError Nat → Program}
    (h : host.Alone directory files (.openFile path mode following))
    (hopen : ∀ host : Host, host.files = files →
      (host.files.locate directory path >>= fun place => host.openPlace place mode) = .error e) :
    host.Reaches fun host => host.Alone directory files (following (.error e)) := by
  refine h.answered fun process hlone => ?_
  rw [hlone.perform_open, performOpen, hlone.settled, hlone.directory, hopen host hlone.files]

/-- A file is opened. -/
theorem Alone.open_ok {path : Path} {mode : OpenMode} {place : Place}
    {following : Except OsError Nat → Program}
    (h : host.Alone directory files (.openFile path mode following))
    (hplace : files.locate directory path = .ok place)
    (hopen : ∀ host : Host, host.files = files →
      host.openPlace place mode = .ok (.place place, { host with files := files' })) :
    host.Reaches fun host =>
      ∃ descriptor, host.Holding directory files' (following (.ok descriptor)) descriptor place mode 0 := by
  obtain ⟨process, hlone, hquiet⟩ := h
  let opened := ({ host with files := files' } : Host).attach process (.place place) mode
  have hfound := openFile?_attach { host with files := files' } hlone.known (.place place) mode
  have hperform : host.perform process =
      some (opened.2.2.proceed opened.2.1 (following (.ok opened.1))) := by
    rw [hlone.perform_open, performOpen, hlone.settled, hlone.directory, hlone.files, hplace]
    dsimp only [bind, Except.bind]
    rw [hopen host hlone.files]
    rfl
  refine hlone.reaches hperform ⟨opened.1,
    { opened.2.1 with program := following (.ok opened.1) }, host.unused, ?_, ?_, ?_⟩
  · exact
      { processes := processes_put hlone.processes rfl
        directory := hlone.directory
        files := rfl
        program := rfl
        running := hlone.running
        settled := hlone.settled
        known := by
          rintro held (_ | ⟨_, hheld⟩)
          · exact Nat.lt_succ_self _
          · exact Nat.lt_succ_of_lt (hlone.known held hheld) }
  · exact (hfound opened.1).trans (if_pos rfl)
  · -- if the new descriptor is not the one of complaints, they go where they went
    intro hother entry hentry
    have hbefore := (hfound 2).symm.trans hentry
    rw [if_neg (Ne.symm hother)] at hbefore
    exact hquiet entry hbefore

/-- A process that goes on with an open file: it may have been read or written further. -/
theorem Holding.proceed {descriptor number : Nat} {place : Place} {mode : OpenMode}
    {offset offset' : Nat} (hlone : host.Lone directory files program process)
    (hentry : host.openFile? process descriptor = some ⟨number, .place place, mode, offset⟩)
    (hquiet : descriptor ≠ 2 → host.Quiet process) (files' : FileSystem) (following : Program) :
    ((({ host with files := files' } : Host).seek ⟨number, .place place, mode, offset⟩
      offset').proceed process following).later.Holding directory files' following descriptor place
        mode offset' := by
  have hseek := openFile?_seek { host with files := files' } process
    ⟨number, .place place, mode, offset⟩ offset'
  -- only the offset has moved: every descriptor leads where it led
  refine ⟨{ process with program := following }, number, ?_, ?_, fun hother entry hentry' => ?_⟩
  · exact
      { processes := processes_put hlone.processes rfl
        directory := hlone.directory
        files := rfl
        program := rfl
        running := hlone.running
        settled := hlone.settled
        known := hlone.known }
  · refine (hseek descriptor).trans ?_
    rw [show ({ host with files := files' } : Host).openFile? process descriptor = _ from hentry]
    exact congrArg some (if_pos rfl)
  · obtain ⟨before, hbefore, hafter⟩ := Option.map_eq_some_iff.mp ((hseek 2).symm.trans hentry')
    obtain ⟨which, hdevice⟩ := hquiet hother before hbefore
    refine ⟨which, ?_⟩
    rw [← hafter, ← hdevice]
    split <;> rfl

/-- A file is read on from where it was read up to. -/
theorem Holding.read {descriptor count : Nat} {place : Place} {mode : OpenMode} {offset : Nat}
    {following : Except OsError Bytes → Program} {content : Bytes} {executable : Bool}
    (h : host.Holding directory files (.read descriptor count following) descriptor place mode offset)
    (hmode : mode.reading = true) (hfile : files.get? place = some (.file content executable)) :
    host.Reaches fun host => host.Holding directory files
      (following (.ok ((content.drop offset).take count))) descriptor place mode
      (offset + ((content.drop offset).take count).length) := by
  obtain ⟨process, number, hlone, hentry, hquiet⟩ := h
  refine hlone.reaches ?_ (Holding.proceed hlone hentry hquiet files _)
  rw [hlone.perform_read, performRead, hentry]
  dsimp only
  rw [hmode, hlone.files, hfile]
  simp only [Bool.not_true, Bool.false_eq_true, if_false]
  rw [← hlone.files]

/-- A directory can be opened but not read. -/
theorem Holding.read_directory {descriptor count : Nat} {place : Place} {mode : OpenMode}
    {offset : Nat} {following : Except OsError Bytes → Program}
    (h : host.Holding directory files (.read descriptor count following) descriptor place mode offset)
    (hmode : mode.reading = true) (hdirectory : files.get? place = some .directory) :
    host.Reaches fun host => host.Holding directory files (following (.error .isDirectory)) descriptor
      place mode offset := by
  obtain ⟨process, number, hlone, hentry, hquiet⟩ := h
  refine hlone.reaches ?_ ⟨_, number, (hlone.proceed _).later, hentry, hquiet⟩
  rw [hlone.perform_read, performRead, hentry]
  dsimp only
  rw [hmode, hlone.files, hdirectory]
  simp only [Bool.not_true, Bool.false_eq_true, if_false]

/-- A file is written on from where it was written up to, or at its end. -/
theorem Holding.write {descriptor : Nat} {place : Place} {mode : OpenMode} {offset : Nat}
    {bytes : Bytes} {following : Except OsError Unit → Program} {content : Bytes} {executable : Bool}
    (h : host.Holding directory files (.write descriptor bytes following) descriptor place mode offset)
    (hmode : mode.writing = true) (hfile : files.get? place = some (.file content executable)) :
    host.Reaches fun host => ∃ offset', host.Holding directory
      (files.put place (.file
        (overwrite content (if mode.appending then content.length else offset) bytes) executable))
      (following (.ok ())) descriptor place mode offset' := by
  obtain ⟨process, number, hlone, hentry, hquiet⟩ := h
  refine hlone.reaches ?_
    ⟨(if mode.appending then content.length else offset) + bytes.length,
      Holding.proceed hlone hentry hquiet _ _⟩
  rw [hlone.perform_write, performWrite, hentry]
  dsimp only
  rw [hmode, hlone.files, hfile]
  simp only [Bool.not_true, Bool.false_eq_true, if_false]

/-- A process that closes its file is alone as before. -/
theorem Holding.close {descriptor : Nat} {place : Place} {mode : OpenMode} {offset : Nat}
    {following : Except OsError Unit → Program}
    (h : host.Holding directory files (.change (.close descriptor) following) descriptor place mode
      offset) :
    host.Reaches fun host => host.Alone directory files (following (.ok ())) := by
  obtain ⟨process, number, hlone, hentry, hquiet⟩ := h
  let closed :=
    { process with descriptors := process.descriptors.filter (·.1 ≠ descriptor) }
  have hclosed : (host.proceed closed (following (.ok ()))).Lone directory files (following (.ok ()))
      { closed with program := following (.ok ()) } :=
    { processes := processes_put hlone.processes rfl
      directory := hlone.directory
      files := hlone.files
      program := rfl
      running := hlone.running
      settled := hlone.settled
      known := fun held hheld => hlone.known held (List.mem_of_mem_filter hheld) }
  have hperform : host.perform process = some (host.proceed closed (following (.ok ()))).tidy := by
    rw [hlone.perform_change]
    rfl
  refine hlone.reaches hperform ⟨_, hclosed.tidy.later, fun entry hentry' => ?_⟩
  have hbefore := (openFile?_close host process descriptor 2).symm.trans
    ((openFile?_tidy hclosed.processes 2).symm.trans hentry')
  split at hbefore
  · exact nomatch hbefore
  · next hother => exact hquiet (Ne.symm hother) entry hbefore

/-! ## One way only -/

/-- A host on which one process runs, with nothing open. -/
def single (directory : Place) (files : FileSystem) (program : Program) : Host :=
  { Host.new (fun _ => none) files with
    processes := [⟨0, Process.nobody, program, none, none, none, directory, [], [], []⟩] }

theorem alone_single (directory : Place) (files : FileSystem) (program : Program) :
    (single directory files program).Alone directory files program :=
  ⟨_, ⟨rfl, rfl, rfl, rfl, rfl, rfl, nofun⟩, nofun⟩

/-- Nothing runs any more. -/
def Idle (host : Host) : Prop := ∀ process ∈ host.processes, process.ended.isSome = true

theorem Idle.step (h : host.Idle) (deadline : Nat) : (host.step deadline).Idle := by
  have hnone : host.processes.findSome? host.perform = none := by
    rw [List.findSome?_eq_none_iff]
    intro process hprocess
    rw [perform, if_pos (h process hprocess)]
  rw [Host.step, hnone]
  exact h

theorem Idle.goes (h : host.Idle) (hgoes : host.Goes next) : next.Idle := by
  induction hgoes with
  | refl => exact h
  | tail _ hstep ih => exact hstep 0 ▸ ih.step 0

theorem Alone.not_idle (h : host.Alone directory files program) : ¬ host.Idle := by
  obtain ⟨process, hlone, -⟩ := h
  intro hidle
  have hended := hidle process (hlone.processes ▸ List.mem_cons_self)
  rw [hlone.running] at hended
  exact nomatch hended

theorem Alone.idle_of_exit {code : Nat} (h : host.Alone directory files (.exit code))
    (deadline : Nat) : (host.step deadline).Idle := by
  obtain ⟨process, hlone, -⟩ := h
  have hperform : host.perform process = some (host.finish process (.exited (code % 256))) := by
    rw [perform, hlone.running, hlone.program]
    rfl
  rw [step_of_perform hlone.processes hperform]
  intro left hleft
  have hothers : (host.forget process.number).processes = [] := by
    simp [forget, hlone.processes]
  have hrest : left ∈ (host.finish process (.exited (code % 256))).processes := hleft
  simp only [finish, tidy, hothers, List.filterMap_nil, List.nil_append] at hrest
  split at hrest
  · exact absurd hrest List.not_mem_nil
  · rw [List.mem_singleton.mp hrest]
    rfl

/-- A host that is about to end its only process has one state of files only. -/
theorem Alone.files_unique {last : Host} {code : Nat} (h : next.Alone directory files (.exit code))
    (h' : last.Alone directory files' (.exit code)) (hgoes : host.Goes next)
    (hgoes' : host.Goes last) : files' = files := by
  have hunique : Relator.RightUnique fun host next : Host => ∀ deadline, host.step deadline = next :=
    fun _ _ _ hb hc => (hb 0).symm.trans (hc 0)
  -- who goes on from here is idle at once, and stays so
  have hsame : ∀ {first second : Host} {files files' : FileSystem},
      first.Alone directory files (.exit code) → second.Alone directory files' (.exit code) →
      first.Goes second → second = first := by
    intro first second _ _ hfirst hsecond hgoes
    rcases Relation.ReflTransGen.cases_head hgoes with heq | ⟨middle, hstep, hrest⟩
    · exact heq.symm
    · exact absurd (Idle.goes (hstep 0 ▸ hfirst.idle_of_exit 0) hrest) hsecond.not_idle
  have heq : last = next := by
    rcases Relation.ReflTransGen.total_of_right_unique hunique hgoes hgoes' with hon | hon
    · exact hsame h h' hon
    · exact (hsame h' h hon).symm
  rw [← h'.files_eq, heq, h.files_eq]

end Host

end Conformance
