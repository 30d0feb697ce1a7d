import Conformance.Installation
import Conformance.Machine.Host
import Conformance.Proofs.FileSystem.Walk
import Conformance.Proofs.Registry

/-!
# Which file is executed

A process that is started enters the working directory first, and its program's name is followed from
there (`programPlace`). The name already has the working directory in front of it, so seen from where the
checker runs the working directory is gone through twice. That makes no difference where the working
directory is given by an absolute path, or is where the checker runs; anywhere else another file is
executed than the one that the working directory and the name together lead to
(`executed_twice_joined`, `executed_elsewhere`).
-/

namespace Conformance

/-! ## Programs with a separator in their name -/

namespace Path

/-- A path with a second component has a separator. -/
theorem slash_mem_of_componentCount {path : Path} (h : 2 ≤ path.componentCount) :
    '/' ∈ path.toList := by
  by_contra hnone
  have hpieces : path.pieces = [path] := by
    rw [pieces, List.splitOn_eq_singleton hnone, List.map_singleton, String.ofList_toList]
  rw [componentCount, hpieces] at h
  have hrelative : path.isAbsolute = false := by
    rw [isAbsolute, decide_eq_false_iff_not]
    exact fun hhead => hnone (List.mem_of_mem_head? hhead)
  rw [hrelative] at h
  -- a single piece counts once, as a name or as the leading dot
  by_cases hdot : path = "."
  · subst hdot
    exact absurd h (by decide)
  · have hone : ([path].filter fun piece => piece ≠ "" ∧ piece ≠ ".").length ≤ 1 :=
      List.length_filter_le _ _
    have hhead : ([path].head? = some ".") = False := by simp [hdot]
    simp only [hhead, decide_false, Bool.or_self, Bool.false_eq_true, if_false] at h
    omega

theorem slash_mem_join (directory : Path) {path : Path} (h : '/' ∈ path.toList) :
    '/' ∈ (directory.join path).toList := by
  rw [join]
  split
  · exact h
  · split
    · rw [String.toList_append]
      exact List.mem_append_right _ h
    · rw [String.toList_append]
      exact List.mem_append_right _ h

end Path

/-- A program that is configured by a path: an absolute one, or one with a separator between two
    components. -/
def Path.IsQualified (program : Path) : Prop :=
  program.isAbsolute = true ∨ 2 ≤ program.componentCount

instance (program : Path) : Decidable program.IsQualified :=
  inferInstanceAs (Decidable (program.isAbsolute = true ∨ 2 ≤ program.componentCount))

theorem Path.IsQualified.slash_mem {program : Path} (h : program.IsQualified) :
    '/' ∈ program.toList := by
  rcases h with h | h
  · exact List.mem_of_mem_head? (of_decide_eq_true h)
  · exact slash_mem_of_componentCount h

/-- Such a program is started by its name behind the working directory; an absolute name is kept as it
    is. -/
theorem Registry.programPath_of_isQualified (registry : Registry) {program : Path}
    (h : program.IsQualified) : registry.programPath program = registry.workDir.join program := by
  rw [programPath]
  split
  · next hbare =>
      have habsolute : program.isAbsolute = true := by
        rcases h with h | h
        · exact h
        · rcases Bool.or_eq_true_iff.mp hbare with habsolute | hone
          · exact habsolute
          · have := of_decide_eq_true hone
            omega
      rw [Path.join, if_pos habsolute]
  · rfl

/-! ## Starting -/

namespace Host

variable (host : Host)

/-- The place where the name of a program leads when it is started in a directory: the process enters the
    directory first. -/
def programPlace (directory name : Path) : Except OsError Place := do
  let entered ← host.files.locate host.files.home directory
  host.files.locate entered name

/-- The program is the one in the file at a place, if there is one; where nothing stands it is the one that
    is installed under the very name. -/
def Holds (place : Except OsError Place) (line : CommandLine) (program : Environment → Program) : Prop :=
  (∃ there content readable, place = .ok there ∧
    host.files.get? there = some (.file content true readable) ∧
    host.fileProgram line.program content line.args = .ok program) ∨
  ((∀ there, place = .ok there → host.files.get? there = none) ∧
    ∃ installed, host.catalog line.program = some installed ∧ program = installed line.args)

theorem findProgram_eq_ok_iff (line : CommandLine) (hslash : '/' ∈ line.program.toList)
    {entered : Place} {program : Environment → Program} :
    host.findProgram entered line.program line.args = .ok program ↔
      host.Holds (host.files.locate entered line.program) line program := by
  rw [findProgram, if_pos hslash, FileSystem.nodeAt, Holds]
  cases hplace : host.files.locate entered line.program with
  | error e =>
      cases hinstalled : host.catalog line.program with
      | none => simp
      | some installed => simp [eq_comm]
  | ok there =>
      cases hnode : host.files.get? there with
      | none =>
          cases hinstalled : host.catalog line.program with
          | none => simp [hnode]
          | some installed => simp [hnode, eq_comm]
      | some node =>
          cases node with
          | file content executable readable => cases executable <;> cases readable <;> simp [hnode]
          | directory | pipe | device => simp [hnode]

theorem process?_put (process : Process) :
    (host.put process).process? process.number = some process := by
  rw [process?, put, List.find?_append]
  have hnone : (host.processes.filter (·.number ≠ process.number)).find?
      (·.number = process.number) = none := by
    rw [List.find?_eq_none]
    intro other hother
    simpa using (List.mem_filter.mp hother).2
  rw [hnone, List.find?_cons_of_pos (by simp)]
  rfl

variable {host} {directory : Path} {line : CommandLine}

/-- The directory can be entered, and from there the name has a program. -/
structure Startable (host : Host) (directory : Path) (line : CommandLine) (entered : Place)
    (program : Environment → Program) : Prop where
  enter : host.files.locate host.files.home directory = .ok entered
  isDirectory : host.files.get? entered = some .directory
  found : host.findProgram entered line.program line.args = .ok program

/-- A start makes a process that runs a program. -/
structure Starts (host : Host) (directory : Path) (line : CommandLine) (program : Program)
    (number : Nat) (host' : Host) : Prop where
  started : host.start directory line = (.ok number, host')
  runs : ∃ process, host'.process? number = some process ∧ process.program = program

theorem Startable.starts {entered : Place} {program : Environment → Program}
    (h : host.Startable directory line entered program) :
    ∃ number host', host.Starts directory line (program []) number host' := by
  have henter := h.enter
  have hentered := h.isDirectory
  have hfound := h.found
  have hstart : ∃ host', host.start directory line = (.ok host.unused, host') ∧
      ∃ process, host'.process? host.unused = some process ∧ process.program = program [] := by
    simp only [start, henter, hentered, hfound, bind, Except.bind]
    exact ⟨_, rfl, _, process?_put _ _, rfl⟩
  obtain ⟨host', hstarted, hruns⟩ := hstart
  exact ⟨host.unused, host', hstarted, hruns⟩

theorem exists_startable {number : Nat} {host' : Host}
    (h : host.start directory line = (.ok number, host')) :
    ∃ entered program, host.Startable directory line entered program ∧
      host.Starts directory line (program []) number host' := by
  cases henter : host.files.locate host.files.home directory with
  | error e =>
      simp only [start, henter, bind, Except.bind] at h
      exact nomatch congrArg Prod.fst h
  | ok entered =>
      cases hentered : host.files.get? entered with
      | none =>
          simp only [start, henter, hentered, bind, Except.bind] at h
          exact nomatch congrArg Prod.fst h
      | some node =>
          cases node with
          | file | pipe | device =>
              simp only [start, henter, hentered, bind, Except.bind] at h
              exact nomatch congrArg Prod.fst h
          | directory =>
              cases hfound : host.findProgram entered line.program line.args with
              | error e =>
                  simp only [start, henter, hentered, hfound, bind, Except.bind] at h
                  exact nomatch congrArg Prod.fst h
              | ok program =>
                  have hstartable : host.Startable directory line entered program :=
                    ⟨henter, hentered, hfound⟩
                  obtain ⟨number', host'', hstarts⟩ := hstartable.starts
                  have hsame := hstarts.started.symm.trans h
                  obtain rfl := Except.ok.inj (congrArg Prod.fst hsame)
                  obtain rfl := congrArg Prod.snd hsame
                  exact ⟨entered, program, hstartable, hstarts⟩

end Host

/-! ## The file of a program -/

namespace Registry

variable (registry : Registry) (host : Host)

/-- The place of the file that is executed for a program. -/
def executed (program : Path) : Except OsError Place :=
  host.programPlace registry.workDir (registry.programPath program)

/-- The working directory can be entered from where the checker runs. -/
def Enterable : Prop := ∃ entered, host.files.locate host.files.home registry.workDir = .ok entered

/-- The place where a program is looked for once it has the working directory in front of it. -/
def joined (program : Path) : Except OsError Place :=
  host.files.locate host.files.home (registry.workDir.join program)

variable {registry host} {program : Path} {place : Place}

theorem executed_of_enter {entered : Place}
    (h : host.files.locate host.files.home registry.workDir = .ok entered) :
    registry.executed host program = host.files.locate entered (registry.programPath program) := by
  rw [executed, Host.programPlace, h]
  rfl

/-- Where the checker runs makes no difference to an absolute path. -/
theorem locate_of_isAbsolute {path : Path} (h : path.isAbsolute = true) (fs : FileSystem)
    (directory other : Place) : fs.locate directory path = fs.locate other path := by
  rw [FileSystem.locate, FileSystem.locate, if_pos h, if_pos h]

/-- A path that leads from where the checker runs to where the started name leads from the working
    directory is the path of the executed file. -/
theorem executed_iff_of_locate {seen : Path}
    (hseen : ∀ entered, host.files.locate host.files.home registry.workDir = .ok entered →
      host.files.locate entered (registry.programPath program) =
        host.files.locate host.files.home seen) :
    registry.executed host program = .ok place ↔
      registry.Enterable host ∧ host.files.locate host.files.home seen = .ok place := by
  cases hwork : host.files.locate host.files.home registry.workDir with
  | error e => simp [executed, Host.programPlace, Enterable, hwork, bind, Except.bind]
  | ok entered =>
      have henterable : registry.Enterable host := ⟨entered, hwork⟩
      rw [executed_of_enter hwork, hseen entered hwork]
      exact (and_iff_right henterable).symm

theorem executed_of_isAbsolute (hqualified : program.IsQualified)
    (habsolute : (registry.workDir.join program).isAbsolute = true) :
    registry.executed host program = .ok place ↔
      registry.Enterable host ∧ registry.joined host program = .ok place := by
  refine executed_iff_of_locate fun entered _ => ?_
  rw [registry.programPath_of_isQualified hqualified]
  exact locate_of_isAbsolute habsolute _ _ _

/-- **THE WORKING DIRECTORY IS GONE THROUGH TWICE**: once by the process, and once in the name. -/
theorem executed_twice_joined (hqualified : program.IsQualified) :
    registry.executed host program = .ok place ↔
      registry.Enterable host ∧
        registry.joined host (registry.workDir.join program) = .ok place := by
  refine executed_iff_of_locate fun entered hwork => ?_
  rw [registry.programPath_of_isQualified hqualified]
  -- an absolute path is left as it is by a second joining, and leads to one place from everywhere
  by_cases habsolute : (registry.workDir.join program).isAbsolute = true
  · conv_rhs => rw [Path.join, if_pos habsolute]
    exact locate_of_isAbsolute habsolute _ _ _
  · have hdirectory : registry.workDir ≠ "" := by
      intro hempty
      rw [hempty] at hwork
      exact absurd hwork (by rw [FileSystem.locate, if_pos rfl]; simp)
    have hname : registry.workDir.join program ≠ "" := by
      intro hempty
      have hslash := Path.slash_mem_join registry.workDir hqualified.slash_mem
      rw [hempty] at hslash
      exact absurd hslash (by simp)
    rw [FileSystem.locate_join _ _ hdirectory hname (Bool.eq_false_iff.mpr habsolute), hwork]
    rfl

/-- An absolute working directory is gone through once, and so is one that leads nowhere else. -/
theorem executed_once_joined (hqualified : program.IsQualified)
    (honce : registry.workDir.isAbsolute = true ∨ program.isAbsolute = true ∨
      host.files.locate host.files.home registry.workDir = .ok host.files.home) :
    registry.executed host program = .ok place ↔
      registry.Enterable host ∧ registry.joined host program = .ok place := by
  by_cases hprogram : program.isAbsolute = true
  · refine executed_of_isAbsolute hqualified ?_
    rwa [Path.join, if_pos hprogram]
  rcases honce with hwork | hprogram' | hhome
  · have hdirectory : registry.workDir ≠ "" := by
      intro hempty
      rw [hempty] at hwork
      exact absurd hwork (by decide)
    refine executed_of_isAbsolute hqualified ?_
    rw [Path.isAbsolute_join hdirectory (Bool.eq_false_iff.mpr hprogram)]
    exact hwork
  · exact absurd hprogram' hprogram
  · -- who enters the directory stays where the checker runs
    refine executed_iff_of_locate fun entered hwork => ?_
    obtain rfl := Except.ok.inj (hwork.symm.trans hhome)
    rw [registry.programPath_of_isQualified hqualified]

/-- **WHAT IS EXECUTED FOR A PROGRAM WITH A SEPARATOR.** A process that is started runs the program in the
    file at the place `executed`, and it is started whenever there is one. Seen from where the checker runs
    that is where the working directory leads with the working directory and the program behind it. It is
    where the two lead by themselves if the working directory or the program is absolute, or if the checker
    runs in the working directory. -/
theorem spawn_executes (registry : Registry) (host : Host) (role : Role) (line : CommandLine)
    (hqualified : line.program.IsQualified) :
    (∀ place, registry.executed host line.program = .ok place ↔
      registry.Enterable host ∧
        registry.joined host (registry.workDir.join line.program) = .ok place) ∧
    (registry.workDir.isAbsolute = true ∨ line.program.isAbsolute = true ∨
        host.files.locate host.files.home registry.workDir = .ok host.files.home →
      ∀ place, registry.executed host line.program = .ok place ↔
        registry.Enterable host ∧ registry.joined host line.program = .ok place) ∧
    (∀ spawned registry' host',
      registry.spawn role line host = (.ok spawned, registry', host') →
      ∃ program process, host'.process? spawned.process = some process ∧
        process.program = program [] ∧
        host.Holds (registry.executed host line.program)
          { line with program := registry.programPath line.program } program) ∧
    ∀ entered program,
      host.files.locate host.files.home registry.workDir = .ok entered →
      host.files.get? entered = some .directory →
      host.Holds (registry.executed host line.program)
        { line with program := registry.programPath line.program } program →
      ∃ spawned registry' host' process,
        registry.spawn role line host = (.ok spawned, registry', host') ∧
        host'.process? spawned.process = some process ∧ process.program = program [] := by
  let started : CommandLine := { line with program := registry.programPath line.program }
  have hslash : '/' ∈ started.program.toList := by
    show '/' ∈ (registry.programPath line.program).toList
    rw [registry.programPath_of_isQualified hqualified]
    exact Path.slash_mem_join registry.workDir hqualified.slash_mem
  refine ⟨fun place => executed_twice_joined hqualified, fun honce place =>
    executed_once_joined hqualified honce, ?_, ?_⟩
  · intro spawned registry' host' hspawn
    cases hlaunch : registry.launch line host with
    | mk result after =>
        cases result with
        | error e =>
            rw [spawn_of_refused role hlaunch] at hspawn
            exact nomatch congrArg Prod.fst hspawn
        | ok number =>
            rw [spawn_of_started role hlaunch] at hspawn
            obtain rfl := Except.ok.inj (congrArg Prod.fst hspawn)
            obtain rfl := congrArg (fun result => result.2.2) hspawn
            obtain ⟨entered, program, hstartable, hstarts⟩ := Host.exists_startable hlaunch
            obtain ⟨process, hprocess, hprogram⟩ := hstarts.runs
            refine ⟨program, process, hprocess, hprogram, ?_⟩
            rw [executed_of_enter hstartable.enter]
            exact (host.findProgram_eq_ok_iff started hslash).mp hstartable.found
  · intro entered program henter hdirectory hholds
    rw [executed_of_enter henter] at hholds
    have hstartable : host.Startable registry.workDir started entered program :=
      ⟨henter, hdirectory, (host.findProgram_eq_ok_iff started hslash).mpr hholds⟩
    obtain ⟨number, host', hstarts⟩ := hstartable.starts
    obtain ⟨process, hprocess, hprogram⟩ := hstarts.runs
    have hlaunch : registry.launch line host = (.ok number, host') := hstarts.started
    exact ⟨_, _, host', process, spawn_of_started role hlaunch, hprocess, hprogram⟩

/-! ## A working directory that is given by a relative path -/

/-- A host that runs in a directory of its own, with stand-in clients at places below it. -/
def hostWith (places : List Place) : Host :=
  .new installed (places.foldl (fun files place =>
    (files.makeDirectories [] place.dropLast).put place (.file (executableFor "/standin/client") true))
    (.bare ["here"]))

/-- A registry that starts processes in a directory. -/
def inDirectory (workDir : Path) : Registry := .new workDir 5000

/-- By an absolute path and by a relative one that leads nowhere else the client is found. -/
theorem spawn_executes_absolute :
    (inDirectory "/here/w").executed (hostWith [["here", "w", "bin", "x"]]) "bin/x" =
      .ok ["here", "w", "bin", "x"] ∧
    (inDirectory ".").executed (hostWith [["here", "bin", "x"]]) "./bin/x" =
      .ok ["here", "bin", "x"] := by
  have henterable : (inDirectory "/here/w").Enterable (hostWith [["here", "w", "bin", "x"]]) :=
    ⟨["here", "w"], by decide +kernel⟩
  have henterable' : (inDirectory ".").Enterable (hostWith [["here", "bin", "x"]]) :=
    ⟨["here"], by decide +kernel⟩
  constructor
  · exact ((spawn_executes (inDirectory "/here/w") _ .client ⟨"bin/x", []⟩ (by decide)).2.1
      (Or.inl (by decide)) _).mpr ⟨henterable, by decide +kernel⟩
  · exact ((spawn_executes (inDirectory ".") _ .client ⟨"./bin/x", []⟩ (by decide)).2.1
      (Or.inr (Or.inr (by decide +kernel))) _).mpr ⟨henterable', by decide +kernel⟩

/-- By a relative path another client is executed than the one that the working directory and the name
    lead to, and if there is no other the start is refused. -/
theorem executed_elsewhere :
    (inDirectory "w").joined (hostWith [["here", "w", "bin", "x"], ["here", "w", "w", "bin", "x"]])
        "bin/x" = .ok ["here", "w", "bin", "x"] ∧
    (inDirectory "w").executed (hostWith [["here", "w", "bin", "x"], ["here", "w", "w", "bin", "x"]])
        "bin/x" = .ok ["here", "w", "w", "bin", "x"] ∧
    ((inDirectory "w").spawn .client ⟨"bin/x", []⟩ (hostWith [["here", "w", "bin", "x"]])).1 =
      .error (.spawn "w/bin/x" .notFound) := by
  refine ⟨by decide +kernel, by decide +kernel, ?_⟩
  have hrefused : ((hostWith [["here", "w", "bin", "x"]]).start "w" ⟨"w/bin/x", []⟩).1 =
      .error .notFound := by
    decide +kernel
  have hlaunch : (inDirectory "w").launch ⟨"bin/x", []⟩ (hostWith [["here", "w", "bin", "x"]]) =
      (.error .notFound, ((hostWith [["here", "w", "bin", "x"]]).start "w" ⟨"w/bin/x", []⟩).2) :=
    Prod.ext hrefused rfl
  exact congrArg Prod.fst (spawn_of_refused .client hlaunch)

end Registry

end Conformance
