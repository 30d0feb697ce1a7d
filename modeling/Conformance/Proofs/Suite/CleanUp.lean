import Conformance.Installation
import Conformance.Proofs.FileSystem
import Conformance.Proofs.Session.Stage
import Conformance.Suite.Run

/-!
# What a suite leaves behind

A suite that has begun cleans up however it ends. Its steps end with the removal of the generated files;
a suite that is cut short makes up for that, and either way the server is stopped and the fixtures are
removed (`ends_runSteps`). After the last removal nothing is added any more: `Tidied` says that from one
session to another no server and no file has come, and every action of the clean-up has this property.

A suite has begun once its players are known and its fixtures are made. Before that it returns at once:
a server that was held goes on running, and fixtures that were made stay (`runSuite_cleanUp`).
-/

namespace Conformance

/-- What cleaning up expects of a machine: replaced files are replaced, and killing writes nothing. -/
structure Machine.Settled (σ : Type) [Machine σ] : Prop where
  files_withFiles (machine : σ) (files : FileSystem) :
    Machine.files (Machine.withFiles machine files) = files
  files_kill (machine : σ) (process : Nat) :
    Machine.files (Machine.kill machine process) = Machine.files machine

/-- A host keeps its files when a process is killed on it. -/
theorem Host.settled : Machine.Settled Host where
  files_withFiles _ _ := rfl
  files_kill host process := by
    show (host.kill process).files = host.files
    rw [Host.kill]
    split
    · rfl
    · split <;> rfl

namespace Session

variable {σ : Type} [Machine σ] {s s' s'' : Session σ}

/-! ## Tidying -/

/-- From one session to another nothing has come: no server, and no file under any path. -/
structure Tidied (s s' : Session σ) : Prop where
  stage : s'.stage = s.stage
  server : s.server = none → s'.server = none
  files : ∀ path, s'.files.IsFile path → s.files.IsFile path

theorem Tidied.refl (s : Session σ) : Tidied s s := ⟨rfl, id, fun _ => id⟩

theorem Tidied.trans (h : Tidied s s') (h' : Tidied s' s'') : Tidied s s'' where
  stage := h'.stage.trans h.stage
  server hnone := h'.server (h.server hnone)
  files path hfile := h.files path (h'.files path hfile)

/-- What was gone stays gone. -/
theorem Tidied.gone {paths : List Path} (h : Tidied s s')
    (hgone : ∀ path ∈ paths, ¬ s.files.IsFile path) : ∀ path ∈ paths, ¬ s'.files.IsFile path :=
  fun path hpath hfile => hgone path hpath (h.files path hfile)

theorem Tidied.workDir (h : Tidied s s') : s'.workDir = s.workDir :=
  congrArg (·.config.workDir) h.stage

theorem tidied_print (block : ReportStyle → String) (s : Session σ) :
    Tidied s ((print block).after s) :=
  ⟨rfl, id, fun _ => id⟩

/-! ## Cleaned up -/

/-- The server is gone, and so are the files of a session and the fixtures. -/
structure CleanedUp (before after : Session σ) : Prop where
  server : after.server = none
  generated : ∀ path ∈ before.stage.generatedFiles, ¬ after.files.IsFile path
  fixtures : ∀ fixture ∈ Fixture.all, ¬ after.files.IsFile (before.workDir.join fixture.name)

theorem CleanedUp.of_stage {before before' after : Session σ} (h : CleanedUp before' after)
    (hstage : before'.stage = before.stage) : CleanedUp before after where
  server := h.server
  generated := hstage ▸ h.generated
  fixtures := (show before'.workDir = before.workDir from congrArg (·.config.workDir) hstage) ▸
    h.fixtures

/-- Every suite ends with the removal of the generated files. -/
theorem getLast?_steps (suite : Suite) (players : Players) (directoryFile : Path) :
    (suite.steps players directoryFile).getLast? = some .clean := by
  cases suite <;> rfl

theorem aside_makeFixtures (fixtures : List Fixture) :
    Aside (makeFixtures fixtures : Run σ _) := by
  induction fixtures with
  | nil => exact aside_pure _
  | cons fixture rest ih =>
      refine aside_bind (aside_makeFile _ _) fun result => ?_
      cases result with
      | ok _ => exact ih
      | error e => exact aside_pure _

/-- With all players known a suite begins by making its fixtures. -/
theorem ends_runSuite {suite : Suite} {players : Players} {post : Except Fault Unit → Session σ → Prop}
    (hplayers : s.stage.cast.players = .ok players)
    (hmade : (makeFixtures Fixture.all).value s = .ok () →
      Ends (runSteps (suite.steps players s.stage.config.server.directoryFile))
        ((makeFixtures Fixture.all).after s) post)
    (hfailed : ∀ e, (makeFixtures Fixture.all).value s = .error e →
      post (.error e) ((makeFixtures Fixture.all).after s)) :
    Ends (runSuite suite) s post := by
  refine ends_get ?_
  dsimp only
  rw [hplayers]
  refine ends_step ?_
  cases hvalue : (makeFixtures Fixture.all).value s with
  | ok _ => exact hmade hvalue
  | error e => exact hfailed e hvalue

section Settled

variable (settled : Machine.Settled σ)

include settled

theorem ends_removeFile (path : Path) (s : Session σ) :
    Ends (removeFile path) s fun _ s' => Tidied s s' ∧ ¬ s'.files.IsFile path := by
  have hfiles : ((removeFile path).after s).files = (s.files.removeIfExists path).2 :=
    settled.files_withFiles s.machine _
  refine ⟨⟨rfl, id, fun other hfile => ?_⟩, ?_⟩
  · rw [hfiles] at hfile
    exact FileSystem.isFile_of_removeIfExists hfile
  · rw [hfiles]
    exact FileSystem.not_isFile_removeIfExists s.files path

/-- **Files that are removed one after the other are all gone**, whether they were there or not. -/
theorem ends_removeFiles (paths : List Path) (s : Session σ) :
    Ends (removeFiles paths) s fun _ s' =>
      Tidied s s' ∧ ∀ path ∈ paths, ¬ s'.files.IsFile path := by
  induction paths generalizing s with
  | nil => exact ⟨.refl s, nofun⟩
  | cons path rest ih =>
      refine ends_bind (ends_removeFile settled path s) fun _ s₁ ⟨htidied, hpath⟩ => ?_
      refine ends_mono (ih s₁) fun _ s₂ ⟨htidied₂, hrest⟩ => ⟨htidied.trans htidied₂, ?_⟩
      intro other hother
      rcases List.mem_cons.mp hother with rfl | hother
      · exact fun hfile => hpath (htidied₂.files _ hfile)
      · exact hrest other hother

theorem ends_cleanGenerated (s : Session σ) :
    Ends cleanGenerated s fun _ s' =>
      Tidied s s' ∧ ∀ path ∈ s.stage.generatedFiles, ¬ s'.files.IsFile path := by
  refine ends_get (ends_bind (ends_removeFiles settled _ s) fun _ s₁ ⟨htidied, hgone⟩ => ?_)
  have hprint := tidied_print (Console.step · "Cleaning up temp files") s₁
  exact ⟨htidied.trans hprint, hprint.gone hgone⟩

theorem ends_dropFile (file : Path) (s : Session σ) :
    Ends (dropFile file) s fun _ s' => Tidied s s' ∧ ¬ s'.files.IsFile (s.workDir.join file) :=
  ends_get (ends_bind (ends_removeFile settled (s.workDir.join file) s) fun _ _ h => h)

theorem ends_dropFixtures (fixtures : List Fixture) (s : Session σ) :
    Ends (dropFixtures fixtures) s fun _ s' =>
      Tidied s s' ∧ ∀ fixture ∈ fixtures, ¬ s'.files.IsFile (s.workDir.join fixture.name) := by
  induction fixtures generalizing s with
  | nil => exact ⟨.refl s, nofun⟩
  | cons fixture rest ih =>
      refine ends_bind (ends_dropFile settled fixture.name s)
        fun _ s₁ ⟨htidied, hfixture⟩ => ?_
      refine ends_mono (ih s₁) fun _ s₂ ⟨htidied₂, hrest⟩ => ⟨htidied.trans htidied₂, ?_⟩
      intro other hother
      rcases List.mem_cons.mp hother with rfl | hother
      · exact fun hfile => hfixture (htidied₂.files _ hfile)
      · rw [← htidied.workDir]
        exact hrest other hother

theorem files_kill (registry : Registry) (id : ProcessId) (machine : σ) :
    Machine.files (registry.kill id machine).2 = Machine.files machine := by
  rw [Registry.kill]
  split
  · rfl
  · exact settled.files_kill machine _

theorem ends_stopServer (s : Session σ) :
    Ends stopServer s fun _ s' => Tidied s s' ∧ s'.server = none := by
  rw [Ends]
  cases hserver : s.server with
  | none =>
      rw [after_stopServer_none hserver]
      exact ⟨.refl s, hserver⟩
  | some server =>
      rw [after_stopServer_some hserver]
      refine ⟨⟨rfl, fun _ => rfl, fun path hfile => ?_⟩, rfl⟩
      have hfiles := files_kill settled s.registry server.id s.machine
      rw [files, hfiles] at hfile
      exact hfile

/-! ## Steps -/

/-- Steps that end with the removal of the generated files have removed them if all were taken. -/
theorem ends_performAll_clean (front : List Step) (s : Session σ) :
    Ends (performAll (front ++ [.clean])) s fun result s' => s'.stage = s.stage ∧
      (result = .ok () → ∀ path ∈ s.stage.generatedFiles, ¬ s'.files.IsFile path) := by
  induction front generalizing s with
  | nil =>
      have hclean : Ends (perform .clean) s fun result s₁ => result = .ok () ∧ Tidied s s₁ ∧
          ∀ path ∈ s.stage.generatedFiles, ¬ s₁.files.IsFile path :=
        ends_bind (ends_cleanGenerated settled s) fun _ _ h => ⟨rfl, h⟩
      refine ends_bind hclean ?_
      rintro _ s₁ ⟨rfl, htidied, hgone⟩
      exact ⟨htidied.stage, fun _ => hgone⟩
  | cons step rest ih =>
      have hstage : ((perform step).after s).stage = s.stage := keepsStage_perform step s
      refine ends_step ?_
      cases (perform step).value s with
      | ok _ =>
          refine ends_mono (ih _) fun result s₁ ⟨hkept, hgone⟩ => ⟨hkept.trans hstage, ?_⟩
          rwa [hstage] at hgone
      | error e => exact ⟨hstage, nofun⟩

/-- **A suite that has begun cleans up**, whether all of its steps are taken or one of them fails. -/
theorem ends_runSteps (front : List Step) (s : Session σ) :
    Ends (runSteps (front ++ [.clean])) s fun _ s' => CleanedUp s s' := by
  refine ends_bind (ends_performAll_clean settled front s) fun result s₁ ⟨hstage, hgone⟩ => ?_
  refine ends_bind (ends_stopServer settled s₁) fun _ s₂ ⟨htidied₂, hnone⟩ => ?_
  have hworkDir : s₂.workDir = s.workDir :=
    htidied₂.workDir.trans (congrArg (·.config.workDir) hstage)
  -- either way the generated files are gone before the fixtures are removed
  have hrest : ∀ s₃, Tidied s₂ s₃ → (∀ path ∈ s.stage.generatedFiles, ¬ s₃.files.IsFile path) →
      Ends (do dropFixtures Fixture.all; return result) s₃ fun _ s' => CleanedUp s s' := by
    intro s₃ htidied₃ hgone₃
    refine ends_bind (ends_dropFixtures settled Fixture.all s₃) fun _ s₄ ⟨htidied₄, hfixtures⟩ => ?_
    refine ⟨(htidied₃.trans htidied₄).server hnone, htidied₄.gone hgone₃, ?_⟩
    rwa [← hworkDir, ← htidied₃.workDir]
  cases result with
  | ok _ => exact ends_step (hrest s₂ (.refl s₂) (htidied₂.gone (hgone rfl)))
  | error e =>
      refine ends_bind (ends_cleanGenerated settled s₂) fun _ s₃ ⟨htidied₃, hgone₃⟩ => ?_
      refine hrest s₃ htidied₃ ?_
      rwa [← hstage, ← htidied₂.stage]

/-! ## Suites -/

/-- **A suite cleans up once it has begun.** With all players in the cast and all fixtures made,
    no server, no generated file and no fixture is left, however the steps end. A cast that lacks a
    player ends the suite before anything is done, and a fixture that cannot be made ends it as the
    fixtures before it were left; a server that was held is held on in both cases. -/
theorem runSuite_cleanUp (suite : Suite) (s : Session σ) :
    (∀ players, s.stage.cast.players = .ok players →
      (makeFixtures Fixture.all).value s = .ok () → CleanedUp s ((runSuite suite).after s)) ∧
    (∀ players e, s.stage.cast.players = .ok players →
      (makeFixtures Fixture.all).value s = .error e →
        (runSuite suite).value s = .error e ∧
        (runSuite suite).after s = (makeFixtures Fixture.all).after s ∧
        ((runSuite suite).after s).server = s.server) ∧
    ∀ e, s.stage.cast.players = .error e →
      (runSuite suite).value s = .error e ∧ (runSuite suite).after s = s := by
  refine ⟨fun players hplayers hmade => ?_, fun players e hplayers hmade => ?_, fun e hplayers => ?_⟩
  · have hstage : ((makeFixtures Fixture.all).after s).stage = s.stage :=
      (aside_makeFixtures Fixture.all).stage s
    obtain ⟨front, hfront⟩ := List.getLast?_eq_some_iff.mp
      (getLast?_steps suite players s.stage.config.server.directoryFile)
    have hsuite : Ends (runSuite suite) s fun _ s' =>
        CleanedUp ((makeFixtures Fixture.all).after s) s' := by
      refine ends_runSuite hplayers (fun _ => ?_) fun e he => nomatch hmade.symm.trans he
      rw [hfront]
      exact ends_runSteps settled front _
    exact hsuite.of_stage hstage
  · have hsuite : Ends (runSuite suite) s fun result s' =>
        result = .error e ∧ s' = (makeFixtures Fixture.all).after s := by
      refine ends_runSuite hplayers (fun hok => nomatch hmade.symm.trans hok) fun e' he' => ?_
      rw [Except.error.inj (hmade.symm.trans he')]
      exact ⟨rfl, rfl⟩
    exact ⟨hsuite.1, hsuite.2, hsuite.2 ▸ (aside_makeFixtures Fixture.all).server s⟩
  · have hsuite : Ends (runSuite suite) s fun result s' => result = .error e ∧ s' = s := by
      refine ends_get ?_
      dsimp only
      rw [hplayers]
      exact ⟨rfl, rfl⟩
    exact hsuite

end Settled

/-! ## Ways out before the first step -/

/-- Files in which a directory stands where a fixture should be made. -/
def obstructedFiles : FileSystem :=
  (Standin.deployment ["work"]).put ["work", Fixture.everyByte.name] .directory

/-- A session with the standard cast in which the stand-in server was started over some files. -/
def staffed (files : FileSystem) : Session Host :=
  (startServer "Start" .fresh).after
    (Session.new ⟨Standin.deployedConfig ["work"], .standard⟩ false (Host.new Standin.catalog files))

theorem players_staffed (files : FileSystem) :
    ∃ players, (staffed files).stage.cast.players = .ok players := by
  rw [staffed, keepsStage_startServer]
  exact ⟨_, rfl⟩

set_option maxRecDepth 100000 in
/-- Where nothing is in the way the clean-up can be relied on. -/
theorem runSuite_cleanUp_staffed :
    (staffed (Standin.deployment ["work"])).serverRunning = true ∧
    CleanedUp (staffed (Standin.deployment ["work"]))
      ((runSuite .content).after (staffed (Standin.deployment ["work"]))) := by
  have hready : (staffed (Standin.deployment ["work"])).serverRunning = true ∧
      ((makeFixtures Fixture.all).value (staffed (Standin.deployment ["work"]))).toBool = true := by
    decide +kernel
  obtain ⟨players, hplayers⟩ := players_staffed (Standin.deployment ["work"])
  obtain ⟨_, hmade⟩ := exists_eq_ok_of_toBool hready.2
  obtain ⟨hclean, -, -⟩ :=
    runSuite_cleanUp Host.settled .content (staffed (Standin.deployment ["work"]))
  exact ⟨hready.1, hclean players hplayers hmade⟩

set_option maxRecDepth 100000 in
/-- A directory in place of the third fixture ends a suite with its server held and with the first two
    fixtures in the working directory. -/
theorem runSuite_obstructed :
    ((runSuite .registration).after (staffed obstructedFiles)).serverRunning = true ∧
    ((runSuite .registration).after (staffed obstructedFiles)).files.IsFile
      ((staffed obstructedFiles).workDir.join Fixture.shortText.name) ∧
    ¬ CleanedUp (staffed obstructedFiles)
      ((runSuite .registration).after (staffed obstructedFiles)) := by
  have hleft : ((runSuite .registration).after (staffed obstructedFiles)).serverRunning = true ∧
      ((runSuite .registration).after (staffed obstructedFiles)).files.IsFile
        ((staffed obstructedFiles).workDir.join Fixture.shortText.name) := by
    decide +kernel
  exact ⟨hleft.1, hleft.2, fun h => h.fixtures Fixture.shortText List.mem_cons_self hleft.2⟩

end Session

end Conformance
