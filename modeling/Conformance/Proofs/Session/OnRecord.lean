import Conformance.Proofs.Session.Accounting

/-!
# Nothing fails off the record

No operation of a session takes back what was recorded; it appends outcomes, and only the beginning of a
scenario appends anything else (`Appends`). An operation with a verdict is never bad news without a
failed outcome to show for it (`Answers`). Both are kept when actions are put together, so an operation
has them from its parts. For the three operations that read from processes the verdict takes what their
accounts say (`ClientRun`, `ServerStart`, `ServerEnd`).

A whole run takes nothing back either (`outcomes_operateAll`), so a run that once had bad news ends with a
report that did not pass (`not_passed_of_bad_verdict`).
-/

namespace Conformance.Session

variable {σ α β : Type}

/-! ## Appending and answering -/

/-- An action that does nothing to the outcomes but append some. -/
def Appends (act : Run σ α) : Prop :=
  ∀ s, ∃ added, (act.after s).report = s.report.recordAll added

/-- An action with a verdict that is never bad without a failed outcome among those it appends. -/
def Answers (act : Run σ Bool) : Prop :=
  ∀ s, ∃ added, (act.after s).report = s.report.recordAll added ∧
    (act.value s = false → ∃ outcome ∈ added, outcome.passed = false)

theorem appends_of_same {act : Run σ α} (h : ∀ s, (act.after s).report = s.report) : Appends act :=
  fun s => ⟨[], h s⟩

theorem Answers.appends {act : Run σ Bool} (h : Answers act) : Appends act :=
  fun s => (h s).imp fun _ => And.left

theorem appends_bind {act : Run σ α} {next : α → Run σ β} (hact : Appends act)
    (hnext : ∀ a, Appends (next a)) : Appends (act >>= next) := by
  intro s
  obtain ⟨added, hadded⟩ := hact s
  obtain ⟨more, hmore⟩ := hnext (act.value s) (act.after s)
  refine ⟨added ++ more, ?_⟩
  rw [Report.recordAll_append, ← hadded]
  exact hmore

theorem answers_bind {act : Run σ α} {next : α → Run σ Bool} (hact : Appends act)
    (hnext : ∀ a, Answers (next a)) : Answers (act >>= next) := by
  intro s
  obtain ⟨added, hadded⟩ := hact s
  obtain ⟨more, hmore, hverdict⟩ := hnext (act.value s) (act.after s)
  refine ⟨added ++ more, ?_, fun hbad => ?_⟩
  · rw [Report.recordAll_append, ← hadded]
    exact hmore
  · obtain ⟨outcome, houtcome, hfailed⟩ := hverdict hbad
    exact ⟨outcome, List.mem_append_right _ houtcome, hfailed⟩

theorem appends_get : Appends (get : Run σ (Session σ)) := appends_of_same fun _ => rfl

theorem appends_record (outcome : Outcome) : Appends (record outcome : Run σ Unit) :=
  fun _ => ⟨[outcome], rfl⟩

theorem answers_recordVerdict (outcome : Outcome) : Answers (recordVerdict outcome : Run σ Bool) :=
  fun _ => ⟨[outcome], rfl, fun hbad => ⟨outcome, List.mem_singleton_self _, hbad⟩⟩

/-- If not all outcomes passed, one failed. -/
theorem exists_failed {outcomes : List Outcome}
    (h : ¬ ∀ outcome ∈ outcomes, outcome.passed = true) :
    ∃ outcome ∈ outcomes, outcome.passed = false := by
  simpa only [not_forall, Bool.not_eq_true, exists_prop] using h

/-- The verdict on several outcomes is bad if one of them failed. -/
theorem answers_recordAll (outcomes : List Outcome) :
    Answers (do recordAll outcomes; return outcomes.all (·.passed) : Run σ Bool) := by
  intro s
  obtain ⟨console, hafter⟩ := ends_recordAll (s := s) outcomes
  refine ⟨outcomes, congrArg Session.report hafter, fun hbad => exists_failed fun hall => ?_⟩
  exact Bool.false_ne_true (hbad.symm.trans (List.all_eq_true.mpr hall))

variable [Machine σ]

/-! ## Operations that read from processes -/

/-- Only a wait that ended well leaves nothing on record that failed. -/
theorem passed_overdue_iff {description expected : String} {ended : Except Fault ExitStatus} :
    (∀ outcome ∈ overdue description expected ended, outcome.passed = true) ↔
      ∃ status, ended = .ok status := by
  cases ended with
  | ok status => exact iff_of_true nofun ⟨status, rfl⟩
  | error e => exact iff_of_false (fun hall => nomatch hall _ List.mem_cons_self) nofun

theorem answers_runLines (description : String) (expected : List String) (order : ListOrder)
    (request : Request) : Answers (runLines description expected order request : Run σ Bool) := by
  intro s
  have hrun := ends_runLines (s := s) description expected order request
  rw [Ends, ClientRun] at hrun
  dsimp only at hrun
  split at hrun
  · obtain ⟨-, -, -, message, hreport⟩ := hrun
    exact ⟨[_], hreport, fun _ => ⟨_, List.mem_singleton_self _, rfl⟩⟩
  · obtain ⟨seen, client, machine₁, ended, registry, machine₂, lines, -, -, -, -, -, -, -, hreport,
      hpassed⟩ := hrun
    refine ⟨_, hreport, fun hbad => ?_⟩
    obtain ⟨outcome, houtcome, hfailed⟩ :=
      exists_failed (mt hpassed.mpr (Bool.eq_false_iff.mp hbad))
    exact ⟨outcome, List.mem_append_left _ houtcome, hfailed⟩

theorem answers_run (description : String) (expect : Reply) (request : Request) :
    Answers (run description expect request : Run σ Bool) := by
  rw [run_eq_runLines]
  exact answers_runLines description [expect.token] .asEmitted request

theorem answers_startServer (description : String) (banner : Banner) :
    Answers (startServer description banner : Run σ Bool) := by
  intro s
  have hstart := ends_startServer (s := s) description banner
  rw [Ends, ServerStart] at hstart
  dsimp only at hstart
  split at hstart
  · obtain ⟨-, -, -, message, hreport⟩ := hstart
    exact ⟨[_], hreport, fun _ => ⟨_, List.mem_singleton_self _, rfl⟩⟩
  · obtain ⟨seen, spawned, machine₁, next, server, -, -, -, -, -, hreport, hready⟩ := hstart
    exact ⟨_, hreport, fun hbad => exists_failed (mt hready.mpr (Bool.eq_false_iff.mp hbad))⟩

theorem answers_awaitServer (description : String) :
    Answers (awaitServer description : Run σ Bool) := by
  intro s
  have hend := ends_awaitServer (s := s) description
  rw [Ends, ServerEnd] at hend
  obtain ⟨-, hend⟩ := hend
  split at hend
  · exact ⟨[_], hend.2, fun _ => ⟨_, List.mem_singleton_self _, rfl⟩⟩
  · obtain ⟨waiting, connected, last, left, machine, -, hreport, hpassed⟩ := hend
    refine ⟨_, hreport, fun hbad => exists_failed fun hall => ?_⟩
    -- nothing failed, so the last line came and the wait ended well
    have hlast := (Expectation.termination_passed_iff description last).mp
      (hall _ (List.mem_append_right _ List.mem_cons_self))
    have hended := fun outcome (hmem : outcome ∈ overdue _ _ _) =>
      hall outcome (List.mem_append_right _ (List.mem_cons_of_mem _ hmem))
    have hgood := hpassed.mpr
      ⟨hlast, Registry.exists_wait_eq_ok_iff.mp (passed_overdue_iff.mp hended)⟩
    exact Bool.false_ne_true (hbad.symm.trans hgood)

/-! ## Checks of files -/

theorem answers_checkExistence (file : Path) (shouldExist : Bool) :
    Answers (checkExistence file shouldExist : Run σ Bool) :=
  answers_bind appends_get fun _ => answers_bind appends_get fun _ => answers_recordVerdict _

theorem answers_checkFetched (source : Path) (user : String) :
    Answers (checkFetched source user : Run σ Bool) :=
  answers_bind appends_get fun _ =>
    answers_bind (appends_of_same fun _ => rfl) fun _ => answers_recordVerdict _

theorem answers_checkList (file : Path) (expected : List String) (order : ListOrder) :
    Answers (checkList file expected order : Run σ Bool) :=
  answers_bind appends_get fun _ =>
    answers_bind (appends_of_same fun _ => rfl) fun _ => answers_recordVerdict _

theorem answers_checkSize (file : Path) (expected : Nat) :
    Answers (checkSize file expected : Run σ Bool) :=
  answers_bind appends_get fun _ => answers_bind appends_get fun _ => answers_recordVerdict _

theorem answers_checkPeek (file : Path) (offset : Nat) (expected : String) :
    Answers (checkPeek file offset expected : Run σ Bool) :=
  answers_bind appends_get fun _ => answers_bind appends_get fun _ => answers_recordVerdict _

theorem answers_checkDirectory (file : Path) (expected : List Directory.Footprint) :
    Answers (checkDirectory file expected : Run σ Bool) :=
  answers_bind appends_get fun _ => answers_bind appends_get fun _ => answers_recordAll _

/-! ## Operations without a verdict -/

theorem appends_removeFiles (paths : List Path) : Appends (removeFiles paths : Run σ Unit) := by
  induction paths with
  | nil => exact appends_of_same fun _ => rfl
  | cons path rest ih => exact appends_bind (appends_of_same fun _ => rfl) fun _ => ih

theorem appends_cleanGenerated : Appends (cleanGenerated : Run σ Unit) :=
  appends_bind appends_get fun _ =>
    appends_bind (appends_removeFiles _) fun _ => appends_of_same fun _ => rfl

theorem appends_makeFile (file : Path) (content : Bytes) :
    Appends (makeFile file content : Run σ _) := by
  refine appends_bind appends_get fun session => ?_
  split
  · exact appends_of_same fun _ => rfl
  · exact appends_of_same fun _ => rfl

theorem appends_stopServer : Appends (stopServer : Run σ Unit) :=
  appends_of_same fun s => (stopServer_keeps s).2.2.2

/-! ## Every operation -/

/-- The report when an operation gets to recording: the beginning of a scenario comes first. -/
def Operation.opened (report : Report) : Operation → Report
  | .step (.begin title) => report.begin title
  | _ => report

/-- The verdict of an operation that has one. -/
def Operation.verdict? : Operation → Option (Run σ Bool)
  | .step (.start description banner) => some (startServer description banner)
  | .step (.run description expect request) => some (Session.run description expect request)
  | .step (.awaitServer description) => some (Session.awaitServer description)
  | .step (.existence file shouldExist) => some (checkExistence file shouldExist)
  | .step (.fetched source user) => some (checkFetched source user)
  | .step (.list file expected order) => some (checkList file expected order)
  | .step (.size file expected) => some (checkSize file expected)
  | .step (.peek file offset expected) => some (checkPeek file offset expected)
  | .step (.directory file expected) => some (checkDirectory file expected)
  | .runLines description expected order request =>
      some (Session.runLines description expected order request)
  | _ => none

/-- What an operation appends, and that it never has bad news without a failed outcome. -/
def OnRecord (operation : Operation) (s : Session σ) : Prop :=
  ∃ added, ((operate operation).after s).report = (operation.opened s.report).recordAll added ∧
    ∀ act, operation.verdict? = some act → (operate operation).after s = act.after s ∧
      (act.value s = false → ∃ outcome ∈ added, outcome.passed = false)

variable {s : Session σ}

theorem onRecord_of_answers {operation : Operation} {act : Run σ Bool} (hact : Answers act)
    (hafter : (operate operation).after s = act.after s)
    (hopened : operation.opened s.report = s.report)
    (hverdict : operation.verdict? = some act) : OnRecord operation s := by
  obtain ⟨added, hadded, hfailed⟩ := hact s
  refine ⟨added, ?_, fun act' hact' => ?_⟩
  · rw [hafter, hopened, hadded]
  · obtain rfl : act = act' := Option.some.inj (hverdict.symm.trans hact')
    exact ⟨hafter, hfailed⟩

theorem onRecord_of_appends {operation : Operation}
    (h : Appends (operate operation : Run σ Unit))
    (hopened : operation.opened s.report = s.report)
    (hverdict : (operation.verdict? : Option (Run σ Bool)) = none) : OnRecord operation s := by
  obtain ⟨added, hadded⟩ := h s
  refine ⟨added, by rw [hopened, hadded], fun act hact => ?_⟩
  exact nomatch hverdict.symm.trans hact

/-- **Every operation is on record**, whatever server, clients and machine do. -/
theorem onRecord (operation : Operation) (s : Session σ) : OnRecord operation s := by
  cases operation with
  | step step =>
      cases step with
      | begin title => exact ⟨[], rfl, nofun⟩
      | clean =>
          exact onRecord_of_appends
            (appends_bind appends_cleanGenerated fun _ => appends_of_same fun _ => rfl) rfl rfl
      | start description banner =>
          exact onRecord_of_answers (answers_startServer description banner) rfl rfl rfl
      | run description expect request =>
          exact onRecord_of_answers (answers_run description expect request) rfl rfl rfl
      | awaitServer description =>
          exact onRecord_of_answers (answers_awaitServer description) rfl rfl rfl
      | existence file shouldExist =>
          exact onRecord_of_answers (answers_checkExistence file shouldExist) rfl rfl rfl
      | fetched source user =>
          exact onRecord_of_answers (answers_checkFetched source user) rfl rfl rfl
      | list file expected order =>
          exact onRecord_of_answers (answers_checkList file expected order) rfl rfl rfl
      | size file expected =>
          exact onRecord_of_answers (answers_checkSize file expected) rfl rfl rfl
      | peek file offset expected =>
          exact onRecord_of_answers (answers_checkPeek file offset expected) rfl rfl rfl
      | directory file expected =>
          exact onRecord_of_answers (answers_checkDirectory file expected) rfl rfl rfl
      | make file size =>
          exact onRecord_of_appends
            (appends_bind (appends_makeFile file _) fun _ => appends_of_same fun _ => rfl) rfl rfl
      | remove file => exact onRecord_of_appends (appends_of_same fun _ => rfl) rfl rfl
  | runLines description expected order request =>
      exact onRecord_of_answers (answers_runLines description expected order request) rfl rfl rfl
  | stopServer => exact onRecord_of_appends appends_stopServer rfl rfl
  | killProcesses => exact onRecord_of_appends (appends_of_same fun _ => rfl) rfl rfl
  | record outcome => exact onRecord_of_appends (appends_record outcome) rfl rfl
  | note text => exact onRecord_of_appends (appends_of_same fun _ => rfl) rfl rfl
  | restage stage => exact onRecord_of_appends (appends_of_same fun _ => rfl) rfl rfl

/-! ## Whole runs -/

/-- Beginning a scenario adds no outcome. -/
theorem outcomes_opened (report : Report) (operation : Operation) :
    (operation.opened report).outcomes = report.outcomes := by
  unfold Operation.opened
  split
  · exact report.outcomes_begin _
  · rfl

/-- **A run takes nothing back**: what was on record before it comes first on record behind it. -/
theorem outcomes_operateAll (operations : List Operation) (s : Session σ) :
    s.report.outcomes <+: ((operateAll operations).after s).report.outcomes := by
  induction operations generalizing s with
  | nil => exact List.prefix_refl _
  | cons operation rest ih =>
      obtain ⟨added, hadded, -⟩ := onRecord operation s
      have hstep : s.report.outcomes <+: ((operate operation).after s).report.outcomes := by
        rw [hadded, Report.outcomes_recordAll, outcomes_opened]
        exact List.prefix_append _ _
      exact hstep.trans (ih _)

/-- **Bad news is never forgotten**: once an operation gave a bad verdict, the report says that the run
    failed, whatever follows. -/
theorem not_passed_of_bad_verdict {operation : Operation} {act : Run σ Bool}
    (hverdict : operation.verdict? = some act) (hbad : act.value s = false)
    (rest : List Operation) :
    ((operateAll (operation :: rest)).after s).report.passed = false := by
  obtain ⟨added, hadded, hact⟩ := onRecord operation s
  obtain ⟨outcome, houtcome, hfailed⟩ := (hact act hverdict).2 hbad
  have hrecorded : outcome ∈ ((operate operation).after s).report.outcomes := by
    rw [hadded, Report.outcomes_recordAll]
    exact List.mem_append_right _ houtcome
  have hkept : outcome ∈ ((operateAll (operation :: rest)).after s).report.outcomes :=
    (outcomes_operateAll rest _).subset hrecorded
  exact List.all_eq_false.mpr ⟨outcome, hkept, Bool.eq_false_iff.mp hfailed⟩

/-- **EVERY CHECK IS ON RECORD**: whatever a server and its clients print, however long they take and
    whichever of them cannot be started, the operations that read from them record what their accounts
    say; every operation only appends to the report, and is never bad news without a failed outcome to
    show for it; and the report is handed over as it is. -/
theorem outcomes_accounted (s : Session σ) :
    (∀ description expected order request,
      Ends (runLines description expected order request) s
        (ClientRun description expected order request s)) ∧
    (∀ description expect request,
      Ends (Session.run description expect request) s
        (ClientRun description [expect.token] .asEmitted request s)) ∧
    (∀ description banner, Ends (startServer description banner) s (ServerStart banner s)) ∧
    (∀ description, Ends (awaitServer description) s (ServerEnd description s)) ∧
    (∀ operation, OnRecord operation s) ∧
    Ends finish s fun handed s' => s'.report = s.report ∧
      handed = if s.console.broken then .error (.io .consoleClosed) else .ok s.report :=
  ⟨ends_runLines, ends_run, ends_startServer, ends_awaitServer, fun operation => onRecord operation s,
    rfl, rfl⟩

end Conformance.Session
