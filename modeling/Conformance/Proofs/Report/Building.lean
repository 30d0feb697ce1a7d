import Conformance.Proofs.Report

/-!
# How a report is built

A report grows by two operations in any order: scenarios are begun, and outcomes are recorded. Whatever
the order, no outcome is lost and none is filed under a scenario that it does not belong to. The route:

* `outcomes_enterAll` — what was recorded is what the report holds, in the same order;
* `scenarios_enterAll` — behind a scenario that is still open, outcomes go into it until the next one is
  begun, and from there on each scenario has the outcomes up to the one after it;
* `ofEntries_built` — from nothing the same holds, with a scenario of its own for outcomes that come before
  any was begun.
-/

namespace Conformance.Report

/-- An operation on a report. -/
inductive Entry where
  | begin (title : String)
  | record (outcome : Outcome)
deriving DecidableEq, Repr

/-- The title under which a scenario is begun. -/
def Entry.title? : Entry → Option String
  | .begin title => some title
  | .record _ => none

/-- The outcome that is recorded. -/
def Entry.outcome? : Entry → Option Outcome
  | .begin _ => none
  | .record outcome => some outcome

/-- Carry out an operation. -/
def enter (report : Report) : Entry → Report
  | .begin title => report.begin title
  | .record outcome => report.record outcome

/-- Carry out operations one after the other. -/
def enterAll (report : Report) (entries : List Entry) : Report := entries.foldl enter report

/-- The report that operations build from nothing. -/
def ofEntries (entries : List Entry) : Report := empty.enterAll entries

/-- The titles that are begun, in order. -/
def begun (entries : List Entry) : List String := entries.filterMap Entry.title?

/-- The outcomes that are recorded, in order. -/
def recorded (entries : List Entry) : List Outcome := entries.filterMap Entry.outcome?

/-- The outcomes that are recorded before the next scenario is begun. -/
def leading (entries : List Entry) : List Outcome :=
  recorded (entries.takeWhile fun entry => entry.title?.isNone)

/-- The scenarios that are begun, each with what is recorded before the one after it. -/
def sections : List Entry → List Scenario
  | [] => []
  | .begin title :: rest => ⟨title, leading rest⟩ :: sections rest
  | .record _ :: rest => sections rest

/-- The scenario for outcomes that no begun scenario precedes, if there are any. -/
def preliminary (outcomes : List Outcome) : List Scenario :=
  if outcomes = [] then [] else [⟨Scenario.setupTitle, outcomes⟩]

@[simp] theorem leading_nil : leading [] = [] := rfl

@[simp] theorem leading_begin (title : String) (rest : List Entry) :
    leading (.begin title :: rest) = [] := rfl

@[simp] theorem leading_record (outcome : Outcome) (rest : List Entry) :
    leading (.record outcome :: rest) = outcome :: leading rest := rfl

theorem map_title_sections (entries : List Entry) :
    (sections entries).map Scenario.title = begun entries := by
  induction entries with
  | nil => rfl
  | cons entry rest ih =>
      cases entry with
      | begin title => exact congrArg (title :: ·) ih
      | record outcome => exact ih

/-! ## Adding to what is there -/

variable (report : Report)

/-- **NO OUTCOME IS LOST**: operations add what they record, behind all that was there. -/
theorem outcomes_enterAll (entries : List Entry) :
    (report.enterAll entries).outcomes = report.outcomes ++ recorded entries := by
  induction entries generalizing report with
  | nil => exact (List.append_nil _).symm
  | cons entry rest ih =>
      show ((report.enter entry).enterAll rest).outcomes = _
      rw [ih]
      cases entry with
      | begin title =>
          show (report.begin title).outcomes ++ recorded rest = _
          rw [outcomes_begin]
          rfl
      | record outcome =>
          show (report.record outcome).outcomes ++ recorded rest = _
          rw [outcomes_record, List.append_assoc]
          rfl

/-- An outcome goes into the last scenario, whatever stands before it. -/
theorem recordLast_concat (outcome : Outcome) (before : List Scenario) (last : Scenario) :
    Scenario.recordLast outcome (before ++ [last]) =
      before ++ [{ last with outcomes := last.outcomes ++ [outcome] }] := by
  induction before with
  | nil => rfl
  | cons scenario rest ih =>
      obtain ⟨next, more, hrest⟩ := List.exists_cons_of_ne_nil
        (show rest ++ [last] ≠ [] from List.concat_ne_nil last rest)
      rw [List.cons_append, hrest, Scenario.recordLast, ← hrest, ih]
      · rfl
      · exact nofun

/-- **EVERY OUTCOME HAS ITS PLACE**: what is recorded goes into the open scenario until the next one is
    begun. -/
theorem scenarios_enterAll (before : List Scenario) (title : String) (outcomes : List Outcome)
    (entries : List Entry) :
    (enterAll ⟨before ++ [⟨title, outcomes⟩]⟩ entries).scenarios =
      before ++ ⟨title, outcomes ++ leading entries⟩ :: sections entries := by
  -- the open scenario is the last one; to begin another moves it to those that nothing goes into any more
  induction entries generalizing before title outcomes with
  | nil =>
      show before ++ [⟨title, outcomes⟩] = before ++ [⟨title, outcomes ++ []⟩]
      rw [List.append_nil]
  | cons entry rest ih =>
      cases entry with
      | begin next =>
          show (enterAll ⟨(before ++ [⟨title, outcomes⟩]) ++ [⟨next, []⟩]⟩ rest).scenarios = _
          rw [ih, List.append_assoc, leading_begin, List.append_nil]
          rfl
      | record outcome =>
          show (enterAll ⟨Scenario.recordLast outcome (before ++ [⟨title, outcomes⟩])⟩
            rest).scenarios = _
          rw [recordLast_concat, ih, leading_record, List.append_assoc]
          rfl

/-! ## From nothing -/

theorem scenarios_ofEntries (entries : List Entry) :
    (ofEntries entries).scenarios = preliminary (leading entries) ++ sections entries := by
  cases entries with
  | nil => rfl
  | cons entry rest =>
      cases entry with
      | begin title => exact scenarios_enterAll [] title [] rest
      | record outcome => exact scenarios_enterAll [] Scenario.setupTitle [outcome] rest

theorem scenarios_ofEntries_begin (before : List Entry) (title : String) (after : List Entry) :
    (ofEntries (before ++ .begin title :: after)).scenarios =
      (ofEntries before).scenarios ++ ⟨title, leading after⟩ :: sections after := by
  show (empty.enterAll (before ++ .begin title :: after)).scenarios = _
  rw [enterAll, List.foldl_append]
  exact scenarios_enterAll (ofEntries before).scenarios title [] after

/-- What a report says about the operations that built it. -/
structure Built (entries : List Entry) (report : Report) : Prop where
  outcomes : report.outcomes = recorded entries
  /-- The scenario nobody began stands in front, and it is there just if it has outcomes. -/
  scenarios : report.scenarios = preliminary (leading entries) ++ sections entries
  titles : report.scenarios.map Scenario.title =
    (if leading entries = [] then [] else [Scenario.setupTitle]) ++ begun entries
  /-- A scenario stands behind those of all earlier operations, and holds what was recorded after it was
      begun and before the next one was. -/
  placed : ∀ before title after, entries = before ++ .begin title :: after →
    report.scenarios = (ofEntries before).scenarios ++ ⟨title, leading after⟩ :: sections after
  total : report.total = (recorded entries).length
  failures : report.failures = (recorded entries).filter fun outcome => !outcome.passed
  passed : report.passed = true ↔ ∀ outcome ∈ recorded entries, outcome.passed = true

/-- **A REPORT KEEPS EVERY OUTCOME IN ITS PLACE**, for every sequence of operations. -/
theorem ofEntries_built (entries : List Entry) : Built entries (ofEntries entries) := by
  have houtcomes : (ofEntries entries).outcomes = recorded entries :=
    outcomes_enterAll empty entries
  refine ⟨houtcomes, scenarios_ofEntries entries, ?_, ?_, ?_, ?_, ?_⟩
  · rw [scenarios_ofEntries, List.map_append, map_title_sections, preliminary]
    split <;> rfl
  · rintro before title after rfl
    exact scenarios_ofEntries_begin before title after
  · rw [total, houtcomes]
  · rw [failures, houtcomes]
  · rw [Report.passed, houtcomes, List.all_eq_true]

/-- An outcome before any scenario, a scenario without outcomes, and one with two. -/
example : (ofEntries [.record (.compare "a" "1" "2"), .begin "one", .begin "two",
    .record (.compare "b" "3" "3"), .record (.compare "c" "4" "4")]).scenarios =
      [⟨"setup", [.compare "a" "1" "2"]⟩, ⟨"one", []⟩,
        ⟨"two", [.compare "b" "3" "3", .compare "c" "4" "4"]⟩] := by
  decide

end Conformance.Report
