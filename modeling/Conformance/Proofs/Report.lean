import Conformance.Report

/-!
# What a report holds

Scenarios only sort the outcomes of a run: beginning one adds no outcome, and recording adds one
behind all those that were there. Nothing takes an outcome back, so a failure that was recorded is never
lost.
-/

namespace Conformance.Report

theorem flatMap_recordLast (outcome : Outcome) (scenarios : List Scenario) :
    (Scenario.recordLast outcome scenarios).flatMap Scenario.outcomes =
      scenarios.flatMap Scenario.outcomes ++ [outcome] := by
  induction scenarios with
  | nil => rfl
  | cons scenario rest ih =>
      cases rest with
      | nil =>
          show (scenario.outcomes ++ [outcome]) ++ [] = (scenario.outcomes ++ []) ++ [outcome]
          rw [List.append_nil, List.append_nil]
      | cons next rest =>
          show scenario.outcomes ++ (Scenario.recordLast outcome (next :: rest)).flatMap _ = _
          rw [ih, ← List.append_assoc]
          rfl

/-- An outcome is recorded behind all others. -/
theorem outcomes_record (report : Report) (outcome : Outcome) :
    (report.record outcome).outcomes = report.outcomes ++ [outcome] :=
  flatMap_recordLast outcome report.scenarios

/-- Beginning a scenario records nothing. -/
theorem outcomes_begin (report : Report) (title : String) :
    (report.begin title).outcomes = report.outcomes := by
  show List.flatMap Scenario.outcomes (report.scenarios ++ [⟨title, []⟩]) = _
  rw [List.flatMap_append]
  exact List.append_nil _

/-- A report passes just if nothing in it failed. -/
theorem passed_iff (report : Report) : report.passed = true ↔ report.failures = [] := by
  rw [passed, failures, List.filter_eq_nil_iff, List.all_eq_true]
  simp

/-- Record outcomes in order. -/
def recordAll (report : Report) (outcomes : List Outcome) : Report := outcomes.foldl record report

theorem recordAll_append (report : Report) (outcomes more : List Outcome) :
    report.recordAll (outcomes ++ more) = (report.recordAll outcomes).recordAll more :=
  List.foldl_append

theorem outcomes_recordAll (report : Report) (outcomes : List Outcome) :
    (report.recordAll outcomes).outcomes = report.outcomes ++ outcomes := by
  induction outcomes generalizing report with
  | nil => exact (List.append_nil _).symm
  | cons outcome rest ih =>
      show ((report.record outcome).recordAll rest).outcomes = _
      rw [ih, outcomes_record, List.append_assoc, List.singleton_append]

end Conformance.Report
