import Conformance.Outcome
import Conformance.Text.Quoted

/-!
# The report of a run

A report is a list of titled scenarios, each with its outcomes in the order in which they were
recorded. Outcomes that come before any scenario was begun are kept under the title `setup`.
-/

namespace Conformance

/-- The outcomes of one titled scenario. -/
structure Scenario where
  title : String
  outcomes : List Outcome
deriving DecidableEq, Repr

/-- Everything recorded during a run. -/
structure Report where
  scenarios : List Scenario
deriving DecidableEq, Repr

/-- The title of a scenario that nobody began. -/
def Scenario.setupTitle : String := "setup"

/-- Add an outcome to the last scenario, beginning one if there is none. -/
def Scenario.recordLast (outcome : Outcome) : List Scenario → List Scenario
  | [] => [⟨setupTitle, [outcome]⟩]
  | [last] => [{ last with outcomes := last.outcomes ++ [outcome] }]
  | scenario :: rest => scenario :: recordLast outcome rest

namespace Report

/-- A report of nothing. -/
def empty : Report := ⟨[]⟩

variable (report : Report)

/-- Begin a scenario; later outcomes belong to it. -/
def begin (title : String) : Report := ⟨report.scenarios ++ [⟨title, []⟩]⟩

/-- Record an outcome in the scenario begun last. -/
def record (outcome : Outcome) : Report := ⟨Scenario.recordLast outcome report.scenarios⟩

/-- All outcomes in order. -/
def outcomes : List Outcome := report.scenarios.flatMap Scenario.outcomes

/-- The failed outcomes in order. -/
def failures : List Outcome := report.outcomes.filter (!·.passed)

/-- The number of outcomes. -/
def total : Nat := report.outcomes.length

/-- Whether every outcome passed. -/
def passed : Bool := report.outcomes.all (·.passed)

/-! ## The summary -/

/-- The line of one failed outcome. The texts that other programs produced are quoted, so they stay
    on the line. -/
def failureLine (title : String) (outcome : Outcome) : String :=
  "[" ++ title ++ "] " ++ outcome.description ++ ": expected " ++ Text.quoted outcome.expected ++
    ", got " ++ Text.quoted outcome.actual ++ "\n"

/-- The lines of the failed outcomes, scenario by scenario. -/
def failureLines : List String :=
  report.scenarios.flatMap fun scenario =>
    (scenario.outcomes.filter (!·.passed)).map (failureLine scenario.title)

/-- The text that sums a run up: counts, one line for each failure, and the result. -/
def summary : String :=
  let failed := report.failures
  let infrastructure := (failed.filter (·.kind = .infrastructure)).length
  "=== kvconf Report ===\n\n" ++
    "Scenarios: " ++ Text.decimal report.scenarios.length ++ "\n" ++
    "Checks: " ++ Text.decimal report.total ++ "\n" ++
    "Passed: " ++ Text.decimal (report.total - failed.length) ++ "\n" ++
    "Failed: " ++ Text.decimal failed.length ++ " (" ++
      Text.decimal (failed.length - infrastructure) ++ " protocol, " ++
      Text.decimal infrastructure ++ " infrastructure)\n" ++
    (if failed.isEmpty then ""
      else "\n=== Failures ===\n" ++ String.join report.failureLines) ++
    "\n=== Result: " ++ (if report.passed then "PASS" else "FAIL") ++ " ===\n"

end Report

end Conformance
