/-!
# Outcomes

The result of one check: what was checked, what was expected, what was seen, and the verdict. An
outcome is a plain value; how it is shown and counted is decided elsewhere.
-/

namespace Conformance

/-- What a failure is about: the behaviour under test, or the environment of the test. -/
inductive OutcomeKind where
  | protocol
  | infrastructure
deriving DecidableEq, Repr

namespace OutcomeKind

/-- Both kinds. -/
def all : List OutcomeKind := [.protocol, .infrastructure]

/-- The name under which data files spell the kind. -/
def label : OutcomeKind → String
  | protocol => "protocol"
  | infrastructure => "infrastructure"

end OutcomeKind

/-- The result of one check. -/
structure Outcome where
  description : String
  expected : String
  actual : String
  passed : Bool
  kind : OutcomeKind
deriving DecidableEq, Repr

namespace Outcome

/-- A check that passes if what was seen is exactly what was expected. -/
def compare (description expected actual : String) : Outcome :=
  ⟨description, expected, actual, expected = actual, .protocol⟩

/-- A comparison passes for equal texts and for no others. -/
@[simp] theorem passed_compare (description expected actual : String) :
    (compare description expected actual).passed = true ↔ expected = actual :=
  decide_eq_true_iff

/-- A check of the protocol whose verdict was reached elsewhere. -/
def verdict (description expected actual : String) (passed : Bool) : Outcome :=
  ⟨description, expected, actual, passed, .protocol⟩

/-- A failure of the environment. -/
def infrastructure (description expected actual : String) : Outcome :=
  ⟨description, expected, actual, false, .infrastructure⟩

/-- Whether this is a failure of the environment. -/
def isInfrastructureFailure (outcome : Outcome) : Bool :=
  !outcome.passed && outcome.kind = .infrastructure

end Outcome

end Conformance
