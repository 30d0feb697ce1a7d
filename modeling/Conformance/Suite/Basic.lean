import Conformance.Fault

/-!
# Built-in suites

The suites that a run can be made of, in the order in which they run. Each has a name for the command
line and a line that says what it checks.
-/

namespace Conformance

/-- A built-in suite. -/
inductive Suite where
  | registration
  | authentication
  | content
  | allUsers
  | persistAuth
  | persistence
  | persistRestart
  | restartSmoke
  | contentStress
deriving DecidableEq, Repr

namespace Suite

/-- Every suite in the order in which they run. -/
def all : List Suite :=
  [.registration, .authentication, .content, .allUsers, .persistAuth, .persistence, .persistRestart,
    .restartSmoke, .contentStress]

/-- The name on the command line. -/
def name : Suite → String
  | registration => "registration"
  | authentication => "authentication"
  | content => "content"
  | allUsers => "all-users"
  | persistAuth => "persist-auth"
  | persistence => "persistence"
  | persistRestart => "persist-restart"
  | restartSmoke => "restart-smoke"
  | contentStress => "content-stress"

/-- The name under which data files spell the suite. -/
def label : Suite → String
  | registration => "Registration"
  | authentication => "Authentication"
  | content => "Content"
  | allUsers => "AllUsers"
  | persistAuth => "PersistAuth"
  | persistence => "Persistence"
  | persistRestart => "PersistRestart"
  | restartSmoke => "RestartSmoke"
  | contentStress => "ContentStress"

/-- What the suite checks, in one line. -/
def description : Suite → String
  | registration =>
    "REGISTER succeeds once per name; re-registering fails with any password"
  | authentication => "EXIT____ needs a registered user with the right password"
  | content => "SETPFILE/GETPFILE round trip, cross-user reads, 1 MiB cap"
  | allUsers => "ALLUSERS lists exactly the registered names"
  | persistAuth => "PERSIST_ needs valid credentials and writes the directory file"
  | persistence => "directory file size and record layout survive restarts"
  | persistRestart => "content set after the last PERSIST_ is lost on restart"
  | restartSmoke => "users, content and overwrites survive PERSIST_ and warm restarts"
  | contentStress => "repeated SETPFILE/GETPFILE overwrites with text and binary content"

/-- The position among all suites. -/
def index (suite : Suite) : Nat := all.idxOf suite

/-- The suite with a name. -/
def ofName? (text : String) : Option Suite := all.find? fun suite => suite.name = text

/-- The suite with a name, or the name as unknown. -/
def parse (text : String) : Except Fault Suite :=
  match ofName? text with
  | some suite => .ok suite
  | none => .error (.config (.unknownSuite text))

theorem mem_all (suite : Suite) : suite ∈ all := by
  cases suite <;> decide

/-- A name is read back as its suite. -/
theorem ofName?_name (suite : Suite) : ofName? suite.name = some suite := by
  cases suite <;> decide

end Suite

end Conformance
