import Conformance.Suite.Scenarios

/-!
# Running a suite

The fixtures are made, the steps are taken, and whatever came of them the server is stopped and the
fixtures are removed. A suite that was cut short by a failure also removes the files that server and
client made; one that went through has done so itself.
-/

namespace Conformance

namespace Session

variable {σ : Type} [Machine σ]

/-- Make the fixtures in order until one cannot be made. -/
def makeFixtures : List Fixture → Run σ (Except Fault Unit)
  | [] => return .ok ()
  | fixture :: rest => do
    match ← makeFile fixture.name fixture.content with
    | .ok () => makeFixtures rest
    | .error e => return .error e

/-- Remove the fixtures. -/
def dropFixtures : List Fixture → Run σ Unit
  | [] => return ()
  | fixture :: rest => do dropFile fixture.name; dropFixtures rest

/-- Take the steps of a suite, and clean up after them. -/
def runSteps (steps : List Step) : Run σ (Except Fault Unit) := do
  let result ← performAll steps
  stopServer
  match result with
  | .ok () => pure ()
  | .error _ => cleanGenerated
  dropFixtures Fixture.all
  return result

/-- Run a suite. It fails before its first step if the cast lacks a player or a fixture cannot be
    made. -/
def runSuite (suite : Suite) : Run σ (Except Fault Unit) := do
  let stage := (← get).stage
  match stage.cast.players with
  | .error e => return .error e
  | .ok players =>
    match ← makeFixtures Fixture.all with
    | .error e => return .error e
    | .ok () => runSteps (suite.steps players stage.config.server.directoryFile)

end Session

end Conformance
