import Conformance.Cli.Arguments
import Conformance.Config.Document
import Conformance.Data.Stored
import Conformance.Suite.Run

/-!
# The program

What the program does on a machine: list the suites, predict a size, remove generated files, or run
suites and report on them. Its result is what it prints, what it complains about, and its exit code.
-/

namespace Conformance.Cli

/-- The version of the program. -/
def version : String := "0.1.0"

/-- The name of the program. -/
def programName : String := "kvconf"

/-- Why the program gives up. -/
inductive Failure where
  | loading (path : Path)
  | invalidConfiguration
  | suite (which : Suite)
  | writing (path : Path)
  | closing (fault : Fault)
deriving DecidableEq, Repr

/-- The message of the failure. -/
def Failure.message : Failure → String
  | .loading path => "loading " ++ path
  | .invalidConfiguration => "invalid configuration"
  | .suite which => "suite " ++ which.name
  | .writing path => "writing " ++ path
  | .closing fault => fault.message

/-- How the program ended: its exit code, what it printed, and what it complained about. -/
structure Result where
  code : Nat
  printed : String
  complaint : Option String
deriving DecidableEq, Repr

/-- A program that did what it was asked for. -/
def Result.success (printed : String) : Result := ⟨0, printed, none⟩

/-- A program that gave up after it had printed something. -/
def Result.failure (printed : String) (failure : Failure) : Result :=
  ⟨1, printed, some ("Error: " ++ failure.message)⟩

/-! ## Tables -/

/-- The width of a name in a table. -/
def nameWidth : Nat := 18

/-- A line of a table. -/
def tableLine (name value : String) : String := Console.padded nameWidth name ++ value ++ "\n"

/-- The list of the suites. -/
def suiteTable : String :=
  String.join (Suite.all.map fun suite => tableLine suite.name suite.description)

/-- The sizes of some users' records, and of the file that holds them. -/
def sizeTable (users : List Directory.Footprint) : String :=
  String.join (users.map fun user => tableLine user.name (Text.decimal user.recordSize)) ++
    tableLine "total" (Text.decimal (Directory.size users))

/-! ## Commands -/

/-- Read a configuration file. -/
def readConfig (files : FileSystem) (path : Path) : Except Failure Config :=
  match files.read path with
  | .error _ => .error (.loading path)
  | .ok bytes =>
    match (Text.decode? bytes).bind Config.ofDocument? with
    | some config => .ok config
    | none => .error (.loading path)

/-- The configuration that arguments ask for. -/
def loadConfig (files : FileSystem) (args : ConfigArgs) : Except Failure Config := do
  let config ←
    match args.configPath with
    | some path => readConfig files path
    | none => .ok {}
  .ok { config with workDir := args.workDir.getD config.workDir }

/-- The configuration that the arguments of a run ask for. -/
def loadRunConfig (files : FileSystem) (args : RunArgs) : Except Failure Config := do
  let config ← loadConfig files args.config
  let config := { config with
    server := { config.server with executable := args.serverExe.getD config.server.executable }
    client := { config.client with executable := args.clientExe.getD config.client.executable } }
  .ok (if args.verbose then config.withVerbose true else config)

/-- The stage for a configuration. -/
def makeStage (config : Config) (cast : Cast) : Except Failure Stage :=
  match Stage.new config cast with
  | .ok stage => .ok stage
  | .error _ => .error .invalidConfiguration

variable {σ : Type} [Machine σ]

/-- Run suites in order until one fails. -/
def runSuites : List Suite → Run σ (Except Failure Unit)
  | [] => return .ok ()
  | suite :: rest => do
    match ← Session.runSuite suite with
    | .ok () => runSuites rest
    | .error _ => return .error (.suite suite)

/-- Run suites after killing what an earlier run left, and hand over the report. Whatever is still
    running when a suite fails is killed. -/
def runSession (suites : List Suite) : Run σ (Except Failure Report) := do
  let _ ← Session.killProcesses
  match ← runSuites suites with
  | .error failure =>
    let _ ← Session.terminateAll
    return .error failure
  | .ok () =>
    match ← Session.finish with
    | .ok report => return .ok report
    | .error fault => return .error (.closing fault)

/-- Print or write a report as JSON, if that was asked for. -/
def deliver (args : RunArgs) (report : Report) (printed : String) (code : Nat) (machine : σ) :
    Result × σ :=
  match args.jsonOut with
  | some path =>
    match (Machine.files machine).write path (Text.encode report.document) with
    | .ok files => (⟨code, printed, none⟩, Machine.withFiles machine files)
    | .error _ => (.failure printed (.writing path), machine)
  | none =>
    (⟨code, if args.json then printed ++ report.document ++ "\n" else printed, none⟩, machine)

/-- Run suites and report on them. The exit code tells whether everything passed. -/
def performRun (args : RunArgs) (machine : σ) : Result × σ :=
  let stage := do
    makeStage (← loadRunConfig (Machine.files machine) args) .standard
  match stage with
  | .error failure => (.failure "" failure, machine)
  | .ok stage =>
    let (result, session) :=
      (runSession (args.suites.getD Suite.all)).run (Session.new stage false machine)
    match result with
    | .error failure => (.failure session.console.printed failure, session.machine)
    | .ok report =>
      let printed := session.console.printed ++ "\n" ++ report.summary ++ "\n"
      deliver args report printed (if report.passed then 0 else 1) session.machine

/-- Remove the files that server and client make. -/
def performClean (args : ConfigArgs) (machine : σ) : Result × σ :=
  let stage := do
    makeStage (← loadConfig (Machine.files machine) args) .empty
  match stage with
  | .error failure => (.failure "" failure, machine)
  | .ok stage =>
    let clean : Run σ (Except Fault Report) := do
      Session.cleanGenerated
      Session.finish
    let (_, session) := clean.run (Session.new stage false machine)
    (.success session.console.printed, session.machine)

/-- Do what a command says. -/
def Command.perform (machine : σ) : Command → Result × σ
  | list => (.success suiteTable, machine)
  | expectSize users => (.success (sizeTable users), machine)
  | clean args => performClean args machine
  | run args => performRun args machine

/-- What is said of the program's use. -/
def usage : String :=
  "Usage: kvconf [--log-json] <run|list|expect-size|clean> [ARGS]"

/-- Run the program with its arguments. -/
def main (args : List String) (machine : σ) : Result × σ :=
  match parse args with
  | .error .help => (.success (usage ++ "\n"), machine)
  | .error .version => (.success (programName ++ " " ++ version ++ "\n"), machine)
  | .error .usage => (⟨2, "", some usage⟩, machine)
  | .ok invocation => invocation.command.perform machine

end Conformance.Cli
