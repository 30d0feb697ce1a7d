import Conformance.Console
import Conformance.FileCheck
import Conformance.Registry
import Conformance.Report
import Conformance.Stage

/-!
# Sessions

A session is one run against one server and its clients. Its operations record outcomes and go on;
whatever server, client or machine do, none of them fails. The session holds at most one server. Each
client lives for one operation: it is started, its reply is compared, its end is awaited, and the lines
with which the server announces its connections are read.

A client that lacks the server's public key fetches it on a connection of its own first, so it takes
two connections instead of one.
-/

namespace Conformance

/-- A run against one server on a machine. -/
structure Session (σ : Type) where
  stage : Stage
  registry : Registry
  server : Option Spawned
  report : Report
  console : Console
  machine : σ

/-- An operation of a session. -/
abbrev Run (σ : Type) := StateM (Session σ)

namespace Session

variable {σ : Type} [Machine σ]

/-- A session that has done nothing. -/
def new (stage : Stage) (brokenConsole : Bool) (machine : σ) : Session σ where
  stage := stage
  registry := .new stage.config.workDir stage.config.timeouts.readMillis
  server := none
  report := .empty
  console := .fresh stage.config.report brokenConsole
  machine := machine

/-- Whether the session holds a server. -/
def serverRunning (session : Session σ) : Bool := session.server.isSome

/-- The directory in which server and client run. -/
def workDir (session : Session σ) : Path := session.stage.config.workDir

/-- The files as they are now. -/
def files (session : Session σ) : FileSystem := Machine.files session.machine

/-! ## Showing and recording -/

/-- Print a block of text. -/
def print (block : ReportStyle → String) : Run σ Unit :=
  modify fun session => { session with console := session.console.print block }

/-- Print and record an outcome. -/
def record (outcome : Outcome) : Run σ Unit := do
  print (Console.outcome · outcome)
  modify fun session => { session with report := session.report.record outcome }

/-- Print and record outcomes in order. -/
def recordAll : List Outcome → Run σ Unit
  | [] => pure ()
  | outcome :: rest => do record outcome; recordAll rest

/-- Print and record an outcome, and tell whether it passed. -/
def recordVerdict (outcome : Outcome) : Run σ Bool := do
  record outcome
  return outcome.passed

/-- Begin a titled scenario. -/
def begin (title : String) : Run σ Unit := do
  print (Console.heading · title)
  modify fun session => { session with report := session.report.begin title }

/-- Print a line. -/
def note (text : String) : Run σ Unit := print fun _ => Console.note text

/-! ## Processes -/

/-- Start a program and track it. -/
def spawn (role : Role) (line : CommandLine) : Run σ (Except Fault Spawned) :=
  modifyGet fun session =>
    let (result, registry, machine) := session.registry.spawn role line session.machine
    (result, { session with registry := registry, machine := machine })

/-- Wait for a process to end, as long as a shutdown may take. -/
def wait (id : ProcessId) : Run σ (Except Fault ExitStatus) :=
  modifyGet fun session =>
    let millis := session.stage.config.timeouts.shutdownMillis
    let (result, registry, machine) := session.registry.wait id millis session.machine
    (result, { session with registry := registry, machine := machine })

/-- Read lines of a process. -/
def readLines (count : Nat) (spawned : Spawned) : Run σ (List ReadLine × Spawned) :=
  modifyGet fun session =>
    let (lines, spawned, machine) :=
      Spawned.readLines count session.registry.readMillis spawned session.machine
    ((lines, spawned), { session with machine := machine })

/-- Read one line of a process. -/
def readLine (spawned : Spawned) : Run σ (ReadLine × Spawned) :=
  modifyGet fun session =>
    let (line, spawned, machine) :=
      spawned.readLine session.registry.readMillis session.machine
    ((line, spawned), { session with machine := machine })

/-- Look at the next line of a process. -/
def peekLine (spawned : Spawned) : Run σ (ReadLine × Spawned) :=
  modifyGet fun session =>
    let (line, spawned, machine) :=
      spawned.peekLine session.registry.readMillis session.machine
    ((line, spawned), { session with machine := machine })

/-- Hold a server, or none. -/
def holdServer (server : Option Spawned) : Run σ Unit :=
  modify fun session => { session with server := server }

/-! ## The server -/

/-- Kill the server if there is one, without looking at its output. -/
def stopServer : Run σ Unit :=
  modify fun session =>
    match session.server with
    | none => session
    | some server =>
      let (registry, machine) := session.registry.kill server.id session.machine
      { session with server := none, registry := registry, machine := machine }

/-- Check that a server which has printed its banner now waits for a client. The line stays unread. -/
def checkReady (spawned : Spawned) : Run σ (Bool × Spawned) := do
  let (ready, spawned) ← peekLine spawned
  if ready.actual = waitingLine then return (true, spawned)
  record (.infrastructure "  Waiting for server to accept" waitingLine
    ("Unexpected server output: " ++ ready.actual))
  return (false, spawned)

/-- Start the server in place of one that still runs, and check what it prints before it waits for the
    first client. -/
def startServer (description : String) (banner : Banner) : Run σ Bool := do
  stopServer
  let spec := (← get).stage.config.server
  print (Console.command · spec.commandLine)
  note description
  match ← spawn .server spec.commandLine with
  | .error e =>
    record (.infrastructure "  Launching server" "server running" e.message)
    return false
  | .ok spawned =>
    let expected := banner.lines spec
    let (seen, spawned) ← readLines expected.length spawned
    let outcomes := Expectation.lines "  Startup" expected .asEmitted seen
    recordAll outcomes
    let (ready, spawned) ← checkReady spawned
    holdServer (some spawned)
    return outcomes.all (·.passed) && ready

/-- Read the lines of one connection of a server. -/
def readConnection (server : Spawned) : Run σ (List Outcome × Spawned) := do
  let (waiting, server) ← readLine server
  let (connected, server) ← readLine server
  return (Expectation.handshake waiting connected, server)

/-- Read the lines of some connections of a server. -/
def readConnections : Nat → Spawned → Run σ (List Outcome × Spawned)
  | 0, server => return ([], server)
  | n + 1, server => do
    let (first, server) ← readConnection server
    let (rest, server) ← readConnections n server
    return (first ++ rest, server)

/-- Read the lines of some connections of the server that is held, if one is. -/
def consumeConnections (count : Nat) : Run σ Unit := do
  match (← get).server with
  | none => return
  | some server =>
    let (anomalies, server) ← readConnections count server
    holdServer (some server)
    recordAll anomalies

/-- Wait for a server to end, and record it as a failure of the environment if it does not. -/
def awaitEnd (server : Spawned) : Run σ Bool := do
  match ← wait server.id with
  | .ok _ => return true
  | .error e =>
    record (.infrastructure "  Server exit" "server exits" e.message)
    return false

/-- After an authorised request to exit: read the last connection, check that the server says that it
    ended, and wait until it has. -/
def awaitServer (description : String) : Run σ Bool := do
  match (← get).server with
  | none =>
    record (.infrastructure description terminatedLine "no server is running")
    return false
  | some server =>
    holdServer none
    let (anomalies, server) ← readConnection server
    recordAll anomalies
    let (last, server) ← readLine server
    let terminated ← recordVerdict (Expectation.termination description last)
    let ended ← awaitEnd server
    return terminated && ended

/-! ## Clients -/

/-- The number of connections that the next client makes. -/
def expectedConnections (session : Session σ) : Nat :=
  if session.stage.config.publicKeyFile?.any session.files.exists? then 1 else 2

/-- Start a client, and record a failure of the environment if it cannot be started. With the client
    comes the number of connections that it makes. -/
def launchClient (description expected : String) (request : Request) :
    Run σ (Option (Spawned × Nat)) := do
  let connections := (← get).expectedConnections
  let line := (← get).stage.config.client.commandLine request
  print (Console.command · line)
  match ← spawn .client line with
  | .ok spawned => return some (spawned, connections)
  | .error e =>
    record (.infrastructure description expected e.message)
    return none

/-- Wait for a client to end, and read the lines of its connections. -/
def finishClient (client : Spawned) (connections : Nat) : Run σ Unit := do
  match ← wait client.id with
  | .ok _ => pure ()
  | .error e => record (.infrastructure "  Client exit" "client exits" e.message)
  consumeConnections connections

/-- Run a client and compare the one line that it prints with a reply. -/
def run (description : String) (expect : Reply) (request : Request) : Run σ Bool := do
  match ← launchClient description expect.token request with
  | none => return false
  | some (client, connections) =>
    let (seen, client) ← readLine client
    let passed ← recordVerdict (Expectation.line description expect.token seen)
    finishClient client connections
    return passed

/-- Run a client and compare the lines that it prints with tokens. -/
def runLines (description : String) (expected : List String) (order : ListOrder)
    (request : Request) : Run σ Bool := do
  match ← launchClient description (expected.head?.getD "") request with
  | none => return false
  | some (client, connections) =>
    let (seen, client) ← readLines expected.length client
    let outcomes := Expectation.lines description expected order seen
    recordAll outcomes
    finishClient client connections
    return outcomes.all (·.passed)

/-! ## Files -/

/-- Replace the files. -/
def setFiles (files : FileSystem) : Run σ Unit :=
  modify fun session => { session with machine := Machine.withFiles session.machine files }

/-- Do something to the files. -/
def changeFiles {α : Type} (change : FileSystem → α × FileSystem) : Run σ α := do
  let (result, files) := change (← get).files
  setFiles files
  return result

/-- Remove a file if there is one, and tell whether one was removed. -/
def removeFile (path : Path) : Run σ Bool := changeFiles (·.removeIfExists path)

/-- Compare the content that the client fetched for a user with the file that it was set from. -/
def checkFetched (source : Path) (user : String) : Run σ Bool := do
  let workDir := (← get).workDir
  recordVerdict (← changeFiles (FileCheck.roundTrip · workDir source (Stage.fetchedFile user)))

/-- Compare the entries of a listing with those expected. -/
def checkList (file : Path) (expected : List String) (order : ListOrder) : Run σ Bool := do
  let workDir := (← get).workDir
  recordVerdict (← changeFiles (FileCheck.list · workDir file expected order))

/-- Check the size of a file. -/
def checkSize (file : Path) (expected : Nat) : Run σ Bool := do
  recordVerdict (FileCheck.size (← get).files (← get).workDir file expected)

/-- Check that a file is there, or that it is not. -/
def checkExistence (file : Path) (shouldExist : Bool) : Run σ Bool := do
  recordVerdict (FileCheck.existence (← get).files (← get).workDir file shouldExist)

/-- Check that the bytes at a position of a file spell a text. -/
def checkPeek (file : Path) (offset : Nat) (expected : String) : Run σ Bool := do
  recordVerdict (FileCheck.peek (← get).files (← get).workDir file offset expected)

/-- Check the users of a directory file in order, and the content length of each. -/
def checkDirectory (file : Path) (expected : List Directory.Footprint) : Run σ Bool := do
  let outcomes := FileCheck.directory (← get).files (← get).workDir file expected
  recordAll outcomes
  return outcomes.all (·.passed)

/-- Remove the files in a list, as far as they are there. -/
def removeFiles : List Path → Run σ Unit
  | [] => pure ()
  | path :: rest => do let _ ← removeFile path; removeFiles rest

/-- Remove the files that server and client are known to make. -/
def cleanGenerated : Run σ Unit := do
  removeFiles (← get).stage.generatedFiles
  print (Console.step · "Cleaning up temp files")

/-! ## The end -/

/-- Kill everything that the session started, and tell how much that was. -/
def terminateAll : Run σ Nat :=
  modifyGet fun session =>
    let (count, registry, machine) := session.registry.terminateAll session.machine
    (count, { session with server := none, registry := registry, machine := machine })

/-- Kill everything that the session started. -/
def killProcesses : Run σ Nat := do
  let killed ← terminateAll
  print (Console.step · "Stopping any errant processes")
  return killed

/-- End the session and hand its report over, unless the console cannot be flushed. -/
def finish : Run σ (Except Fault Report) := do
  let _ ← terminateAll
  let session ← get
  return if session.console.broken then .error (.io .consoleClosed) else .ok session.report

end Session

end Conformance
