import Conformance.Launch
import Conformance.Standin.Store

/-!
# The stand-in server

A server that prints what the protocol asks for and does nothing else. It makes its key pair if there is
none, sets up the tree of stored files, and then takes every line that clients append to the wire for a
connection, until one carries the request to exit.
-/

namespace Conformance.Standin.Server

/-- The configuration that the arguments give. -/
def specOfArgs (args : List String) : ServerSpec :=
  let spec : ServerSpec := {}
  { spec with
    keyFileStem := (flagValue? "-k" args).getD spec.keyFileStem
    directoryFile := (flagValue? "-f" args).getD spec.directoryFile }

/-- The port as the arguments give it. -/
def portOfArgs (args : List String) : String := (flagValue? "-p" args).getD "9999"

/-- Print a line as `echo` does. -/
def announce (line : String) : Task Unit := Task.print (Text.echoLine line)

/-- The first line that the server prints, for a port in any spelling. -/
def listeningLine (port : String) (spec : ServerSpec) : String :=
  "Listening on port " ++ port ++ " using (key/data) = (" ++ spec.keyFileStem ++ ", " ++
    spec.directoryFile ++ ")"

/-- Make a key pair unless there is one. -/
def ensureKeys (spec : ServerSpec) : Task Unit := do
  if !(← Task.isFile spec.publicKeyPath) then
    announce spec.generatingKeysLine
    writeLine spec.publicKeyPath .output "public"
    writeLine spec.privateKeyPath .output "private"

/-- Set up the tree of stored files: what was saved if there is a directory file, else nothing. -/
def setUpTree (spec : ServerSpec) : Task Unit := do
  let _ ← Task.removeTree Task.deepest liveTree
  let _ ← Task.makeDirectories "" (Path.pieces liveTree)
  if ← Task.isFile spec.directoryFile then
    announce spec.loadedLine
    if ← Task.isDirectory savedTree then
      let _ ← Task.copyTree Task.deepest savedTree liveTree
  else announce spec.fileNotFoundLine

/-- How long the server waits before it looks for a connection again, in microseconds. -/
def pause : Nat := 20000

/-- Wait until the wire has more lines than were seen. -/
def awaitLine (seen : Nat) : Nat → Task Unit
  | 0 => return ()
  | rounds + 1 => do
    let count := (feedLines (← loadOrNothing wireFile)).length
    if seen < count then return ()
    Task.sleep pause
    awaitLine seen rounds

/-- Take connections until one carries the request to exit. -/
def serve (seen : Nat) : Nat → Task Unit
  | 0 => return ()
  | rounds + 1 => do
    Task.say waitingLine
    awaitLine seen lifetime
    Task.say (connectedPrefix ++ "127.0.0.1")
    let lines := feedLines (← loadOrNothing wireFile)
    if lines[seen]? = some (Text.encode exitWord) then
      Task.say waitingLine
      Task.say (connectedPrefix ++ "0.0.0.0")
      Task.say terminatedLine
    else serve (seen + 1) rounds

/-- The server. -/
def session (args : List String) : Task Unit := do
  let spec := specOfArgs args
  let _ ← Task.makeDirectories "" [".fake"]
  announce (listeningLine (portOfArgs args) spec)
  ensureKeys spec
  setUpTree spec
  writeLine nameFile .output spec.directoryFile
  let _ ← Task.save wireFile .output []
  serve 0 lifetime

/-- The server as a program. -/
def program (args : List String) (_ : Environment) : Program :=
  session args fun _ => .exit 0

end Conformance.Standin.Server
