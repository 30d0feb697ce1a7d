import Conformance.Directory.Layout
import Conformance.Launch
import Conformance.Standin.Store
import Conformance.Standin.Writer

/-!
# The stand-in client

A client that follows the protocol well enough to rehearse suites. It carries out one request on the
tree of stored files, announces its connections, and prints one reply. It fetches the public key on a
connection of its own if it lacks it.
-/

namespace Conformance.Standin.Client

/-- What the client takes from its command line. -/
structure Options where
  keyFile : Path
  user : String
  password : String
  opcode : String
  param : String
deriving DecidableEq, Repr

/-- The options among the arguments; the port, the server and a second parameter are of no use here. -/
def Options.ofArgs (args : List String) : Options where
  keyFile := (flagValue? "-k" args).getD "localhost.pub"
  user := (flagValue? "-u" args).getD ""
  password := (flagValue? "-w" args).getD ""
  opcode := (flagValue? "-C" args).getD ""
  param := (flagValue? "-1" args).getD ""

variable (options : Options)

/-- Whether the user is registered with the password. -/
def authenticate : Task Bool := do
  if !(← Task.isFile (passwordFile options.user)) then return false
  let stored ← loadOrNothing (passwordFile options.user)
  return withoutFeeds stored == Text.encode options.password

/-- Copy a file to a path, or into the directory that stands there. -/
def copyTo (source target : Path) : Task Unit := do
  let _ ← Task.copyFile source (← Task.copyTarget source target)

/-- Register the user. -/
def register : Task Reply := do
  if ← Task.isFile (passwordFile options.user) then return .errUserExists
  let _ ← Task.save (passwordFile options.user) .output (Text.encode options.password)
  writeLine orderFile .append options.user
  return .ok

/-- The size of a file, if a file stands at the path. -/
def fileSize? (path : Path) : Task (Option Nat) := do
  match ← Task.inspect path with
  | .ok info => return if info.kind = .file then some info.size else none
  | .error _ => return none

/-- Store a file as the user's content. -/
def setContent : Task Reply := do
  match ← fileSize? options.param with
  | none => return .errReqFmt
  | some size =>
    if Directory.maxContentLength < size then return .errReqFmt
    copyTo options.param (contentFile options.user)
    return .ok

/-- Fetch the content of a user. -/
def getContent : Task Reply := do
  if !(← Task.isFile (passwordFile options.param)) then return .errNoUser
  if !(← Task.isFile (contentFile options.param)) then return .errNoData
  copyTo (contentFile options.param) (options.param ++ ".file.dat")
  return .ok

/-- The content that is stored for a user, nothing if none is. -/
def storedContent (name : Bytes) : Task Bytes := do
  let path := contentFile (Text.decode name)
  if ← Task.isFile path then loadOrNothing path else return []

/-- Append the records of users to a file, one after the other. -/
def writeRecords (file : Path) : List Bytes → Task Unit
  | [] => return ()
  | name :: rest => do
    let content ← storedContent name
    let _ ← Task.save file .append (recordBytes name content)
    writeRecords file rest

/-- Write the directory file, and keep what it stands for. A client that cannot make the file ends
    without a reply. -/
def persist : Task Reply := do
  let file := Text.decode (withoutFeeds (← loadOrNothing nameFile))
  let _ ← Task.removeTree Task.deepest savedTree
  let _ ← Task.copyTree Task.deepest liveTree savedTree
  match ← Task.save file .output [] with
  | .error _ => Task.exit 2
  | .ok () =>
    writeRecords file (feedLines (← loadOrNothing orderFile))
    return .ok

/-- Carry out a request of a registered user. Requests that the client does not know do nothing. -/
def carryOut : Task Reply := do
  match Opcode.ofToken? options.opcode with
  | some .setProfileFile => setContent options
  | some .getProfileFile => getContent options
  | some .allUsers => copyTo orderFile options.param; return .ok
  | some .persist => persist
  | _ => return .ok

/-- Answer the request, and tell which line announces its connection. -/
def answer : Task (Reply × String) := do
  if options.opcode = Opcode.register.token then return (← register options, requestWord)
  if !(← authenticate options) then return (.errLogin, requestWord)
  let word := if options.opcode = Opcode.exit.token then exitWord else requestWord
  return (← carryOut options, word)

/-- Make what is missing: the trees, the file of names, and the copy of the public key, which is fetched
    on a connection of its own. -/
def prepare : Task Unit := do
  let _ ← Task.makeDirectories "" (Path.pieces (liveTree ++ "/users"))
  let _ ← Task.makeDirectories "" (Path.pieces (liveTree ++ "/content"))
  let _ ← Task.save orderFile .append []
  if !(← Task.isFile options.keyFile) then
    writeLine wireFile .append keyWord
    writeLine options.keyFile .output "public"

/-- The client. -/
def session : Task Unit := do
  prepare options
  let (reply, word) ← answer options
  writeLine wireFile .append word
  Task.say reply.token

/-- The client as a program. -/
def program (args : List String) (_ : Environment) : Program :=
  session (Options.ofArgs args) fun _ => .exit 0

end Conformance.Standin.Client
