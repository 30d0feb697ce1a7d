import Conformance.Path
import Conformance.Request

/-!
# Launching server and client

How each of the two programs is started, and what the server prints when it starts. The client's
command line carries a request as pairs of a flag and a value; `flagValue?` is how a client reads
them back.
-/

namespace Conformance

/-- A program and its arguments. -/
structure CommandLine where
  program : Path
  args : List String
deriving DecidableEq, Repr

/-- Program and arguments with one space between them. -/
def CommandLine.display (line : CommandLine) : String :=
  line.args.foldl (fun text arg => text ++ " " ++ arg) line.program

/-! ## The client -/

/-- How to invoke the client. -/
structure ClientSpec where
  executable : Path := "./obj64/client.exe"
  serverAddress : String := "localhost"
  port : UInt16 := 9999
  publicKeyFile : NativePath := .ofPath "localhost.pub"
deriving DecidableEq, Repr

/-- The flag and the value of each parameter. -/
def Request.paramArgs (request : Request) : List String :=
  (match request.param1 with | some p => ["-1", p] | none => []) ++
  (match request.param2 with | some p => ["-2", p] | none => [])

/-- The command line of one request. -/
def ClientSpec.commandLine (spec : ClientSpec) (request : Request) : CommandLine where
  program := spec.executable
  args :=
    ["-k", spec.publicKeyFile.display, "-s", spec.serverAddress, "-p", Text.decimal spec.port.toNat,
      "-u", request.credential.name, "-w", request.credential.password,
      "-C", request.opcode.token] ++ request.paramArgs

/-- The last value given for a flag, reading pairs of a flag and a value from the left; a flag
    without a value at the end is not read. -/
def flagValue? (flag : String) : List String → Option String
  | key :: value :: rest => (flagValue? flag rest).or (if key = flag then some value else none)
  | _ => none

/-! ## The server -/

/-- How to launch the server. -/
structure ServerSpec where
  executable : Path := "./obj64/server.exe"
  port : UInt16 := 9999
  keyFileStem : String := "rsa"
  directoryFile : Path := "company.dir"
  threads : UInt32 := 1
  buckets : UInt32 := 16
  quotaIntervalSecs : UInt64 := 60
  uploadQuotaBytes : UInt64 := 1048576
  downloadQuotaBytes : UInt64 := 1048576
  requestQuota : UInt64 := 128
  topK : UInt32 := 4
  adminName : String := "alice"
deriving DecidableEq, Repr

namespace ServerSpec

variable (spec : ServerSpec)

/-- The file of the public key. -/
def publicKeyPath : Path := spec.keyFileStem ++ ".pub"

/-- The file of the private key. -/
def privateKeyPath : Path := spec.keyFileStem ++ ".pri"

/-- The command line of the server. -/
def commandLine : CommandLine where
  program := spec.executable
  args :=
    ["-p", Text.decimal spec.port.toNat, "-k", spec.keyFileStem, "-f", spec.directoryFile,
      "-t", Text.decimal spec.threads.toNat, "-b", Text.decimal spec.buckets.toNat,
      "-i", Text.decimal spec.quotaIntervalSecs.toNat,
      "-u", Text.decimal spec.uploadQuotaBytes.toNat,
      "-d", Text.decimal spec.downloadQuotaBytes.toNat,
      "-r", Text.decimal spec.requestQuota.toNat, "-o", Text.decimal spec.topK.toNat,
      "-a", spec.adminName]

/-- The first line that the server prints. -/
def listeningLine : String :=
  "Listening on port " ++ Text.decimal spec.port.toNat ++ " using (key/data) = (" ++
    spec.keyFileStem ++ ", " ++ spec.directoryFile ++ ")"

/-- Printed when the server makes a key pair. -/
def generatingKeysLine : String :=
  "Generating RSA keys as (" ++ spec.publicKeyPath ++ ", " ++ spec.privateKeyPath ++ ")"

/-- Printed when there is no directory file. -/
def fileNotFoundLine : String := "File not found: " ++ spec.directoryFile

/-- Printed when the directory file was read. -/
def loadedLine : String := "Loaded: " ++ spec.directoryFile

end ServerSpec

/-- What is on disk when the server starts: nothing, the key pair, or key pair and directory. -/
inductive Banner where
  | fresh
  | freshKeysExisting
  | warm
deriving DecidableEq, Repr

namespace Banner

/-- Every kind of start. -/
def all : List Banner := [.fresh, .freshKeysExisting, .warm]

/-- The name under which data files spell the kind of start. -/
def label : Banner → String
  | fresh => "Fresh"
  | freshKeysExisting => "FreshKeysExisting"
  | warm => "Warm"

/-- The lines that the server prints before it first waits for a client. -/
def lines (banner : Banner) (spec : ServerSpec) : List String :=
  match banner with
  | fresh => [spec.listeningLine, spec.generatingKeysLine, spec.fileNotFoundLine]
  | freshKeysExisting => [spec.listeningLine, spec.fileNotFoundLine]
  | warm => [spec.listeningLine, spec.loadedLine]

end Banner

/-! ## Connections -/

/-- Printed before every connection. -/
def waitingLine : String := "Waiting for a client to connect..."

/-- Printed once the server has shut down. -/
def terminatedLine : String := "Server terminated"

/-- How the line after every connection begins. -/
def connectedPrefix : String := "Connected to "

/-- The addresses a connection may come from: this machine, or none at shutdown. -/
def connectedAddresses : List String := ["127.0.0.1", "0.0.0.0"]

/-- Whether a line announces a connection from one of the addresses. -/
def isConnectedLine (line : String) : Bool :=
  connectedAddresses.any fun address => line = connectedPrefix ++ address

end Conformance
