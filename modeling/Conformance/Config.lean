import Conformance.Data.Record
import Conformance.Launch

/-!
# Configuration

Where server and client run, how they are launched, how outcomes are laid out, and how long to wait.
Everything has a default. The port of the client follows the port of the server unless it is set.
-/

namespace Conformance

/-- How outcomes are laid out. -/
structure ReportStyle where
  /-- The column at which verdicts start. -/
  indentation : UInt64 := 80
  /-- Whether command lines are shown. -/
  verbose : Bool := false
deriving DecidableEq, Repr

/-- Bounds on waiting, in seconds. -/
structure Timeouts where
  readSecs : UInt64 := 10
  shutdownSecs : UInt64 := 30
deriving DecidableEq, Repr

/-- The bound on waiting for a line, in milliseconds. -/
def Timeouts.readMillis (timeouts : Timeouts) : Nat := timeouts.readSecs.toNat * 1000

/-- The bound on waiting for a process to end, in milliseconds. -/
def Timeouts.shutdownMillis (timeouts : Timeouts) : Nat := timeouts.shutdownSecs.toNat * 1000

/-- The configuration of a run. -/
structure Config where
  workDir : Path := "."
  server : ServerSpec := {}
  client : ClientSpec := {}
  report : ReportStyle := {}
  timeouts : Timeouts := {}
deriving DecidableEq, Repr

/-- What makes a configuration or a name in a scenario unusable. -/
inductive ConfigFault where
  | emptySetting (name : String)
  | zeroSetting (name : String)
  | duplicateAlias (name : String)
  | unknownAlias (name : String)
  | unknownSuite (name : String)
deriving DecidableEq, Repr

/-- The message of the fault. -/
def ConfigFault.message : ConfigFault → String
  | emptySetting name => name ++ " is empty"
  | zeroSetting name => name ++ " must be non-zero"
  | duplicateAlias name => "duplicate user alias " ++ Text.quoted name
  | unknownAlias name => "unknown user alias " ++ Text.quoted name
  | unknownSuite name => "unknown suite " ++ Text.quoted name

namespace Config

variable (config : Config)

/-- A path seen from the working directory. -/
def resolve (path : Path) : Path := config.workDir.join path

/-- Where the client keeps its copy of the public key. The names of files are text here, so there is
    none under any other path. -/
def publicKeyFile? : Option Path := config.client.publicKeyFile.path?.map config.resolve

/-- The same configuration with another server executable. -/
def withServerExe (path : Path) : Config :=
  { config with server := { config.server with executable := path } }

/-- The same configuration with another client executable. -/
def withClientExe (path : Path) : Config :=
  { config with client := { config.client with executable := path } }

/-- The same configuration with command lines shown or not. -/
def withVerbose (verbose : Bool) : Config :=
  { config with report := { config.report with verbose := verbose } }

/-- Every condition that makes a configuration unusable, in the order in which they are reported. -/
def faults : List (Bool × ConfigFault) :=
  [(config.server.executable.isEmpty, .emptySetting "server.executable"),
    (config.client.executable.isEmpty, .emptySetting "client.executable"),
    (config.server.port = 0, .zeroSetting "server.port"),
    (config.client.port = 0, .zeroSetting "client.port"),
    (config.server.threads = 0, .zeroSetting "server.threads"),
    (config.server.buckets = 0, .zeroSetting "server.buckets"),
    (config.server.keyFileStem.isEmpty, .emptySetting "server.key_file_stem"),
    (config.server.directoryFile.isEmpty, .emptySetting "server.directory_file"),
    (config.server.adminName.isEmpty, .emptySetting "server.admin_name"),
    (config.timeouts.readSecs = 0, .zeroSetting "timeouts.read_secs")]

/-- The first fault of the configuration, if it has one. -/
def fault? : Option ConfigFault := (config.faults.find? (·.1)).map (·.2)

end Config

end Conformance
