import Conformance.Config
import Conformance.FileSystem

/-!
# Faults

What keeps the checker from doing its own work. A disagreement between server, client and protocol is
never a fault; it is an outcome. Faults are a bad configuration, a malformed request, and trouble with
the operating system. The first two are fatal: they are known before any process is started.
-/

namespace Conformance

/-- Which side of the protocol a process plays. -/
inductive Role where
  | server
  | client
deriving DecidableEq, Repr

/-- The word for a role in messages. -/
def Role.word : Role → String
  | server => "server"
  | client => "client"

/-- What went wrong with a file, a stream or a process. -/
inductive IoFault where
  | os (error : OsError)
  | untracked
  | consoleClosed
deriving DecidableEq, Repr

/-- The message of trouble with a file, a stream or a process. -/
def IoFault.message : IoFault → String
  | os error => error.message
  | untracked => "process is not tracked"
  | consoleClosed => "console closed"

/-- What keeps the checker from doing its own work. -/
inductive Fault where
  | config (fault : ConfigFault)
  | unreadableConfig
  | io (fault : IoFault)
  | spawn (program : Path) (error : OsError)
  | protocol (error : ProtocolError)
  | timeout (role : Role) (seconds : Nat)
deriving DecidableEq, Repr

namespace Fault

/-- The message of the fault. What is wrong with an unreadable configuration is left to the reader of
    its format. -/
def message : Fault → String
  | config fault => "configuration error: " ++ fault.message
  | unreadableConfig => "cannot parse configuration"
  | io fault => "i/o error: " ++ fault.message
  | spawn program error => "failed to spawn " ++ program ++ ": " ++ error.message
  | protocol error => "protocol error: " ++ error.message
  | timeout role seconds =>
    "timed out after " ++ Text.decimal seconds ++ "s waiting for " ++ role.word ++ " exit"

/-- Whether the fault has to end the run before any process is started. -/
def isFatal : Fault → Bool
  | config _ | unreadableConfig | protocol _ => true
  | io _ | spawn .. | timeout .. => false

end Fault

end Conformance
