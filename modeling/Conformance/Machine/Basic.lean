import Conformance.FileSystem
import Conformance.Launch
import Conformance.LineReader

/-!
# Machines

What the checker asks of the computer it runs on: a file system, starting a program, receiving its
output, waiting for its end, and killing it. The checker is written against this interface alone, so
what is proved about it holds for every behaviour of the programs it starts. Waiting is bounded by a
number of milliseconds.
-/

namespace Conformance

/-- How a process ended: by itself with a code, or by a signal. -/
inductive ExitStatus where
  | exited (code : Nat)
  | signalled (signal : Nat)
deriving DecidableEq, Repr

/-- What waiting for the end of a process gives. -/
inductive Awaited where
  | ended (status : ExitStatus)
  | failed (error : OsError)
  | late
deriving DecidableEq, Repr

/-- What has come from the output of a process, and whether it was closed. -/
structure Receipt where
  arrived : List Arrival
  closed : Bool
deriving DecidableEq, Repr

/-- A computer with files and processes, as a state and the operations on it. Processes are known by
    numbers that the machine gives. -/
class Machine (σ : Type) where
  /-- The files as they are now. -/
  files : σ → FileSystem
  /-- Replace the files. -/
  withFiles : σ → FileSystem → σ
  /-- Start a program in a directory. -/
  start : σ → Path → CommandLine → Except OsError Nat × σ
  /-- Receive output of a process until it holds the end of a line, fails or is closed, or until a
      number of milliseconds has passed. -/
  receive : σ → Nat → Nat → Receipt × σ
  /-- Wait for the end of a process, at most a number of milliseconds. -/
  await : σ → Nat → Nat → Awaited × σ
  /-- Kill a process. -/
  kill : σ → Nat → σ

namespace LineReader

/-- A reader that has been given what came from a process. -/
def deliver (reader : LineReader) (receipt : Receipt) : LineReader :=
  { reader with
    arrived := reader.arrived ++ receipt.arrived
    closed := reader.closed || receipt.closed }

end LineReader

end Conformance
