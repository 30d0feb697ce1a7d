import Conformance.Session

/-!
# Steps of suites

A suite is a list of steps, each one operation of a session. Only making a file can fail, and that ends
the suite; everything else is recorded and passed over.
-/

namespace Conformance

/-- One step of a suite. -/
inductive Step where
  | begin (title : String)
  | clean
  | start (description : String) (banner : Banner)
  | run (description : String) (expect : Reply) (request : Request)
  | awaitServer (description : String)
  | existence (file : Path) (shouldExist : Bool)
  | fetched (source : Path) (user : String)
  | list (file : Path) (expected : List String) (order : ListOrder)
  | size (file : Path) (expected : Nat)
  | peek (file : Path) (offset : Nat) (expected : String)
  | directory (file : Path) (expected : List Directory.Footprint)
  | make (file : Path) (size : Nat)
  | remove (file : Path)
deriving DecidableEq, Repr

namespace Session

variable {σ : Type} [Machine σ]

/-- Make a file in the working directory. -/
def makeFile (file : Path) (content : Bytes) : Run σ (Except Fault Unit) := do
  let session ← get
  match session.files.write (session.workDir.join file) content with
  | .ok files => setFiles files; return .ok ()
  | .error e => return .error (.io (.os e))

/-- Remove a file from the working directory if it is there. -/
def dropFile (file : Path) : Run σ Unit := do
  let _ ← removeFile ((← get).workDir.join file)

/-- The byte of which made-up files consist. -/
def fillByte : UInt8 := 0x2E

/-- Take a step. -/
def perform : Step → Run σ (Except Fault Unit)
  | .begin title => do begin title; return .ok ()
  | .clean => do cleanGenerated; return .ok ()
  | .start description banner => do let _ ← startServer description banner; return .ok ()
  | .run description expect request => do let _ ← run description expect request; return .ok ()
  | .awaitServer description => do let _ ← awaitServer description; return .ok ()
  | .existence file shouldExist => do let _ ← checkExistence file shouldExist; return .ok ()
  | .fetched source user => do let _ ← checkFetched source user; return .ok ()
  | .list file expected order => do let _ ← checkList file expected order; return .ok ()
  | .size file expected => do let _ ← checkSize file expected; return .ok ()
  | .peek file offset expected => do let _ ← checkPeek file offset expected; return .ok ()
  | .directory file expected => do let _ ← checkDirectory file expected; return .ok ()
  | .make file size => makeFile file (List.replicate size fillByte)
  | .remove file => do dropFile file; return .ok ()

/-- Take steps in order until one fails. -/
def performAll : List Step → Run σ (Except Fault Unit)
  | [] => return .ok ()
  | step :: rest => do
    match ← perform step with
    | .ok () => performAll rest
    | .error e => return .error e

end Session

end Conformance
