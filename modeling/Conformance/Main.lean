import Conformance.Cli.Program
import Conformance.Installation
import Conformance.Machine.Host

/-!
# The command line

The program runs on a host that holds the files of the current directory and has the installed
programs. Files that were changed are written back when it is done. Everything that is decided is
decided by `Cli.main`; this module only carries files, output and the exit code.
-/

namespace Conformance.CommandLine

/-- How deep directories are followed. -/
def depth : Nat := 64

/-- Whether a file can be run: its first line names an interpreter. -/
def isRunnable (content : Bytes) : Bool := (Host.interpreter? content).isSome

/-- The nodes below a place, read from the names in a directory. -/
def load (place : Place) : Nat → Array IO.FS.DirEntry → IO (List (Place × Node))
  | 0, _ => return []
  | depth + 1, entries => do
    let mut found : List (Place × Node) := []
    for entry in entries do
      let here := place ++ [entry.fileName]
      let info ← entry.path.symlinkMetadata
      match info.type with
      | .dir =>
        let below ← load here depth (← entry.path.readDir)
        found := found ++ (here, Node.directory) :: below
      | .file =>
        match ← (IO.FS.readBinFile entry.path).toBaseIO with
        | .ok content =>
          found := found ++ [(here, Node.file content.toList (isRunnable content.toList))]
        -- a file that may not be read still has its size
        | .error _ =>
          found := found ++ [(here, Node.file (List.replicate info.byteSize.toNat 0) false false)]
      | _ => pure ()
    return found

/-- The path of a place seen from the directory of the program. -/
def pathFrom (home place : Place) : Path := "/".intercalate (place.drop home.length)

/-- Make what stands in one file system and not in another, which was there before. -/
def make (before after : FileSystem) : IO Unit := do
  for (place, node) in after.nodes.reverse do
    let path := pathFrom after.home place
    if after.home.isPrefixOf place ∧ place ≠ after.home ∧ before.get? place ≠ some node then
      match node with
      | .directory => IO.FS.createDirAll path
      | .file content _ _ => IO.FS.writeBinFile path ⟨content.toArray⟩
      | _ => pure ()

/-- Remove the files that stood in a file system and do not stand in another, which is there now. -/
def remove (before after : FileSystem) : IO Unit := do
  for (place, node) in before.nodes do
    match node with
    | .file .. =>
      if (after.get? place).isNone then IO.FS.removeFile (pathFrom before.home place)
    | _ => pure ()

/-- The file system that holds the files of the current directory. -/
def loadFiles : IO FileSystem := do
  let directory ← IO.currentDir
  let home : Place := (Path.pieces directory.toString).filter fun piece => piece ≠ ""
  let nodes ← load home depth (← directory.readDir)
  let bare := FileSystem.bare home
  return { bare with nodes := bare.nodes ++ nodes }

/-- Run the program with its arguments and carry out what it did. -/
def run (args : List String) : IO UInt32 := do
  let before ← loadFiles
  let (result, host) := Cli.main args (Host.new installed before)
  IO.print result.printed
  match result.complaint with
  | some complaint => IO.eprintln complaint
  | none => pure ()
  remove before host.files
  make before host.files
  return UInt32.ofNat result.code

end Conformance.CommandLine

/-- The program. -/
def main (args : List String) : IO UInt32 := Conformance.CommandLine.run args
