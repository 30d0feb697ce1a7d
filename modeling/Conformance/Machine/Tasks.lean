import Conformance.Machine.Program

/-!
# Common tasks

What programs do with files again and again: print, read and write whole files, and copy and remove
trees. Recursion into directories is bounded by the longest path that can exist.
-/

namespace Conformance

namespace Task

/-- How many bytes are read at once. -/
def readUnit : Nat := 65536

/-- How deep directories may be nested. -/
def deepest : Nat := 1000

/-- Print bytes. -/
def print (bytes : Bytes) : Task Unit := do let _ ← write 1 bytes

/-- Print a line. -/
def say (line : String) : Task Unit := print (Text.encode (line ++ "\n"))

/-- Complain about something. -/
def complain (line : String) : Task Unit := do let _ ← write 2 (Text.encode (line ++ "\n"))

/-- Read to the end, behind what was read already. -/
def readRest (descriptor : Nat) : Nat → Bytes → Task (Except OsError Bytes)
  | 0, sofar => return .ok sofar
  | rounds + 1, sofar => do
    match ← read descriptor readUnit with
    | .error e => return .error e
    | .ok [] => return .ok sofar
    | .ok bytes => readRest descriptor rounds (sofar ++ bytes)

/-- Read to the end. -/
def readAll (descriptor : Nat) : Task (Except OsError Bytes) := readRest descriptor lifetime []

/-- The content of a file. -/
def load (path : Path) : Task (Except OsError Bytes) := do
  match ← openFile path .input with
  | .error e => return .error e
  | .ok descriptor =>
    let content ← readAll descriptor
    close descriptor
    return content

/-- Write bytes to a file that is opened in some way. -/
def save (path : Path) (mode : OpenMode) (bytes : Bytes) : Task (Except OsError Unit) := do
  match ← openFile path mode with
  | .error e => return .error e
  | .ok descriptor =>
    let result ← write descriptor bytes
    close descriptor
    return result

/-- Whether a file stands at a path. -/
def isFile (path : Path) : Task Bool := do
  match ← inspect path with
  | .ok info => return info.kind = .file
  | .error _ => return false

/-- Whether a directory stands at a path. -/
def isDirectory (path : Path) : Task Bool := do
  match ← inspect path with
  | .ok info => return info.kind = .directory
  | .error _ => return false

/-- Do something for each member of a list. -/
def forEach {α : Type} (action : α → Task Unit) : List α → Task Unit
  | [] => return ()
  | x :: rest => do action x; forEach action rest

/-- Do something for each member of a list, and tell whether it worked for all. -/
def forAll {α : Type} (action : α → Task Bool) : List α → Task Bool
  | [] => return true
  | x :: rest => do
    let first ← action x
    let others ← forAll action rest
    return first && others

/-! ## Trees -/

/-- A path without separators at its end. -/
def withoutSlashes (path : Path) : Path :=
  let kept := (path.toList.reverse.dropWhile (· = '/')).reverse
  if kept.isEmpty ∧ path ≠ "" then "/" else String.ofList kept

/-- The last name of a path. -/
def lastName (path : Path) : String := (Path.pieces (withoutSlashes path)).getLast?.getD ""

/-- The path of a copy: inside the target if that is a directory. -/
def copyTarget (source target : Path) : Task Path := do
  if ← isDirectory target then return Path.join target (lastName source) else return target

/-- Copy one file. -/
def copyFile (source target : Path) : Task Bool := do
  match ← load source with
  | .error e => complain ("cp: cannot open '" ++ source ++ "': " ++ e.words); return false
  | .ok content =>
    match ← save target .output content with
    | .ok () => return true
    | .error e => complain ("cp: cannot create '" ++ target ++ "': " ++ e.words); return false

/-- Copy a file, or a directory with everything in it. -/
def copyTree : Nat → Path → Path → Task Bool
  | 0, _, _ => return false
  | depth + 1, source, target => do
    match ← inspect source with
    | .error e => complain ("cp: cannot stat '" ++ source ++ "': " ++ e.words); return false
    | .ok info =>
      match info.kind with
      | .directory =>
        let _ ← change (.makeDirectory target)
        match ← names source with
        | .error _ => return false
        | .ok found =>
          forAll (fun name => copyTree depth (Path.join source name) (Path.join target name)) found
      | .pipe => return (← change (.makePipe target)).toBool
      | _ => copyFile source target

/-- Remove a file, or a directory with everything in it. -/
def removeTree : Nat → Path → Task Bool
  | 0, _ => return false
  | depth + 1, path => do
    if ← isDirectory path then
      match ← names path with
      | .error _ => return false
      | .ok found =>
        let _ ← forAll (fun name => removeTree depth (Path.join path name)) found
        return (← change (.removeDirectory path)).toBool
    else return (← change (.removeFile path)).toBool

/-- Make the directories of a path one below the other, as far as they are missing. -/
def makeDirectories (sofar : Path) : List String → Task Bool
  | [] => return true
  | piece :: rest => do
    let path := if sofar = "" then piece else sofar ++ "/" ++ piece
    if piece = "" then makeDirectories (if sofar = "" then "/" else sofar) rest
    else
      let made ← change (.makeDirectory path)
      if made.toBool then makeDirectories path rest
      else if ← isDirectory path then makeDirectories path rest
      else return false

end Task

end Conformance
