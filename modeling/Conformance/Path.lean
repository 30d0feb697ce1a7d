import Conformance.Text.Utf8

/-!
# Paths

Paths are texts with `/` between components, and they are shown exactly as they were built: joining
adds at most one separator and nothing is normalised. Only `components` looks through repeated
separators and inner `.` components, and only to tell a bare name from a path.

The operating system takes any bytes for a path. A path of which that has to be remembered is a
`NativePath`; where it is shown, a replacement character stands for whatever is not text.
-/

namespace Conformance

/-- A path as it was written. -/
abbrev Path := String

namespace Path

/-- Whether the path starts at the root directory. -/
def isAbsolute (path : Path) : Bool := path.toList.head? = some '/'

/-- A path seen from a directory: an absolute path stays as it is, any other is appended after a
    separator, unless the directory is empty or ends in one. -/
def join (directory path : Path) : Path :=
  if path.isAbsolute then path
  else if directory.isEmpty || directory.toList.getLast? = some '/' then directory ++ path
  else directory ++ "/" ++ path

/-- The pieces of a path between separators. -/
def pieces (path : Path) : List String :=
  (path.toList.splitOn '/').map String.ofList

/-- The number of components: the root, a leading `.`, and every piece that is neither empty nor
    `.`. -/
def componentCount (path : Path) : Nat :=
  let named := (path.pieces.filter fun piece => piece ≠ "" ∧ piece ≠ ".").length
  if path.isAbsolute || path.pieces.head? = some "." then named + 1 else named

/-- Whether a program of this name is looked for along the search path, or taken as it stands,
    instead of being seen from the working directory. -/
def isBareOrAbsolute (path : Path) : Bool :=
  path.isAbsolute || path.componentCount = 1

end Path

/-- A path as the operating system takes it. -/
structure NativePath where
  bytes : Bytes
deriving DecidableEq, Repr

namespace NativePath

/-- The path that a text names. -/
def ofPath (path : Path) : NativePath := ⟨Text.encode path⟩

variable (path : NativePath)

/-- The path as it is shown. -/
def display : String := Text.decode path.bytes

/-- The text that names the path, if it is text. -/
def path? : Option Path := Text.decode? path.bytes

end NativePath

end Conformance
