import Conformance.Path
import Conformance.Text.Decimal
import Conformance.Text.Utf8

/-!
# The file system

Files, directories, pipes with names and two devices, each at a place: the names from the root down.
The root is a directory and is not stored. A path is walked from a directory, name by name; what it
leads to need not exist, but everything on the way has to be a directory.

The checker itself needs little of this: read, write, remove and measure files and list them, all
from the directory it runs in. What these do to the stored nodes is said by `get?_put` and
`get?_remove`: one place changes and no other.
-/

namespace Conformance

/-- Why the operating system refuses an operation. -/
inductive OsError where
  | notFound
  | noProcess
  | badFormat
  | badDescriptor
  | denied
  | alreadyExists
  | notDirectory
  | isDirectory
  | invalid
  | brokenPipe
  | nameTooLong
  | notEmpty
deriving DecidableEq, Repr

namespace OsError

/-- The number of the error. -/
def code : OsError → Nat
  | notFound => 2
  | noProcess => 3
  | badFormat => 8
  | badDescriptor => 9
  | denied => 13
  | alreadyExists => 17
  | notDirectory => 20
  | isDirectory => 21
  | invalid => 22
  | brokenPipe => 32
  | nameTooLong => 36
  | notEmpty => 39

/-- The words of the error. -/
def words : OsError → String
  | notFound => "No such file or directory"
  | noProcess => "No such process"
  | badFormat => "Exec format error"
  | badDescriptor => "Bad file descriptor"
  | denied => "Permission denied"
  | alreadyExists => "File exists"
  | notDirectory => "Not a directory"
  | isDirectory => "Is a directory"
  | invalid => "Invalid argument"
  | brokenPipe => "Broken pipe"
  | nameTooLong => "File name too long"
  | notEmpty => "Directory not empty"

/-- The message of the error, with its number. -/
def message (error : OsError) : String :=
  error.words ++ " (os error " ++ Text.decimal error.code ++ ")"

end OsError

/-- The names from the root to a file. -/
abbrev Place := List String

/-- A device: one that is always at its end and forgets, or one that gives zeros and forgets. -/
inductive Device where
  | null
  | zero
deriving DecidableEq, Repr

/-- What can stand at a place: a file that may be run or not, and may be read unless that is forbidden,
    and so on. A pipe is known by its number. -/
inductive Node where
  | file (content : Bytes) (executable : Bool) (readable : Bool := true)
  | directory
  | pipe (number : Nat)
  | device (which : Device)
deriving DecidableEq, Repr

/-- Whether a node may be opened for reading. -/
def Node.isReadable : Node → Bool
  | .file _ _ readable => readable
  | .directory | .pipe _ | .device _ => true

/-- The nodes below the root by place, and the place where the checker runs. -/
structure FileSystem where
  nodes : List (Place × Node)
  home : Place
deriving DecidableEq, Repr

namespace FileSystem

variable (fs : FileSystem)

/-- The node at a place. -/
def get? (place : Place) : Option Node :=
  if place = [] then some .directory else (fs.nodes.find? (·.1 = place)).map (·.2)

/-- Set the node at a place. -/
def put (place : Place) (node : Node) : FileSystem :=
  { fs with nodes := (place, node) :: fs.nodes.filter (·.1 ≠ place) }

/-- Forget the node at a place. -/
def remove (place : Place) : FileSystem :=
  { fs with nodes := fs.nodes.filter (·.1 ≠ place) }

/-- Whether a directory stands at a place. -/
def isDirectory (place : Place) : Bool := fs.get? place = some .directory

@[simp] theorem get?_root : fs.get? [] = some .directory := rfl

/-- Entries at other places are found as before once those at one place are gone. -/
theorem find?_filter_place (nodes : List (Place × Node)) {place other : Place}
    (h : other ≠ place) :
    (nodes.filter (·.1 ≠ place)).find? (·.1 = other) = nodes.find? (·.1 = other) := by
  induction nodes with
  | nil => rfl
  | cons entry rest ih =>
      by_cases he : entry.1 = place
      · have hne : entry.1 ≠ other := fun heq => h (heq.symm.trans he)
        rw [List.filter_cons_of_neg (by simpa using he), ih,
          List.find?_cons_of_neg (by simpa using hne)]
      · rw [List.filter_cons_of_pos (by simpa using he)]
        by_cases ho : entry.1 = other
        · rw [List.find?_cons_of_pos (by simpa using ho),
            List.find?_cons_of_pos (by simpa using ho)]
        · rw [List.find?_cons_of_neg (by simpa using ho),
            List.find?_cons_of_neg (by simpa using ho), ih]

/-- Setting the node at a place changes what stands there and nothing else. -/
theorem get?_put (place other : Place) (node : Node) (h : place ≠ []) :
    (fs.put place node).get? other = if other = place then some node else fs.get? other := by
  unfold get? put
  by_cases hp : other = place
  · subst hp
    simp [h]
  · rw [List.find?_cons_of_neg (by simpa using Ne.symm hp), find?_filter_place _ hp,
      if_neg hp]

/-- Forgetting the node at a place changes what stands there and nothing else. -/
theorem get?_remove (place other : Place) (h : place ≠ []) :
    (fs.remove place).get? other = if other = place then none else fs.get? other := by
  unfold get? remove
  by_cases hp : other = place
  · subst hp
    simp [h]
  · rw [find?_filter_place _ hp, if_neg hp]

/-! ## Walking a path -/

/-- Follow the pieces of a path from a place. A name has to be at most 255 bytes long, and all but
    the last piece have to lead to directories. -/
def walk (place : Place) : List String → Except OsError Place
  | [] => .ok place
  | piece :: rest =>
    if !fs.isDirectory place then
      .error (if (fs.get? place).isSome then .notDirectory else .notFound)
    else if piece = "" ∨ piece = "." then walk place rest
    else if piece = ".." then walk place.dropLast rest
    else if 255 < Text.byteLength piece then .error .nameTooLong
    else walk (place ++ [piece]) rest

/-- The place that a path names, seen from a directory. -/
def locate (directory : Place) (path : Path) : Except OsError Place :=
  if path = "" then .error .notFound
  else fs.walk (if path.isAbsolute then [] else directory) path.pieces

/-- The node that a path names, seen from a directory. -/
def nodeAt (directory : Place) (path : Path) : Except OsError Node :=
  match fs.locate directory path with
  | .error e => .error e
  | .ok place =>
    match fs.get? place with
    | some node => .ok node
    | none => .error .notFound

/-! ## What the checker does with files -/

/-- The node at a path once it was opened for reading. -/
def openAt (path : Path) : Except OsError Node :=
  match fs.nodeAt fs.home path with
  | .error e => .error e
  | .ok node => if node.isReadable then .ok node else .error .denied

/-- The content of a file. -/
def read (path : Path) : Except OsError Bytes :=
  match fs.openAt path with
  | .error e => .error e
  | .ok (.file content _ _) => .ok content
  | .ok .directory => .error .isDirectory
  | .ok (.pipe _) => .ok []
  | .ok (.device _) => .ok []

/-- Whether something stands at a path. -/
def exists? (path : Path) : Bool :=
  match fs.nodeAt fs.home path with
  | .ok _ => true
  | .error _ => false

/-- The size that a directory has. -/
def directorySize : Nat := 4096

/-- The size of what stands at a path. -/
def sizeOf (path : Path) : Except OsError Nat :=
  match fs.nodeAt fs.home path with
  | .error e => .error e
  | .ok (.file content _ _) => .ok content.length
  | .ok .directory => .ok directorySize
  | .ok (.pipe _) => .ok 0
  | .ok (.device _) => .ok 0

/-- The pieces of a path without the empty ones behind separators at its end. -/
def withoutEnd (pieces : List String) : List String :=
  (pieces.reverse.dropWhile (· = "")).reverse

/-- Make a file with a content, or replace the content of the one that is there. A path that ends in a
    separator can only be a directory. -/
def write (path : Path) (content : Bytes) : Except OsError FileSystem :=
  if path = "" then .error .notFound
  else
    match fs.walk (if path.isAbsolute then [] else fs.home) (withoutEnd path.pieces) with
    | .error e => .error e
    | .ok place =>
      if path.toList.getLast? = some '/' then .error .isDirectory
      else match fs.get? place with
        | some (.file _ executable readable) =>
          .ok (fs.put place (.file content executable readable))
        | some .directory => .error .isDirectory
        | some (.pipe _) => .ok fs
        | some (.device _) => .ok fs
        | none => .ok (fs.put place (.file content false))

/-- Remove a file. -/
def unlink (path : Path) : Except OsError FileSystem :=
  match fs.locate fs.home path with
  | .error e => .error e
  | .ok place =>
    match fs.get? place with
    | some .directory => .error .isDirectory
    | some _ => .ok (fs.remove place)
    | none => .error .notFound

/-- Make a directory and those above it that are missing, name by name from a directory. -/
def makeDirectories (fs : FileSystem) (directory : Place) : List String → FileSystem
  | [] => fs
  | piece :: rest =>
    if piece = "" ∨ piece = "." then makeDirectories fs directory rest
    else if piece = ".." then makeDirectories fs directory.dropLast rest
    else
      let place := directory ++ [piece]
      let fs := if (fs.get? place).isSome then fs else fs.put place .directory
      makeDirectories fs place rest

/-- Nothing but the devices and the directories down to the one where the checker runs. -/
def bare (home : Place) : FileSystem :=
  let devices :=
    [(["dev"], Node.directory), (["dev", "null"], .device .null), (["dev", "zero"], .device .zero)]
  makeDirectories ⟨devices, home⟩ [] home

/-- Do something as it is done from another directory. -/
def within (fs : FileSystem) (directory : Place)
    (change : FileSystem → Except OsError FileSystem) : Except OsError FileSystem :=
  match change { fs with home := directory } with
  | .error e => .error e
  | .ok changed => .ok { changed with home := fs.home }

/-- The place where something new can be made: nothing stands there. -/
def vacancy (path : Path) : Except OsError Place :=
  if path = "" then .error .notFound
  else
    match fs.walk (if path.isAbsolute then [] else fs.home) (withoutEnd path.pieces) with
    | .error e => .error e
    | .ok place =>
      if (fs.get? place).isSome then .error .alreadyExists
      else if fs.isDirectory place.dropLast then .ok place
      else .error .notFound

/-- Make something where nothing stands. -/
def make (path : Path) (node : Node) : Except OsError FileSystem :=
  match fs.vacancy path with
  | .error e => .error e
  | .ok place => .ok (fs.put place node)

/-- The names in a directory, in no particular order. -/
def namesIn (directory : Place) : List String :=
  fs.nodes.filterMap fun entry =>
    if entry.1 ≠ [] ∧ entry.1.dropLast = directory then entry.1.getLast? else none

/-- Remove a directory in which nothing stands. -/
def removeDirectory (path : Path) : Except OsError FileSystem :=
  match fs.locate fs.home path with
  | .error e => .error e
  | .ok place =>
    match fs.get? place with
    | none => .error .notFound
    | some .directory =>
      if place = [] ∨ fs.namesIn place ≠ [] then .error .notEmpty else .ok (fs.remove place)
    | some _ => .error .notDirectory

/-- Allow or forbid running a file. -/
def setExecutable (path : Path) (executable : Bool) : Except OsError FileSystem :=
  match fs.locate fs.home path with
  | .error e => .error e
  | .ok place =>
    match fs.get? place with
    | none => .error .notFound
    | some (.file content _ readable) => .ok (fs.put place (.file content executable readable))
    | some _ => .ok fs

/-- Move everything at and below a place. -/
def moveAll (old new : Place) : FileSystem :=
  { fs with
    nodes := fs.nodes.map fun entry =>
      if old.isPrefixOf entry.1 then (new ++ entry.1.drop old.length, entry.2) else entry }

/-- Give a file or directory another path. What stood there is replaced, if it may be. -/
def rename (old new : Path) : Except OsError FileSystem :=
  match fs.locate fs.home old, fs.locate fs.home new with
  | .error e, _ => .error e
  | _, .error e => .error e
  | .ok source, .ok target =>
    match fs.get? source, fs.get? target with
    | none, _ => .error .notFound
    | some _, none => .ok (fs.moveAll source target)
    | some .directory, some .directory =>
      if source = target then .ok fs
      else if fs.namesIn target ≠ [] then .error .notEmpty
      else .ok ((fs.remove target).moveAll source target)
    | some .directory, some _ => .error .notDirectory
    | some _, some .directory => .error .isDirectory
    | some _, some _ =>
      .ok (if source = target then fs else (fs.remove target).moveAll source target)

/-- The path of a place below a directory, if it lies below it. -/
def below? (directory place : Place) : Option Place :=
  if directory.isPrefixOf place ∧ directory.length < place.length then
    some (place.drop directory.length)
  else none

/-- The files below the place where the checker runs, each with its path from there and its size, in
    the order of the bytes of their paths. -/
def listing : List (String × Nat) :=
  let files := fs.nodes.filterMap fun entry =>
    match entry.2, below? fs.home entry.1 with
    | .file content _ _, some names => some ("/".intercalate names, content.length)
    | _, _ => none
  files.mergeSort fun a b => decide (Text.encode a.1 ≤ Text.encode b.1)

end FileSystem

end Conformance
