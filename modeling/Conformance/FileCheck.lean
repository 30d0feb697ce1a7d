import Conformance.Directory.Decode
import Conformance.Expectation
import Conformance.FileSystem
import Conformance.Text.Lines

/-!
# Checks of files

What scenarios check on disk: sizes, presence, bytes at a position, fetched content, listings and the
structure of the directory file. Every file is named as seen from the working directory, and that name
is what outcomes show. A file that should be looked into and cannot be read is a failure of the
environment. Two checks consume a file: the fetched content and the listing are removed once compared.
-/

namespace Conformance

namespace FileSystem

/-- Remove a file if there is one, and tell whether one was removed. -/
def removeIfExists (fs : FileSystem) (path : Path) : Bool × FileSystem :=
  match fs.unlink path with
  | .ok fs => (true, fs)
  | .error _ => (false, fs)

end FileSystem

namespace FileCheck

/-- The outcome for a file that cannot be read. -/
def cannotFind (description : String) (file : Path) : Outcome :=
  .infrastructure description file ("Cannot find " ++ file)

variable (fs : FileSystem) (workDir : Path)

/-- Check the size of a file. -/
def size (file : Path) (expected : Nat) : Outcome :=
  let description :=
    "Checking size of " ++ file ++ " (expect " ++ Text.decimal expected ++ ")"
  match fs.sizeOf (workDir.join file) with
  | .ok actual => .compare description (Text.decimal expected) (Text.decimal actual)
  | .error _ => cannotFind description file

/-- The word for a file's presence. -/
def presence (present : Bool) : String := if present then "present" else "absent"

/-- Check that a file is there, or that it is not. -/
def existence (file : Path) (shouldExist : Bool) : Outcome :=
  .compare ("Ensuring " ++ file ++ (if shouldExist then " exists" else " does not exist"))
    (presence shouldExist) (presence (fs.exists? (workDir.join file)))

/-! ## Bytes at a position -/

/-- Positions from here on cannot be reached. -/
def seekLimit : Nat := Nat.pow 2 63

/-- Read a number of bytes at a position; fewer where the content ends. Reading nothing of a directory
    succeeds. -/
def readAt (node : Node) (offset length : Nat) : Except OsError Bytes :=
  if seekLimit ≤ offset then .error .invalid
  else match node with
    | .file content _ _ => .ok ((content.drop offset).take length)
    | .directory => if length = 0 then .ok [] else .error .isDirectory
    | .pipe _ => .ok []
    | .device .null => .ok []
    | .device .zero => .ok (List.replicate length 0)

/-- Check that the bytes at a position spell a text. -/
def peek (file : Path) (offset : Nat) (expected : String) : Outcome :=
  let description :=
    "Checking position " ++ Text.decimal offset ++ " of " ++ file ++ " for '" ++ expected ++ "'"
  match fs.openAt (workDir.join file) with
  | .error _ => cannotFind description file
  | .ok node =>
    match readAt node offset (Text.byteLength expected) with
    | .ok bytes => .compare description expected (Text.decode bytes)
    | .error e => .infrastructure description expected ("read failed: " ++ e.message)

/-! ## Fetched content -/

/-- The first position at which two byte strings differ; the end of the shorter one counts. -/
def firstDifference : Bytes → Bytes → Option Nat
  | a, b => go 0 a b
where
  /-- The search from a position on. -/
  go (here : Nat) : Bytes → Bytes → Option Nat
    | [], [] => none
    | x :: xs, y :: ys => if x = y then go (here + 1) xs ys else some here
    | _, _ => some here

/-- What two equal files are called. -/
def identical : String := "identical"

/-- How the comparison of a fetched file with the wanted one reads. -/
def difference (want got : Bytes) : String :=
  match firstDifference want got with
  | none => identical
  | some position =>
    "Files do not match (first difference at byte " ++ Text.decimal position ++ "; " ++
      Text.decimal got.length ++ " vs " ++ Text.decimal want.length ++ " bytes)"

/-- Compare a fetched file with the one that its content was set from. The fetched file is removed
    whatever the verdict, even if it cannot be read. -/
def roundTrip (source fetched : Path) : Outcome × FileSystem :=
  let description := "Comparing " ++ source ++ " and " ++ fetched ++ "."
  let outcome :=
    match fs.read (workDir.join fetched) with
    | .error _ => cannotFind description fetched
    | .ok got =>
      match fs.read (workDir.join source) with
      | .error _ => cannotFind description source
      | .ok want => .compare description identical (difference want got)
  (outcome, (fs.removeIfExists (workDir.join fetched)).2)

/-! ## Listings -/

/-- Texts in the order of their characters. -/
def ascending (texts : List String) : List String := texts.mergeSort fun a b => decide (a ≤ b)

/-- The texts as they are compared: sorted where the order is open. -/
def arranged (order : ListOrder) (texts : List String) : List String :=
  match order with
  | .sorted => ascending texts
  | .asEmitted => texts

/-- Compare the entries of a listing with those expected. The listing is removed whatever the verdict,
    if it can be read. -/
def list (file : Path) (expected : List String) (order : ListOrder) : Outcome × FileSystem :=
  let description := "Checking " ++ file ++ "."
  let path := workDir.join file
  match fs.read path with
  | .error _ => (cannotFind description file, fs)
  | .ok content =>
    let actual := arranged order (Text.entries (Text.decode content))
    let want := arranged order expected
    (.verdict description ("\n".intercalate want) ("\n".intercalate actual) (want = actual),
      (fs.removeIfExists path).2)

/-! ## The directory file -/

/-- What is said of the stored content of a user: its length, or that there is no such user. -/
def storedLength (records : List Directory.Record) (name : String) : String :=
  match records.find? fun record => record.username = Text.encode name with
  | some record => Text.decimal record.content.length
  | none => "missing"

/-- Check the users of a directory file in order, and the content length of each. -/
def directory (file : Path) (expected : List Directory.Footprint) : List Outcome :=
  let description := "Decoding " ++ file
  match fs.read (workDir.join file) with
  | .error _ => [cannotFind description file]
  | .ok bytes =>
    match Directory.parse bytes with
    | .error e => [.verdict description "well-formed records" e.message false]
    | .ok records =>
      .compare ("Checking record order in " ++ file)
          ("\n".intercalate (expected.map Directory.Footprint.name))
          ("\n".intercalate (Directory.usernames records)) ::
        expected.map fun user =>
          .compare ("Checking " ++ user.name ++ "'s stored content length")
            (Text.decimal user.contentLength.toNat) (storedLength records user.name)

end FileCheck

end Conformance
