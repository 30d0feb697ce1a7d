import Conformance.Text.Decimal
import Conformance.Text.Utf8

/-!
# The size of a directory file

A directory file holds one record per user. A record is a marker, then username, salt, hash and
content, each behind a length field, padded with zeros to a multiple of eight. Sizes are predicted
from the lengths of username and content alone, because salts and hashes have fixed widths.

Predictions are exact numbers here. Where a prediction is printed it has to fit a 64-bit word, so
each has a checked twin that adds one field after another and gives up as soon as a sum does not
fit.
-/

namespace Conformance.Directory

/-- The bytes that every record begins with. -/
def marker : Bytes := [65, 85, 84, 72, 65, 85, 84, 72]

/-- The width of a length field. -/
def lengthWidth : Nat := 8

/-- The width of a salt, for size prediction. -/
def saltWidth : Nat := 16

/-- The width of a password hash, for size prediction. -/
def hashWidth : Nat := 32

/-- Records start at multiples of this. -/
def alignment : Nat := 8

/-- The largest content that the server accepts. -/
def maxContentLength : Nat := 1048576

/-- The parts of a record, in the order in which they are stored. -/
inductive Part where
  | marker
  | usernameLength
  | username
  | saltLength
  | salt
  | hashLength
  | hash
  | contentLength
  | content
deriving DecidableEq, Repr

/-- Every part of a record in stored order. -/
def Part.all : List Part :=
  [.marker, .usernameLength, .username, .saltLength, .salt, .hashLength, .hash, .contentLength,
    .content]

/-- The width of a part, for a username and a content of given lengths. -/
def Part.width (usernameLength contentLength : Nat) : Part → Nat
  | marker => Directory.marker.length
  | .usernameLength | saltLength | hashLength | .contentLength => lengthWidth
  | username => usernameLength
  | salt => saltWidth
  | hash => hashWidth
  | content => contentLength

/-- The bytes of a record besides username, content and padding. -/
def fixedOverhead : Nat := marker.length + 4 * lengthWidth + saltWidth + hashWidth

/-- The least multiple of the alignment that is not below `n`. -/
def roundUp (n : Nat) : Nat :=
  if n % alignment = 0 then n else n + (alignment - n % alignment)

/-- The padded size of a record. -/
def recordSize (usernameLength contentLength : Nat) : Nat :=
  roundUp ((Part.all.map (Part.width usernameLength contentLength)).foldr (· + ·) 0)

/-- What one user adds to the directory file: the name and the length of the stored content. -/
structure Footprint where
  name : String
  contentLength : UInt64 := 0
deriving DecidableEq, Repr

/-- The padded size of the user's record. -/
def Footprint.recordSize (user : Footprint) : Nat :=
  Directory.recordSize (Text.byteLength user.name) user.contentLength.toNat

/-- The size of the directory file that holds the users. -/
def size (users : List Footprint) : Nat := (users.map Footprint.recordSize).foldr (· + ·) 0

/-! ## Sizes in 64-bit words -/

/-- The sum of two numbers if it fits a 64-bit word. -/
def wordAdd? (a b : Nat) : Option Nat := if a + b < UInt64.size then some (a + b) else none

/-- The sum of a list, added from the left, if every sum on the way fits. -/
def wordSum? (ns : List Nat) : Option Nat := ns.foldlM wordAdd? 0

/-- Rounding up in 64-bit words. -/
def wordRoundUp? (n : Nat) : Option Nat :=
  if n % alignment = 0 then some n else wordAdd? n (alignment - n % alignment)

/-- The padded size of a record if no sum on the way leaves 64 bits. -/
def recordSize? (usernameLength contentLength : Nat) : Option Nat :=
  (wordSum? (Part.all.map (Part.width usernameLength contentLength))).bind wordRoundUp?

/-- The padded size of the user's record if no sum on the way leaves 64 bits. -/
def Footprint.recordSize? (user : Footprint) : Option Nat :=
  Directory.recordSize? (Text.byteLength user.name) user.contentLength.toNat

/-- The size of the directory file if no sum on the way leaves 64 bits. -/
def size? (users : List Footprint) : Option Nat :=
  users.foldlM (fun total user => user.recordSize?.bind (wordAdd? total)) 0

end Conformance.Directory
