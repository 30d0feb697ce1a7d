import Conformance.Bytes

/-!
# The stand-in's directory file

How the stand-in client writes a directory file. It knows nothing of the library's encoder: it takes
each length apart by division, eight times, and computes the padding from the lengths alone.
-/

namespace Conformance.Standin

/-- A number as bytes: the remainder by 256, then the quotient in the same way. -/
def remainders : Nat → Nat → Bytes
  | 0, _ => []
  | count + 1, n => UInt8.ofNat (n % 256) :: remainders count (n / 256)

/-- A number as it is written in front of a field. -/
def lengthBytes (n : Nat) : Bytes := remainders 8 n

/-- The word at the start of a record. -/
def recordWord : Bytes := [65, 85, 84, 72, 65, 85, 84, 72]

/-- The letter that stands for a salt. -/
def saltByte : UInt8 := 83

/-- The letter that stands for a hash. -/
def hashByte : UInt8 := 72

/-- How many zeros end the record of a name and a content of some lengths. -/
def padding (nameLength contentLength : Nat) : Nat :=
  (8 - (88 + nameLength + contentLength) % 8) % 8

/-- The record of one user. -/
def recordBytes (name content : Bytes) : Bytes :=
  recordWord ++
    lengthBytes name.length ++ name ++
    lengthBytes 16 ++ List.replicate 16 saltByte ++
    lengthBytes 32 ++ List.replicate 32 hashByte ++
    lengthBytes content.length ++ content ++
    List.replicate (padding name.length content.length) 0

/-- The directory file of users in the order in which they registered. -/
def directoryBytes (users : List (Bytes × Bytes)) : Bytes :=
  users.flatMap fun user => recordBytes user.1 user.2

end Conformance.Standin
