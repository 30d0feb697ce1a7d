import Conformance.Directory.Layout

/-!
# Records and their encoding

Records are written back to back. A record is padded relative to its own start, so what is appended
for it does not depend on what stands before it.
-/

namespace Conformance.Directory

/-- What is stored about one user. -/
structure Record where
  username : Bytes
  salt : Bytes
  hash : Bytes
  content : Bytes
deriving DecidableEq, Repr

namespace Record

/-- The username as text. -/
def name (record : Record) : String := Text.decode record.username

/-- The fields behind length fields, in stored order. -/
def fields (record : Record) : List Bytes :=
  [record.username, record.salt, record.hash, record.content]

/-- The size of the record without its padding. -/
def rawLength (record : Record) : Nat :=
  marker.length + 4 * lengthWidth + record.username.length + record.salt.length +
    record.hash.length + record.content.length

/-- The size of the record with its padding. -/
def encodedLength (record : Record) : Nat := roundUp record.rawLength

/-- A field behind its length. -/
def encodeField (field : Bytes) : Bytes := Bytes.littleEndian lengthWidth field.length ++ field

/-- The record without its padding. -/
def encodeRaw (record : Record) : Bytes := marker ++ record.fields.flatMap encodeField

/-- Append the record to what has been written, padding what was appended. -/
def appendTo (out : Bytes) (record : Record) : Bytes :=
  let unpadded := out ++ record.encodeRaw
  let written := unpadded.length - out.length
  unpadded ++ List.replicate (roundUp written - written) 0

end Record

/-- The directory file of a list of records. -/
def encode (records : List Record) : Bytes := records.foldl Record.appendTo []

/-- The usernames in file order, as text. -/
def usernames (records : List Record) : List String := records.map Record.name

end Conformance.Directory
