import Conformance.Data.Basic

/-!
# Records in documents

How a document spells values of fixed types. A record is a table with the record's field names, or a
list with the fields in order; fields that it does not name are left to the reader of the field,
which fails or takes a default. A table may hold more than the record's fields, but each of those
at most once.
-/

namespace Conformance.Data

/-- Whether a list in place of a record may be longer than the record. -/
inductive Surplus where
  | refused
  | ignored
deriving DecidableEq, Repr

/-- The values of a record's fields in the order of the names, missing ones as `none`. -/
def fields? (surplus : Surplus) (names : List String) : Data → Option (List (Option Data))
  | table entries =>
    if entries.any (·.1.isNone) then none
    else names.mapM fun name =>
      match entriesAt name entries with
      | [] => some none
      | [value] => some (some value)
      | _ => none
  | list items =>
    if items.length ≤ names.length then
      some (items.map some ++ List.replicate (names.length - items.length) none)
    else match surplus with
      | .refused => none
      | .ignored => some ((items.take names.length).map some)
  | _ => none

/-- A field that has to be there. -/
def required {α : Type} (read : Data → Option α) : Option Data → Option α
  | some data => read data
  | none => none

/-- A field that stands for a default where it is missing. -/
def defaulted {α : Type} (default : α) (read : Data → Option α) : Option Data → Option α
  | some data => read data
  | none => some default

/-- A text. -/
def text? : Data → Option String
  | text value => some value
  | _ => none

/-- A flag. -/
def flag? : Data → Option Bool
  | flag value => some value
  | _ => none

/-- A natural number below a bound. -/
def below? (bound : Nat) : Data → Option Nat
  | whole (.ofNat n) => if n < bound then some n else none
  | _ => none

/-- A 16-bit number. -/
def word16? (data : Data) : Option UInt16 := (data.below? UInt16.size).map UInt16.ofNat

/-- A 32-bit number. -/
def word32? (data : Data) : Option UInt32 := (data.below? UInt32.size).map UInt32.ofNat

/-- A 64-bit number. -/
def word64? (data : Data) : Option UInt64 := (data.below? UInt64.size).map UInt64.ofNat

/-- A list whose items all have a type. -/
def listOf? {α : Type} (read : Data → Option α) : Data → Option (List α)
  | list items => items.mapM read
  | _ => none

/-- One of some named values: its name, or a table with the name alone over null. -/
def oneOf? {α : Type} (all : List α) (label : α → String) : Data → Option α
  | text name => all.find? fun value => label value = name
  | table [(some name, null)] => all.find? fun value => label value = name
  | _ => none

end Conformance.Data
