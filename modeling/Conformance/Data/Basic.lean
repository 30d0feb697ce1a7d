/-!
# Data read from documents

Both document formats of the library, JSON and TOML, are read into one type of values before
anything is made of them. A value keeps what decides whether it can be used, no more: a number that
is not written as an integer can be used for nothing here, and neither can a date or a string whose
escapes leave half of a surrogate pair over, so these carry no content.
-/

namespace Conformance

/-- A value as a document spells it out. -/
inductive Data where
  | null
  | flag (value : Bool)
  | whole (value : Int)
  | fractional
  | moment
  | text (value : String)
  | unpaired
  | list (items : List Data)
  | table (entries : List (Option String × Data))
deriving Repr, Inhabited

namespace Data

/-- The entries of a table whose key is the given one, in order. -/
def entriesAt (key : String) (entries : List (Option String × Data)) : List Data :=
  entries.filterMap fun entry => if entry.1 = some key then some entry.2 else none

end Data

end Conformance
