import Conformance.Data.Basic

/-!
# TOML: building tables

A document defines tables piece by piece: by headers, by headers of arrays, and by keys with dots.
The tree records how each table came to be, because that decides what may still be added to it: a
table that only a longer header or a dotted key implied may be defined once more, and dotted keys
extend only tables that dotted keys made.
-/

namespace Conformance.Toml

/-- A table under construction, and what can stand in it. -/
inductive Tree where
  | value (data : Data)
  | table (implied dotted : Bool) (entries : List (String × Tree))
  | tables (items : List Tree)
deriving Inhabited

namespace Tree

/-- A table of nothing. -/
def fresh (implied dotted : Bool) : Tree := .table implied dotted []

mutual

/-- The finished value. -/
def toData : Tree → Data
  | value data => data
  | table _ _ entries => .table (entriesData entries)
  | tables items => .list (itemsData items)

/-- The finished entries. -/
def entriesData : List (String × Tree) → List (Option String × Data)
  | [] => []
  | (key, tree) :: rest => (some key, tree.toData) :: entriesData rest

/-- The finished tables of an array. -/
def itemsData : List Tree → List Data
  | [] => []
  | tree :: rest => tree.toData :: itemsData rest

end

/-- The entry of a key. -/
def find? (key : String) (entries : List (String × Tree)) : Option Tree :=
  (entries.find? (·.1 = key)).map (·.2)

/-- The entries with the one of a key set, in its place or at the end. -/
def set (key : String) (tree : Tree) (entries : List (String × Tree)) : List (String × Tree) :=
  if entries.any (·.1 = key) then entries.map fun e => if e.1 = key then (key, tree) else e
  else entries ++ [(key, tree)]

/-- Change the table that a path leads to, and give what the change gives. Tables on the way that are
    missing are made; an array of tables stands for its last one. A dotted path goes only through
    implied tables. -/
def update? {α : Type} (dotted : Bool) (change : Tree → Option (α × Tree)) :
    List String → Tree → Option (α × Tree)
  | [], tree => change tree
  | key :: path, table implied byDots entries =>
    match find? key entries with
    | none =>
      (update? dotted change path (fresh true dotted)).map fun (result, tree) =>
        (result, table implied byDots (set key tree entries))
    | some (value _) => none
    | some (tables items) =>
      match items.reverse with
      | [] => none
      | last :: before =>
        (update? dotted change path last).map fun (result, tree) =>
          (result, table implied byDots (set key (tables (tree :: before).reverse) entries))
    | some (table childImplied childByDots childEntries) =>
      if dotted ∧ !childImplied then none
      else
        (update? dotted change path (table childImplied childByDots childEntries)).map
          fun (result, tree) => (result, table implied byDots (set key tree entries))
  | _ :: _, _ => none

/-- Set a key of a table, given by the path before it and its last name. The table has to have been
    made by dotted keys exactly if the path is not empty, and must not have the key. -/
def define? (path : List String) (key : String) (data : Data) (tree : Tree) : Option Tree :=
  let change (found : Tree) : Option (Unit × Tree) :=
    match found with
    | table implied byDots entries =>
      if byDots = path.isEmpty ∨ (find? key entries).isSome then none
      else some ((), table implied byDots (entries ++ [(key, value data)]))
    | _ => none
  (update? true change path tree).map (·.2)

/-- Put a table under a key that is not taken. -/
def insert? (key : String) (tree : Tree) : Tree → Option (Unit × Tree)
  | table implied byDots entries =>
    if (find? key entries).isSome then none
    else some ((), table implied byDots (entries ++ [(key, tree)]))
  | _ => none

/-- Add a table to the array of tables under a key, which may be missing. -/
def push? (key : String) (tree : Tree) : Tree → Option (Unit × Tree)
  | table implied byDots entries =>
    match find? key entries with
    | none => some ((), table implied byDots (entries ++ [(key, tables [tree])]))
    | some (tables items) =>
      some ((), table implied byDots (set key (tables (items ++ [tree])) entries))
    | some _ => none
  | _ => none

/-- Take the table out that a header defines: the implied one under the key, or a fresh one. -/
def take? (key : String) : Tree → Option (Tree × Tree)
  | table implied byDots entries =>
    match find? key entries with
    | none => some (fresh false false, table implied byDots entries)
    | some (table true false inner) =>
      some (table false false inner, table implied byDots (entries.filter (·.1 ≠ key)))
    | some _ => none
  | _ => none

/-- Whether the key may head an array of tables. -/
def canPush? (key : String) : Tree → Option (Unit × Tree)
  | table implied byDots entries =>
    match find? key entries with
    | none => some ((), table implied byDots entries)
    | some (tables _) => some ((), table implied byDots entries)
    | some _ => none
  | _ => none

end Tree

/-- A document under construction: the finished part, the table that is being filled, and the place
    that this one is for. -/
structure Draft where
  root : Tree
  current : Tree
  path : List String
  isArray : Bool

namespace Draft

/-- Before the first line. -/
def start : Draft := ⟨.fresh false false, .fresh false false, [], false⟩

/-- Put the table that is being filled into its place. -/
def close? (draft : Draft) : Option Tree :=
  match draft.path.getLast? with
  | none => some draft.current
  | some key =>
    let place := if draft.isArray then Tree.push? key draft.current else Tree.insert? key draft.current
    (Tree.update? false place draft.path.dropLast draft.root).map (·.2)

/-- A header: the table at the path is filled from here. -/
def openTable? (path : List String) (draft : Draft) : Option Draft := do
  let root ← draft.close?
  let key ← path.getLast?
  let (current, root) ← Tree.update? false (Tree.take? key) path.dropLast root
  some ⟨root, current, path, false⟩

/-- A header of an array: a new table at its end is filled from here. -/
def openArray? (path : List String) (draft : Draft) : Option Draft := do
  let root ← draft.close?
  let key ← path.getLast?
  let (_, root) ← Tree.update? false (Tree.canPush? key) path.dropLast root
  some ⟨root, .fresh false false, path, true⟩

/-- A key and its value. -/
def define? (key : List String) (data : Data) (draft : Draft) : Option Draft := do
  let name ← key.getLast?
  let current ← draft.current.define? key.dropLast name data
  some { draft with current := current }

end Draft

end Conformance.Toml
