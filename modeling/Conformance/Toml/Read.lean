import Conformance.Toml.Scalar
import Conformance.Toml.Tree

/-!
# Reading TOML

A document is a sequence of lines: blank ones and comments, keys with values, and headers that say
which table the keys after them belong to. A byte order mark before the first line is skipped.
-/

namespace Conformance.Toml

mutual

/-- A value. The first count bounds the search, the second is how many arrays and inline tables are
    open. -/
def value? : Nat → Nat → List Char → Option (Data × List Char)
  | 0, _, _ => none
  | fuel + 1, depth, cs =>
    match cs with
    | '"' :: _ => (string? cs).map fun (text, rest) => (.text text, rest)
    | '\'' :: _ => (string? cs).map fun (text, rest) => (.text text, rest)
    | '[' :: rest => if depth + 1 < depthLimit then items? fuel (depth + 1) [] rest else none
    | '{' :: rest =>
      if depth + 1 < depthLimit then
        match skipBlanks rest with
        | '}' :: rest => some (.table [], rest)
        | rest => members? fuel (depth + 1) (.fresh false false) rest
      else none
    | 't' :: 'r' :: 'u' :: 'e' :: rest => some (.flag true, rest)
    | 'f' :: 'a' :: 'l' :: 's' :: 'e' :: rest => some (.flag false, rest)
    | 'i' :: 'n' :: 'f' :: rest => some (.fractional, rest)
    | 'n' :: 'a' :: 'n' :: rest => some (.fractional, rest)
    | c :: _ => if c = '+' || c = '-' || (Text.digitValue? c).isSome then number? cs else none
    | [] => none

/-- The items of an array up to its end, after those already read, last first. -/
def items? : Nat → Nat → List Data → List Char → Option (Data × List Char)
  | 0, _, _, _ => none
  | fuel + 1, depth, before, cs =>
    match skipLines? (cs.length + 1) cs with
    | none => none
    | some (']' :: rest) => some (.list before.reverse, rest)
    | some rest =>
      match value? fuel depth rest with
      | none => none
      | some (item, rest) =>
        match skipLines? (rest.length + 1) rest with
        | some (',' :: rest) => items? fuel depth (item :: before) rest
        | some (']' :: rest) => some (.list (item :: before).reverse, rest)
        | _ => none

/-- The members of an inline table up to its end, which has at least one. -/
def members? : Nat → Nat → Tree → List Char → Option (Data × List Char)
  | 0, _, _, _ => none
  | fuel + 1, depth, before, cs =>
    match key? (cs.length + 1) cs with
    | some (key, '=' :: rest) =>
      if key.length < depthLimit then
        match value? fuel depth (skipBlanks rest) with
        | none => none
        | some (data, rest) =>
          match before.define? key.dropLast (key.getLast?.getD "") data with
          | none => none
          | some table =>
            match skipBlanks rest with
            | ',' :: rest => members? fuel depth table rest
            | '}' :: rest => some (table.toData, rest)
            | _ => none
      else none
    | _ => none

end

/-- A key and its value, to the end of the line. -/
def keyLine? (draft : Draft) (cs : List Char) : Option (Draft × List Char) :=
  match key? (cs.length + 1) cs with
  | some (key, '=' :: rest) =>
    if key.length < depthLimit then do
      let (data, rest) ← value? (2 * rest.length + 2) 0 (skipBlanks rest)
      let rest ← lineEnd? rest
      some (← draft.define? key data, rest)
    else none
  | _ => none

/-- A header, to the end of the line. -/
def header? (draft : Draft) (cs : List Char) : Option (Draft × List Char) :=
  match cs with
  | '[' :: '[' :: rest =>
    match key? (rest.length + 1) rest with
    | some (key, ']' :: ']' :: rest) =>
      if key.length < depthLimit then do
        let rest ← lineEnd? rest
        some (← draft.openArray? key, rest)
      else none
    | _ => none
  | '[' :: rest =>
    match key? (rest.length + 1) rest with
    | some (key, ']' :: rest) =>
      if key.length < depthLimit then do
        let rest ← lineEnd? rest
        some (← draft.openTable? key, rest)
      else none
    | _ => none
  | _ => none

/-- The lines from here to the end of the document. The count bounds their number. -/
def lines? : Nat → Draft → List Char → Option Draft
  | 0, _, _ => none
  | fuel + 1, draft, cs =>
    match skipBlanks cs with
    | [] => some draft
    | '#' :: rest =>
      match rest.dropWhile isInLine with
      | [] => some draft
      | rest => (newline? rest).bind (lines? fuel draft)
    | '[' :: rest => (header? draft ('[' :: rest)).bind fun (draft, rest) => lines? fuel draft rest
    | rest =>
      match newline? rest with
      | some rest => lines? fuel draft rest
      | none => (keyLine? draft rest).bind fun (draft, rest) => lines? fuel draft rest

/-- The top table of a document. -/
def read? (text : String) : Option Data :=
  let cs := match text.toList with
    | '\uFEFF' :: rest => rest
    | cs => cs
  ((lines? (cs.length + 1) .start cs).bind Draft.close?).map Tree.toData

end Conformance.Toml
