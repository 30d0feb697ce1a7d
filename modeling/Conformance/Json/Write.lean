import Conformance.Data.Basic
import Conformance.Text.Decimal

/-!
# Writing JSON

A value to be written has no more than JSON can say. It is written on one line, or laid out with two
spaces of indentation, a line for each item and each member, and nothing inside empty brackets.
Strings escape the quote, the backslash and the controls, and nothing else.
-/

namespace Conformance

/-- A value that JSON can write. -/
inductive Json where
  | null
  | flag (value : Bool)
  | whole (value : Int)
  | text (value : String)
  | list (items : List Json)
  | table (members : List (String × Json))
deriving Repr, Inhabited

namespace Json

/-- The value of a natural number. -/
def count (n : Nat) : Json := .whole n

/-- A text, or null. -/
def ofText? : Option String → Json
  | some words => .text words
  | none => .null

/-- One character inside a JSON string. -/
def escapedChar (c : Char) : List Char :=
  match c with
  | '"' => ['\\', '"']
  | '\\' => ['\\', '\\']
  | '\x08' => ['\\', 'b']
  | '\x0C' => ['\\', 'f']
  | '\n' => ['\\', 'n']
  | '\r' => ['\\', 'r']
  | '\t' => ['\\', 't']
  | c =>
    if c.toNat < 0x10 then ['\\', 'u', '0', '0', '0'] ++ Nat.toDigits 16 c.toNat
    else if c.toNat < 0x20 then ['\\', 'u', '0', '0'] ++ Nat.toDigits 16 c.toNat
    else [c]

/-- A string with its quotes. -/
def stringChars (content : String) : List Char :=
  '"' :: (content.toList.flatMap escapedChar ++ ['"'])

/-- An integer in decimal. -/
def wholeChars : Int → List Char
  | .ofNat n => Nat.toDigits 10 n
  | .negSucc n => '-' :: Nat.toDigits 10 (n + 1)

/-- A flag as a word. -/
def flagChars : Bool → List Char
  | true => ['t', 'r', 'u', 'e']
  | false => ['f', 'a', 'l', 's', 'e']

/-- The layout of a text: what stands before the items of a bracket, before its end, and between a
    name and its value, at a given depth. -/
structure Layout where
  newline : Nat → List Char
  colon : List Char

/-- Everything on one line. -/
def Layout.compact : Layout := ⟨fun _ => [], [':']⟩

/-- A line for each item and each member, indented by two spaces for each bracket around it. -/
def Layout.pretty : Layout := ⟨fun depth => '\n' :: List.replicate (2 * depth) ' ', [':', ' ']⟩

mutual

/-- The text of a value at a depth. -/
def chars (layout : Layout) (depth : Nat) : Json → List Char
  | null => ['n', 'u', 'l', 'l']
  | flag value => flagChars value
  | whole value => wholeChars value
  | text value => stringChars value
  | list [] => ['[', ']']
  | list (item :: items) =>
    '[' :: (layout.newline (depth + 1) ++ chars layout (depth + 1) item ++
      itemsChars layout (depth + 1) items ++ layout.newline depth ++ [']'])
  | table [] => ['{', '}']
  | table ((key, value) :: members) =>
    '{' :: (layout.newline (depth + 1) ++ stringChars key ++ layout.colon ++
      chars layout (depth + 1) value ++ membersChars layout (depth + 1) members ++
      layout.newline depth ++ ['}'])

/-- The items after the first, each behind a comma. -/
def itemsChars (layout : Layout) (depth : Nat) : List Json → List Char
  | [] => []
  | item :: items =>
    ',' :: (layout.newline depth ++ chars layout depth item ++ itemsChars layout depth items)

/-- The members after the first, each behind a comma. -/
def membersChars (layout : Layout) (depth : Nat) : List (String × Json) → List Char
  | [] => []
  | (key, value) :: members =>
    ',' :: (layout.newline depth ++ stringChars key ++ layout.colon ++ chars layout depth value ++
      membersChars layout depth members)

end

/-- The value on one line. -/
def compact (json : Json) : String := String.ofList (json.chars .compact 0)

/-- The value laid out over lines. -/
def pretty (json : Json) : String := String.ofList (json.chars .pretty 0)

mutual

/-- The value as reading it back gives it. -/
def toData : Json → Data
  | null => .null
  | flag value => .flag value
  | whole value => .whole value
  | text value => .text value
  | list items => .list (itemsData items)
  | table members => .table (membersData members)

/-- The items as reading them back gives them. -/
def itemsData : List Json → List Data
  | [] => []
  | item :: items => item.toData :: itemsData items

/-- The members as reading them back gives them. -/
def membersData : List (String × Json) → List (Option String × Data)
  | [] => []
  | (key, value) :: members => (some key, value.toData) :: membersData members

end

end Json

end Conformance
