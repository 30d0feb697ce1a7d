/-!
# Classes of characters

Named sets of ASCII characters, as patterns and other sets refer to them, each given by ranges.
-/

namespace Conformance.Text

/-- The ranges of characters that belong to a class. -/
def classRanges? (name : List Char) : Option (List (Char × Char)) :=
  match String.ofList name with
  | "alnum" => some [('0', '9'), ('A', 'Z'), ('a', 'z')]
  | "alpha" => some [('A', 'Z'), ('a', 'z')]
  | "blank" => some [('\t', '\t'), (' ', ' ')]
  | "cntrl" => some [('\x00', '\x1f'), ('\x7f', '\x7f')]
  | "digit" => some [('0', '9')]
  | "graph" => some [('!', '~')]
  | "lower" => some [('a', 'z')]
  | "print" => some [(' ', '~')]
  | "punct" => some [('!', '/'), (':', '@'), ('[', '\x60'), ('\x7b', '~')]
  | "space" => some [('\t', '\x0d'), (' ', ' ')]
  | "upper" => some [('A', 'Z')]
  | "xdigit" => some [('0', '9'), ('A', 'F'), ('a', 'f')]
  | _ => none

/-- A class in brackets and colons at the beginning of a text, and what follows it. -/
def class? (text : List Char) : Option (List (Char × Char) × List Char) :=
  match text with
  | '[' :: ':' :: rest =>
    let name := rest.takeWhile fun c => c ≠ ':'
    match rest.drop name.length with
    | ':' :: ']' :: left => (classRanges? name).map fun ranges => (ranges, left)
    | _ => none
  | _ => none

end Conformance.Text
