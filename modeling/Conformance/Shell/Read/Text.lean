import Conformance.Shell.Script
import Conformance.Text.Decimal

/-!
# Reading text

A reader takes some of a script and leaves the rest. Between words stand blanks, comments and line
ends, which mean nothing themselves.
-/

namespace Conformance.Shell

/-- A reader takes some of the text and leaves the rest; nothing on a mistake. -/
abbrev Reader := StateT Chars Option

namespace Reader

/-- Give up. -/
def fail {α : Type} : Reader α := fun _ => none

/-- The text that is left. -/
def rest : Reader Chars := get

/-- Leave another text. -/
def leave (text : Chars) : Reader Unit := set text

/-- Take a text if it comes next, and tell whether it did. -/
def accept (text : Chars) : Reader Bool := do
  let now ← rest
  if text.isPrefixOf now then
    leave (now.drop text.length)
    return true
  else return false

/-- Take a text that has to come next. -/
def expect (text : Chars) : Reader Unit := do
  if !(← accept text) then fail

/-- Take characters as long as they pass a test. -/
def takeWhile (test : Char → Bool) : Reader Chars := do
  let now ← rest
  leave (now.dropWhile test)
  return now.takeWhile test

end Reader

open Reader

/-! ## Characters -/

/-- Whether a character separates words. -/
def isBlank (c : Char) : Bool := c = ' ' || c = '\t'

/-- Whether a character ends a word. -/
def isMeta (c : Char) : Bool := isBlank c || c = '\n' || "|&;<>()".toList.contains c

/-- Whether a character can begin a name. -/
def isNameStart (c : Char) : Bool := c.isAlpha || c = '_'

/-- Whether a character can go on with a name. -/
def isNameChar (c : Char) : Bool := c.isAlphanum || c = '_'

/-- Whether a text is a name. -/
def isName (text : Chars) : Bool :=
  match text with
  | [] => false
  | c :: rest => isNameStart c && rest.all isNameChar

/-- The parameters with a one-character name that is no letter. -/
def isSpecial (c : Char) : Bool := "@*#?-$!".toList.contains c

/-- Step over blanks, joined lines and a comment. -/
def skipBlanks : Nat → Chars → Chars
  | 0, text => text
  | bound + 1, text =>
    match text with
    | '\\' :: '\n' :: rest => skipBlanks bound rest
    | '#' :: rest => rest.dropWhile (· ≠ '\n')
    | c :: rest => if isBlank c then skipBlanks bound rest else text
    | [] => []

/-- Step over blanks and a comment. -/
def blanks : Reader Unit := modify fun text => skipBlanks text.length text

/-- Step over blanks, comments and line ends. -/
def skipLines : Nat → Chars → Chars
  | 0, text => text
  | bound + 1, text =>
    match skipBlanks text.length text with
    | '\n' :: rest => skipLines bound rest
    | text => text

/-- Step over blanks, comments and line ends. -/
def lines : Reader Unit := modify fun text => skipLines text.length text

end Conformance.Shell
