import Conformance.Shell.Read.Word

/-!
# Reading redirections

A redirection names a descriptor, an operator and a word. The lines of a text inside the script stand
behind the line of the command.
-/

namespace Conformance.Shell

open Reader

/-- The characters of a word without its quotes, as the end of a text inside the script is given, and
    whether anything was quoted. -/
def delimiter : Word → Chars × Bool
  | [] => ([], false)
  | .bare text :: rest => let (more, quoted) := delimiter rest; (text ++ more, quoted)
  | .quoted text :: rest => let (more, _) := delimiter rest; (text ++ more, true)
  | .double [.quoted text] :: rest => let (more, _) := delimiter rest; (text ++ more, true)
  | _ :: rest => let (more, _) := delimiter rest; (more, true)

/-- The lines up to the one that ends a text inside the script, and what follows it. -/
def hereLines (stop : Chars) (dropTabs : Bool) : Nat → Chars → Chars × Chars
  | 0, text => ([], text)
  | _, [] => ([], [])
  | bound + 1, text =>
    let raw := text.takeWhile (· ≠ '\n')
    let left := (text.dropWhile (· ≠ '\n')).drop 1
    let line := if dropTabs then raw.dropWhile (· = '\t') else raw
    if line = stop then ([], left)
    else
      let (body, left) := hereLines stop dropTabs bound left
      (line ++ '\n' :: body, left)

/-- A text inside the script. It begins on the next line, from which it is taken away. -/
def hereText (inner : Reader (List Command)) (dropTabs : Bool) : Reader Word := do
  blanks
  let (stop, quoted) := delimiter (← word inner)
  let now ← rest
  let thisLine := now.takeWhile (· ≠ '\n')
  let below := (now.dropWhile (· ≠ '\n')).drop 1
  let (body, left) := hereLines stop dropTabs (below.length + 1) below
  leave (thisLine ++ '\n' :: left)
  if quoted then return [.quoted body]
  else
    match (piecesAt inner (pieceBound body) .here).run body with
    | some (pieces, _) => return [.double pieces]
    | none => fail

/-- The operators of redirections: the text, the descriptor that is meant without a number, and how the
    target is opened. Longer ones come first. -/
def redirectOperators : List (Chars × Nat × RedirectKind) :=
  [(['<', '>'], 0, .both), (['<', '&'], 0, .copy), (['>', '&'], 1, .copy),
    (['>', '>'], 1, .append), (['>', '|'], 1, .output), (['<'], 0, .input), (['>'], 1, .output)]

/-- A redirection; nothing if none begins here. -/
def redirect? (inner : Reader (List Command)) : Reader (Option Redirect) := do
  let start ← rest
  let digits ← takeWhile Char.isDigit
  let number := Text.digits? digits
  if ← accept ['<', '<'] then
    let dropTabs ← accept ['-']
    return some (.mk (number.getD 0) .here (← hereText inner dropTabs))
  let now ← rest
  match redirectOperators.find? fun operator => operator.1.isPrefixOf now with
  | some (text, usual, kind) =>
    leave (now.drop text.length)
    blanks
    return some (.mk (number.getD usual) kind (← word inner))
  | none => leave start; return none

/-- Redirections, as many as there are. -/
def redirects (inner : Reader (List Command)) : Nat → Reader (List Redirect)
  | 0 => return []
  | bound + 1 => do
    blanks
    match ← redirect? inner with
    | some redirect => return redirect :: (← redirects inner bound)
    | none => return []

end Conformance.Shell
