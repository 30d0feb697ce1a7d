import Conformance.Shell.Read.Redirect

/-!
# Reading scripts

Scripts are read from left to right into commands. Reading a word and reading a command need each
other, since a word may hold the output of commands; `commands` ties the knot, with a bound that is
computed from the length of the text. A script is read one complete command at a time, so that what
stands behind a mistake does not matter before the shell gets there.
-/

namespace Conformance.Shell

open Reader

/-- Words that are part of the language where a command begins. -/
def reservedWords : List Chars :=
  ["if", "then", "else", "elif", "fi", "do", "done", "case", "esac", "while", "until", "for", "\x7b",
    "\x7d", "!", "in"].map String.toList

/-- Words that end a list of commands. -/
def closingWords : List Chars :=
  ["then", "else", "elif", "fi", "do", "done", "esac", "\x7d"].map String.toList

/-- The plain text at the beginning of some text, up to the end of the word. -/
def plainWord (text : Chars) : Chars := text.takeWhile (!isMeta ·)

/-- Take a reserved word if it comes next, and tell whether it did. -/
def reserved (name : String) : Reader Bool := do
  let now ← rest
  if plainWord now = name.toList then
    leave (now.drop name.toList.length)
    return true
  else return false

/-- Take a reserved word that has to come next, after any line ends. -/
def demand (name : String) : Reader Unit := do
  lines
  if !(← reserved name) then fail

/-- Whether a list of commands ends here. -/
def atClose : Reader Bool := do
  let now ← rest
  return now.isEmpty || [')'].isPrefixOf now || [';', ';'].isPrefixOf now ||
    closingWords.contains (plainWord now)

/-- An assignment cut at its equals sign, if the word is one. -/
def assignment? : Word → Option (Chars × Word)
  | .bare text :: rest =>
    let name := text.takeWhile (· ≠ '=')
    match text.dropWhile (· ≠ '=') with
    | _ :: value =>
      if isName name then some (name, (if value.isEmpty then rest else .bare value :: rest))
      else none
    | [] => none
  | _ => none

/-- The rest of a simple command: assignments, words and redirections in any order, assignments only in
    front of the first word. -/
def simpleRest (inner : Reader (List Command)) :
    Nat → List (Chars × Word) → List Word → List Redirect → Reader Command
  | 0, _, _, _ => fail
  | bound + 1, assignments, words, found => do
    blanks
    match ← redirect? inner with
    | some redirect => simpleRest inner bound assignments words (redirect :: found)
    | none =>
      match ← word? inner with
      | none =>
        if assignments.isEmpty ∧ words.isEmpty ∧ found.isEmpty then fail
        else return .simple assignments.reverse words.reverse found.reverse
      | some word =>
        match (if words.isEmpty then assignment? word else none) with
        | some assignment => simpleRest inner bound (assignment :: assignments) words found
        | none => simpleRest inner bound assignments (word :: words) found

/-- Commands, of which there has to be one. -/
def someOf (inner : Reader (List Command)) : Reader (List Command) := do
  match ← inner with
  | [] => fail
  | found => return found

/-- The conditional behind its first word. -/
def conditional (inner : Reader (List Command)) : Nat → Reader Command
  | 0 => fail
  | bound + 1 => do
    let test ← someOf inner
    demand "then"
    let thenBody ← someOf inner
    lines
    if ← reserved "elif" then
      let next ← conditional inner bound
      return .conditional test thenBody [next]
    else if ← reserved "else" then
      let elseBody ← someOf inner
      demand "fi"
      return .conditional test thenBody elseBody
    else
      demand "fi"
      return .conditional test thenBody []

/-- Commands between `do` and `done`. -/
def doBody (inner : Reader (List Command)) : Reader (List Command) := do
  demand "do"
  let body ← someOf inner
  demand "done"
  return body

/-- The words of a loop, up to the end of the line. -/
def loopWords (inner : Reader (List Command)) : Nat → Reader (List Word)
  | 0 => fail
  | bound + 1 => do
    blanks
    match ← word? inner with
    | some word => return word :: (← loopWords inner bound)
    | none => return []

/-- A loop over words, behind its first word. -/
def eachLoop (inner : Reader (List Command)) : Reader Command := do
  blanks
  let name ← takeWhile isNameChar
  if !isName name then fail
  lines
  let words ←
    if ← reserved "in" then
      let words ← loopWords inner ((← rest).length + 1)
      let _ ← accept [';']
      pure (some words)
    else
      let _ ← accept [';']
      pure none
  return .each name words (← doBody inner)

/-- The patterns of a branch, up to the closing parenthesis. -/
def patterns (inner : Reader (List Command)) : Nat → Reader (List Word)
  | 0 => fail
  | bound + 1 => do
    blanks
    let first ← word inner
    blanks
    if ← accept ['|'] then return first :: (← patterns inner bound)
    expect [')']
    return [first]

/-- The branches of a selection, up to the word that ends it. -/
def branches (inner : Reader (List Command)) : Nat → Reader (List (List Word × List Command))
  | 0 => fail
  | bound + 1 => do
    lines
    if ← reserved "esac" then return []
    let _ ← accept ['(']
    let found ← patterns inner ((← rest).length + 1)
    let body ← inner
    lines
    if ← accept [';', ';'] then return (found, body) :: (← branches inner bound)
    demand "esac"
    return [(found, body)]

/-- A selection, behind its first word. -/
def selection (inner : Reader (List Command)) : Reader Command := do
  blanks
  let subject ← word inner
  demand "in"
  return .select subject (← branches inner ((← rest).length + 1))

/-- The name of a function whose definition begins here; nothing if none does. -/
def functionName? : Reader (Option Chars) := do
  let start ← rest
  let name ← takeWhile isNameChar
  if isName name ∧ !reservedWords.contains name then
    blanks
    if ← accept ['('] then
      blanks
      if ← accept [')'] then
        lines
        return some name
  leave start
  return none

/-- A compound command; nothing if none begins here. -/
def compound? (inner : Reader (List Command)) : Reader (Option Command) := do
  if ← accept ['('] then
    let body ← someOf inner
    lines
    expect [')']
    return some (.subshell body)
  else if ← reserved "\x7b" then
    let body ← someOf inner
    demand "\x7d"
    return some (.group body)
  else if ← reserved "if" then return some (← conditional inner ((← rest).length + 1))
  else if ← reserved "while" then
    let test ← someOf inner
    return some (.loop false test (← doBody inner))
  else if ← reserved "until" then
    let test ← someOf inner
    return some (.loop true test (← doBody inner))
  else if ← reserved "for" then return some (← eachLoop inner)
  else if ← reserved "case" then return some (← selection inner)
  else return none

/-- A command without pipes, up to its redirections. -/
def plainCommand (inner : Reader (List Command)) : Reader Command := do
  blanks
  let bound := (← rest).length + 1
  let finish := fun (command : Command) => do
    match ← redirects inner bound with
    | [] => return command
    | found => return Command.redirected command found
  match ← functionName? with
  | some name =>
    blanks
    match ← compound? inner with
    | some body => return .define name (← finish body)
    | none => return .define name (← simpleRest inner (2 * bound) [] [] [])
  | none =>
    match ← compound? inner with
    | some command => finish command
    | none =>
      if ← atClose then fail
      simpleRest inner (2 * bound) [] [] []

/-- The commands of a pipeline. -/
def stages (inner : Reader (List Command)) : Nat → Reader (List Command)
  | 0 => fail
  | bound + 1 => do
    let first ← plainCommand inner
    blanks
    let now ← rest
    if ['|'].isPrefixOf now ∧ ¬['|', '|'].isPrefixOf now then
      leave (now.drop 1)
      lines
      return first :: (← stages inner bound)
    else return [first]

/-- A pipeline. -/
def pipeline (inner : Reader (List Command)) : Reader Command := do
  blanks
  let negated ← reserved "!"
  blanks
  match negated, ← stages inner ((← rest).length + 1) with
  | false, [only] => return only
  | negated, commands => return .pipeline negated commands

/-- The pipelines that follow one, joined by `&&` and `||`. -/
def andOrRest (inner : Reader (List Command)) : Nat → Command → Reader Command
  | 0, first => return first
  | bound + 1, first => do
    blanks
    if ← accept ['&', '&'] then
      lines
      andOrRest inner bound (.both first (← pipeline inner))
    else if ← accept ['|', '|'] then
      lines
      andOrRest inner bound (.either first (← pipeline inner))
    else return first

/-- Pipelines joined by `&&` and `||`, with what ends them. -/
def andOr (inner : Reader (List Command)) : Reader Command := do
  let command ← andOrRest inner ((← rest).length + 1) (← pipeline inner)
  blanks
  let now ← rest
  if ['&'].isPrefixOf now then
    leave (now.drop 1)
    return .background command
  else if [';'].isPrefixOf now ∧ ¬[';', ';'].isPrefixOf now then
    leave (now.drop 1)
    return command
  else if now.isEmpty ∨ ['\n'].isPrefixOf now ∨ [')'].isPrefixOf now ∨
      [';', ';'].isPrefixOf now then return command
  else if ← atClose then return command
  else fail

/-- Commands up to the end of the list. -/
def listItems (inner : Reader (List Command)) : Nat → Reader (List Command)
  | 0 => fail
  | bound + 1 => do
    lines
    if ← atClose then return []
    let first ← andOr inner
    return first :: (← listItems inner bound)

/-- Commands up to the end of the list, nested no deeper than a bound. -/
def commands : Nat → Reader (List Command)
  | 0 => fail
  | depth + 1 => do listItems (commands depth) ((← rest).length + 2)

/-- The commands on one line. -/
def lineItems (inner : Reader (List Command)) : Nat → Reader (List Command)
  | 0 => fail
  | bound + 1 => do
    blanks
    let now ← rest
    if now.isEmpty then return []
    if ← accept ['\n'] then return []
    let first ← andOr inner
    return first :: (← lineItems inner bound)

/-- The next complete command of a script. -/
inductive NextCommand where
  | done
  | mistake
  | found (commands : List Command) (left : Chars)

/-- Read the next complete command: what stands on one line, with everything that belongs to it. -/
def nextCommand (text : Chars) : NextCommand :=
  let text := skipLines (text.length + 1) text
  if text.isEmpty then .done
  else
    match (lineItems (commands (text.length + 1)) (text.length + 2)).run text with
    | none => .mistake
    | some (found, left) => .found found left

end Conformance.Shell
