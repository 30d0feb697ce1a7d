import Conformance.Tool.Regex
import Conformance.Tool.Streams

/-!
# Searching and editing

`grep` prints the lines in which an expression matches; `sed` carries out commands on each line. A
command has addresses that choose lines, and what it does with them.
-/

namespace Conformance.Tool

/-! ## Searching -/

/-- Whether a line is one that is searched for. -/
def isWanted (found : Arguments) (regexes : List Regex) (line : Chars) : Bool :=
  let isHit := fun (regex : Regex) =>
    if found.has 'x' then
      ((regex.points ⟨true, line, []⟩).any fun point => point.text.isEmpty)
    else regex.occursIn line
  (regexes.any isHit) != found.has 'v'

/-- The expressions that are searched for, one a line; texts that stand for themselves if asked for. -/
def wanted? (found : Arguments) (texts : List Chars) : Option (List Regex) :=
  let fold := fun (text : Chars) => if found.has 'i' then text.map Char.toLower else text
  let literal := fun (text : Chars) =>
    text.foldr (fun c rest => Regex.sequence (.char c) rest) Regex.empty
  ((texts.map lines).flatten.map fold).mapM fun text =>
    if found.has 'F' then some (literal text) else Regex.read? (found.has 'E') text

/-- What is printed for one file, and whether a line was found in it. -/
def searched (found : Arguments) (regexes : List Regex) (named : Bool) (name text : Chars) :
    List Chars × Bool :=
  let fold := fun (line : Chars) => if found.has 'i' then line.map Char.toLower else line
  let hits := ((lines text).zipIdx 1).filter fun (line, _) => isWanted found regexes (fold line)
  let front := if named then name ++ [':'] else []
  let shown :=
    if found.has 'q' then []
    else if found.has 'l' then if hits.isEmpty then [] else [name]
    else if found.has 'c' then [front ++ Nat.toDigits 10 hits.length]
    else
      hits.map fun (line, n) =>
        front ++ (if found.has 'n' then Nat.toDigits 10 n ++ [':'] else []) ++ line
  (shown, !hits.isEmpty)

/-- Prints lines in which an expression matches. -/
def grep : Tool := fun args =>
  withArguments "grep" "qvcniFExhHlswao" "e" args fun found => do
    let given := (found.options.filter (·.letter = 'e')).map Flag.value
    let (texts, operands) :=
      if given.isEmpty then (found.operands.take 1, found.operands.drop 1) else (given, found.operands)
    match texts, wanted? found texts with
    | [], _ => complain "grep" "missing pattern"; return 2
    | _, none => complain "grep" "Invalid regular expression"; return 2
    | _, some regexes =>
      let (files, fine) ← contents "grep" (if operands.isEmpty then [['-']] else operands)
      let named := (1 < operands.length || found.has 'H') && !found.has 'h'
      let results := files.map fun (name, bytes) =>
        searched found regexes named name (Text.octets bytes)
      put (ofLines (results.map (·.1)).flatten)
      return if !fine then 2 else statusOf (results.any (·.2))

namespace Edit

/-! ## Commands of the editor -/

/-- What chooses a line. -/
inductive Address where
  | line (n : Nat)
  | last
  | matching (regex : Regex)
deriving DecidableEq, Repr

/-- A part of a replacement. -/
inductive Part where
  | plain (c : Char)
  | whole
  | group (number : Nat)
deriving DecidableEq, Repr

/-- What a command does with a line. -/
inductive Action where
  | substitute (regex : Regex) (parts : List Part) (nth : Nat) (all printing : Bool)
  | transliterate (source target : Chars)
  | print
  | delete
  | quit
  | number
  | append (text : Chars)
  | insert (text : Chars)
  | change (text : Chars)
deriving DecidableEq, Repr

/-- A command: the addresses that choose lines, whether they choose the others instead, what is done,
    and whether a range of lines has been entered. -/
structure Step where
  first : Option Address
  last : Option Address
  negated : Bool
  action : Action
  entered : Bool
deriving DecidableEq, Repr

/-! ## Reading -/

/-- A text up to a separator, which a backslash protects, and what follows. Other backslashes are
    kept. -/
def upTo (separator : Char) : Nat → Chars → Option (Chars × Chars)
  | 0, _ => none
  | _, [] => none
  | bound + 1, '\\' :: c :: rest =>
    let kept := if c = separator then [c] else ['\\', c]
    (upTo separator bound rest).map fun (text, left) => (kept ++ text, left)
  | bound + 1, c :: rest =>
    if c = separator then some ([], rest)
    else (upTo separator bound rest).map fun (text, left) => (c :: text, left)

/-- The parts of a replacement. -/
def replacement : Nat → Chars → List Part
  | 0, _ => []
  | _, [] => []
  | bound + 1, '&' :: rest => .whole :: replacement bound rest
  | bound + 1, '\\' :: c :: rest =>
    let part :=
      if c.isDigit then Part.group (c.toNat - '0'.toNat)
      else if c = 'n' then .plain '\n'
      else if c = 't' then .plain '\t'
      else if c = 'r' then .plain '\r'
      else .plain c
    part :: replacement bound rest
  | bound + 1, c :: rest => .plain c :: replacement bound rest

/-- An address at the beginning of a text. -/
def address? (extended : Bool) (text : Chars) : Option (Option Address × Chars) :=
  match text with
  | '$' :: rest => some (some .last, rest)
  | '/' :: rest =>
    match upTo '/' (rest.length + 1) rest with
    | none => none
    | some (pattern, rest) =>
      (Regex.read? extended pattern).map fun regex => (some (.matching regex), rest)
  | text =>
    let digits := text.takeWhile Char.isDigit
    some ((number? digits).map .line, text.drop digits.length)

/-- A substitution, behind its letter. -/
def substitution? (extended : Bool) (text : Chars) : Option (Action × Chars) :=
  match text with
  | [] => none
  | separator :: rest => do
    let (pattern, rest) ← upTo separator (rest.length + 1) rest
    let (target, rest) ← upTo separator (rest.length + 1) rest
    let regex ← Regex.read? extended pattern
    let isFlag := fun (c : Char) => c.isDigit || c = 'g' || c = 'p'
    let flags := rest.takeWhile isFlag
    let nth := (number? (flags.filter Char.isDigit)).getD 1
    some (.substitute regex (replacement target.length target) nth (flags.contains 'g')
      (flags.contains 'p'), rest.drop flags.length)

/-- The text of a command that takes one, behind its letter. -/
def given (text : Chars) : Chars × Chars :=
  let text := text.dropWhile fun c => c = ' ' || c = '\t'
  let text :=
    match text with
    | '\\' :: '\n' :: rest => rest
    | '\\' :: rest => rest
    | rest => rest
  (text.takeWhile (· ≠ '\n'), text.dropWhile (· ≠ '\n'))

/-- What a command does, with what follows it. -/
def action? (extended : Bool) (text : Chars) : Option (Action × Chars) :=
  match text with
  | 's' :: rest => substitution? extended rest
  | 'y' :: separator :: rest => do
    let (source, rest) ← upTo separator (rest.length + 1) rest
    let (target, rest) ← upTo separator (rest.length + 1) rest
    some (.transliterate (plainSet source.length source) (plainSet target.length target), rest)
  | 'p' :: rest => some (.print, rest)
  | 'd' :: rest => some (.delete, rest)
  | 'q' :: rest => some (.quit, rest)
  | '=' :: rest => some (.number, rest)
  | 'a' :: rest => let (text, rest) := given rest; some (.append text, rest)
  | 'i' :: rest => let (text, rest) := given rest; some (.insert text, rest)
  | 'c' :: rest => let (text, rest) := given rest; some (.change text, rest)
  | _ => none

/-- The commands of a script. -/
def steps? (extended : Bool) : Nat → Chars → Option (List Step)
  | 0, _ => none
  | bound + 1, text => do
    let isGap := fun (c : Char) => c = ' ' || c = '\t' || c = '\n' || c = ';'
    let text := text.dropWhile isGap
    if text.isEmpty then some []
    else
      let (first, rest) ← address? extended text
      let (last, rest) ←
        match rest with
        | ',' :: rest => address? extended rest
        | rest => some (none, rest)
      let rest := rest.dropWhile (· = ' ')
      let (negated, rest) :=
        match rest with
        | '!' :: rest => (true, rest)
        | rest => (false, rest)
      let (action, rest) ← action? extended (rest.dropWhile (· = ' '))
      let rest := rest.dropWhile (· = ' ')
      if rest.isEmpty ∨ rest.head? = some ';' ∨ rest.head? = some '\n' then
        (steps? extended bound rest).map (⟨first, last, negated, action, false⟩ :: ·)
      else none

/-! ## Editing -/

/-- A line on which commands work. -/
structure Line where
  text : Chars
  number : Nat
  isLast : Bool
deriving DecidableEq, Repr

/-- Whether an address chooses a line. -/
def Address.chooses (line : Line) : Address → Bool
  | Address.line n => line.number = n
  | last => line.isLast
  | matching regex => regex.occursIn line.text

/-- Whether a command works on a line, and the command with its range entered or left. -/
def Step.select (step : Step) (line : Line) : Bool × Step :=
  let (chosen, entered) :=
    match step.first, step.last with
    | none, _ => (true, false)
    | some first, none => (first.chooses line, false)
    | some first, some ending =>
      if step.entered then
        match ending with
        | .line n => (line.number ≤ n || first.chooses line, line.number < n)
        | ending => (true, !ending.chooses line)
      else if first.chooses line then
        match ending with
        | .line n => (true, line.number < n)
        | _ => (true, true)
      else (false, false)
  (chosen != step.negated, { step with entered := entered })

/-- The text of a replacement for a match. -/
def replaced (parts : List Part) (taken : Chars) (groups : List (Nat × Chars)) : Chars :=
  (parts.map fun part =>
    match part with
    | .plain c => [c]
    | .whole | .group 0 => taken
    | .group n => (groups.lookup n).getD []).flatten

/-- A text with matches replaced from a number on, all of them or one, and whether one was. A match of
    nothing does not count right behind another match. -/
def substituted (regex : Regex) (parts : List Part) (all : Bool) :
    Nat → Nat → Bool → Bool → Chars → Chars × Bool
  | 0, _, _, _, text => (text, false)
  | bound + 1, nth, atStart, afterMatch, text =>
    match regex.findFrom atStart [] text with
    | none => (text, false)
    | some found =>
      let rest := found.behind.text
      let passOver := fun (new : Chars) (nth : Nat) =>
        match rest with
        | [] => (found.before ++ new, false)
        | c :: rest =>
          let (more, changed) := substituted regex parts all bound nth false false rest
          (found.before ++ new ++ c :: more, changed)
      if found.taken.isEmpty ∧ found.before.isEmpty ∧ afterMatch then passOver [] nth
      else
        let isChosen := nth ≤ 1
        let new :=
          if isChosen then replaced parts found.taken found.behind.groups else found.taken
        if isChosen ∧ !all then (found.before ++ new ++ rest, true)
        else
          let (changedText, changed) :=
            if found.taken.isEmpty then passOver new (nth - 1)
            else
              let (more, changed) := substituted regex parts all bound (nth - 1) false true rest
              (found.before ++ new ++ more, changed)
          (changedText, changed || isChosen)

/-- What the commands made of a line: its text, what was printed, what is to be printed behind it, and
    whether it is still to be printed and editing goes on. -/
structure Progress where
  text : Chars
  printed : List Chars
  behind : List Chars
  showing : Bool
  going : Bool
  /-- Whether the commands that follow work on the line too. -/
  working : Bool
deriving DecidableEq, Repr

/-- Carry out an action. -/
def Action.apply (line : Line) (progress : Progress) : Action → Progress
  | substitute regex parts nth all printing =>
    let (text, changed) :=
      substituted regex parts all (progress.text.length + 2) nth true false progress.text
    { progress with
      text := text
      printed := progress.printed ++ (if changed && printing then [text] else []) }
  | transliterate source target =>
    { progress with text := progress.text.map fun c => (target[source.idxOf c]?).getD c }
  | print => { progress with printed := progress.printed ++ [progress.text] }
  | delete => { progress with showing := false, working := false }
  | quit => { progress with going := false, working := false }
  | number => { progress with printed := progress.printed ++ [Nat.toDigits 10 line.number] }
  | append text => { progress with behind := progress.behind ++ [text] }
  | insert text => { progress with printed := progress.printed ++ [text] }
  | change text =>
    { progress with printed := progress.printed ++ [text], showing := false, working := false }

/-- Carry out commands on a line; the commands come back with their ranges. -/
def Progress.run (line : Line) : Progress → List Step → Progress × List Step
  | progress, [] => (progress, [])
  | progress, step :: rest =>
    if !progress.working then (progress, step :: rest)
    else
      let (chosen, step) := step.select { line with text := progress.text }
      let next := if chosen then step.action.apply line progress else progress
      let (final, rest) := next.run line rest
      (final, step :: rest)

/-- Edit lines, the first of which has a number. -/
def edited (silent : Bool) : Nat → List Step → List Chars → List Chars
  | _, _, [] => []
  | n, steps, text :: rest =>
    let line : Line := ⟨text, n, rest.isEmpty⟩
    let (final, steps) := Progress.run line ⟨text, [], [], true, true, true⟩ steps
    let shown :=
      final.printed ++ (if final.showing && !silent then [final.text] else []) ++ final.behind
    shown ++ (if final.going then edited silent (n + 1) steps rest else [])

end Edit

/-- Edits lines and prints them, or keeps them in their files if asked to. -/
def sed : Tool := fun args =>
  withArguments "sed" "nErsiz" "ef" args fun found => do
    let given := (found.options.filter (·.letter = 'e')).map Flag.value
    let (scripts, operands) :=
      if given.isEmpty then (found.operands.take 1, found.operands.drop 1) else (given, found.operands)
    let script := List.intercalate ['\n'] scripts
    match scripts, Edit.steps? (found.has 'E' || found.has 'r') (script.length + 1) script with
    | [], _ => complain "sed" "no script specified"; return 1
    | _, none => complain "sed" "unknown command"; return 1
    | _, some steps =>
      let edit := fun (text : Chars) =>
        let result := ofLines (Edit.edited (found.has 'n') 1 steps (lines text))
        -- A last line without a feed keeps lacking it.
        if text.getLast? = some '\n' ∨ text.isEmpty then result else result.dropLast
      if found.has 'i' then
        let change := fun operand => do
          match ← content operand with
          | .error e =>
            complain "sed" ("can't read " ++ Text.widen operand ++ ": " ++ e.words)
            return false
          | .ok bytes =>
            let new := Text.ofOctets (edit (Text.octets bytes))
            return (← Task.save (Text.widen operand) .output new).toBool
        return statusOf (← Task.forAll change operands)
      else
        let (text, fine) ← input "sed" operands
        put (edit text)
        return if fine then 0 else 2

end Conformance.Tool
