import Conformance.Tool.Basic
import Conformance.Text.CharClass
import Conformance.Text.Echo

/-!
# Tools for text

Tools that read text, from files or from descriptor 0, and print something made of it. What each makes
of a text is a function of its own; the tools around them only read and print.
-/

namespace Conformance.Tool

/-! ## Passing on -/

/-- Print what comes from a descriptor, piece by piece. -/
def passOn (descriptor : Nat) : Nat → Task (Except OsError Unit)
  | 0 => return .ok ()
  | rounds + 1 => do
    match ← Task.read descriptor Task.readUnit with
    | .error e => return .error e
    | .ok [] => return .ok ()
    | .ok bytes => Task.print bytes; passOn descriptor rounds

/-- Print what stands at an operand. -/
def passOperand (operand : Chars) : Task Bool := do
  let name := Text.widen operand
  let outcome ←
    if operand = ['-'] then passOn 0 lifetime
    else
      match ← Task.openFile name .input with
      | .error e => pure (.error e)
      | .ok descriptor =>
        let outcome ← passOn descriptor lifetime
        Task.close descriptor
        pure outcome
  match outcome with
  | .ok () => return true
  | .error e => complain "cat" (name ++ ": " ++ e.words); return false

/-- Lines with their numbers in front. -/
def numbered (found : List Chars) : List Chars :=
  (found.zipIdx 1).map fun (line, n) =>
    let digits := Nat.toDigits 10 n
    List.replicate (6 - digits.length) ' ' ++ digits ++ '\t' :: line

/-- Prints files, one after the other. -/
def cat : Tool := fun args =>
  withArguments "cat" "nu" "" args fun found => do
    if found.has 'n' then
      let (text, fine) ← input "cat" found.operands
      put (ofLines (numbered (lines text)))
      return statusOf fine
    let operands := if found.operands.isEmpty then [['-']] else found.operands
    return statusOf (← Task.forAll passOperand operands)

/-- Pass on what comes from descriptor 0, to files too. -/
def copyOut (descriptors : List Nat) : Nat → Task Unit
  | 0 => return ()
  | rounds + 1 => do
    match ← Task.read 0 Task.readUnit with
    | .error _ | .ok [] => return ()
    | .ok bytes =>
      Task.print bytes
      Task.forEach (fun descriptor => do let _ ← Task.write descriptor bytes) descriptors
      copyOut descriptors rounds

/-- Open files for writing, those that can be. -/
def openAll (tool : String) (mode : OpenMode) : List Chars → Task (List Nat × Bool)
  | [] => return ([], true)
  | operand :: rest => do
    match ← Task.openFile (Text.widen operand) mode with
    | .ok descriptor =>
      let (more, fine) ← openAll tool mode rest
      return (descriptor :: more, fine)
    | .error e =>
      complain tool (Text.widen operand ++ ": " ++ e.words)
      let (more, _) ← openAll tool mode rest
      return (more, false)

/-- Prints descriptor 0 and writes it to files. -/
def tee : Tool := fun args =>
  withArguments "tee" "ai" "" args fun found => do
    let (descriptors, fine) ←
      openAll "tee" (if found.has 'a' then .append else .output) found.operands
    copyOut descriptors lifetime
    return statusOf fine

/-! ## Counting -/

/-- What is counted in a text. -/
structure Counts where
  lines : Nat
  words : Nat
  bytes : Nat
deriving DecidableEq, Repr

/-- Whether a character separates words. -/
def isSpace (c : Char) : Bool := c = ' ' || ('\t' ≤ c && c ≤ '\r')

/-- The counts of a text. -/
def Counts.of (text : Chars) : Counts where
  lines := text.count '\n'
  words := ((text.splitBy fun a b => isSpace a = isSpace b).filter fun run => run.any (!isSpace ·)).length
  bytes := text.length

/-- The counts that are asked for, in their order. -/
def Counts.chosen (found : Arguments) (counts : Counts) : List Nat :=
  let all := !(found.has 'l' || found.has 'w' || found.has 'c' || found.has 'm')
  (if all || found.has 'l' then [counts.lines] else []) ++
    (if all || found.has 'w' then [counts.words] else []) ++
    (if all || found.has 'c' || found.has 'm' then [counts.bytes] else [])

/-- Numbers on one line, each as wide as the widest may be, with a name behind them. -/
def countLine (width : Nat) (numbers : List Nat) (name : Chars) : Chars :=
  let shown := fun n =>
    let digits := Nat.toDigits 10 n
    List.replicate (width - digits.length) ' ' ++ digits
  List.intercalate [' '] (numbers.map shown) ++ (if name.isEmpty then [] else ' ' :: name)

/-- Counts lines, words and bytes. -/
def wc : Tool := fun args =>
  withArguments "wc" "lwcm" "" args fun found => do
    let named := !found.operands.isEmpty
    let (texts, fine) ← contents "wc" (if named then found.operands else [['-']])
    let counted := texts.map fun (name, bytes) =>
      ((if named then name else []), Counts.of (Text.octets bytes))
    let total : Counts :=
      ⟨(counted.map (·.2.lines)).foldr (· + ·) 0, (counted.map (·.2.words)).foldr (· + ·) 0,
        (counted.map (·.2.bytes)).foldr (· + ·) 0⟩
    let rows := if 1 < found.operands.length then counted ++ [("total".toList, total)] else counted
    let width :=
      if rows.length = 1 ∧ (total.chosen found).length = 1 then 1
      else if named then (Nat.toDigits 10 total.bytes).length
      else 7
    put (ofLines (rows.map fun (name, counts) => countLine width (counts.chosen found) name))
    return statusOf fine

/-! ## Ends of texts -/

/-- A count of lines or bytes, with a sign in front of it. -/
structure Amount where
  sign : Option Char
  count : Nat
deriving DecidableEq, Repr

/-- Read a count. -/
def amount? (text : Chars) : Option Amount :=
  let (sign, digits) :=
    match text with
    | '-' :: rest => (some '-', rest)
    | '+' :: rest => (some '+', rest)
    | rest => (none, rest)
  let (digits, factor) :=
    match digits.getLast? with
    | some 'k' | some 'K' => (digits.dropLast, 1024)
    | some 'b' => (digits.dropLast, 512)
    | some 'M' => (digits.dropLast, 1048576)
    | _ => (digits, 1)
  (number? digits).map fun n => ⟨sign, n * factor⟩

/-- The lines of a text, each with its feed, the last one as it is. -/
def fullLines (text : Chars) : List Chars :=
  let parts := text.splitOn '\n'
  let ended := (parts.dropLast).map (· ++ ['\n'])
  match parts.getLast? with
  | some [] | none => ended
  | some last => ended ++ [last]

/-- The beginning of a list: so many members, or all but so many. -/
def beginning {α : Type} (amount : Amount) (members : List α) : List α :=
  if amount.sign = some '-' then members.take (members.length - amount.count)
  else members.take amount.count

/-- The end of a list: so many members, or those from a number on. -/
def ending {α : Type} (amount : Amount) (members : List α) : List α :=
  if amount.sign = some '+' then members.drop (amount.count - 1)
  else members.drop (members.length - amount.count)

/-- Options like `-5` as options of lines. -/
def linesOption : List Chars → List Chars
  | ('-' :: c :: rest) :: args =>
    if c.isDigit then "-n".toList :: (c :: rest) :: args else ('-' :: c :: rest) :: args
  | args => args

/-- Read from a descriptor until enough is there or it ends. -/
def readUntil (descriptor : Nat) (enough : Bytes → Bool) : Nat → Bytes → Task (Except OsError Bytes)
  | 0, sofar => return .ok sofar
  | rounds + 1, sofar => do
    if enough sofar then return .ok sofar
    match ← Task.read descriptor Task.readUnit with
    | .error e => return .error e
    | .ok [] => return .ok sofar
    | .ok bytes => readUntil descriptor enough rounds (sofar ++ bytes)

/-- The part of a text that is printed: a number of bytes or lines from one of its ends. -/
structure Portion where
  fromEnd : Bool
  inBytes : Bool
  amount : Amount
deriving DecidableEq, Repr

/-- The portion of some parts. -/
def Portion.of {α : Type} (portion : Portion) (members : List α) : List α :=
  if portion.fromEnd then ending portion.amount members else beginning portion.amount members

/-- The portion of a text. -/
def Portion.ofText (portion : Portion) (text : Chars) : Chars :=
  if portion.inBytes then portion.of text else (portion.of (fullLines text)).flatten

/-- Whether a text holds all of the portion, whatever comes behind it. -/
def Portion.isThere (portion : Portion) (bytes : Bytes) : Bool :=
  !portion.fromEnd && portion.amount.sign.isNone &&
    decide (portion.amount.count ≤ (if portion.inBytes then bytes.length else bytes.count 10))

/-- The portion of what stands at an operand. No more is read than is needed. -/
def portionAt (portion : Portion) (operand : Chars) : Task (Except OsError Chars) := do
  let opened ←
    if operand = ['-'] then pure (.ok 0) else Task.openFile (Text.widen operand) .input
  match opened with
  | .error e => return .error e
  | .ok descriptor =>
    let outcome ← readUntil descriptor portion.isThere lifetime []
    if descriptor ≠ 0 then Task.close descriptor
    return outcome.map fun bytes => portion.ofText (Text.octets bytes)

/-- A heading above the portion of an operand, with an empty line above all but the first. -/
def heading (isFirst : Bool) (operand : Chars) : Chars :=
  let shown := if operand = ['-'] then "standard input".toList else operand
  (if isFirst then [] else ['\n']) ++ "==> ".toList ++ shown ++ " <==\n".toList

/-- Print portions of operands, and tell whether all could be read. -/
def showPortions (tool : String) (portion : Portion) (headed : Bool) : Bool → List Chars → Task Bool
  | _, [] => return true
  | isFirst, operand :: rest => do
    match ← portionAt portion operand with
    | .error e =>
      complain tool (Text.widen operand ++ ": " ++ e.words)
      let _ ← showPortions tool portion headed isFirst rest
      return false
    | .ok text =>
      put ((if headed then heading isFirst operand else []) ++ text)
      showPortions tool portion headed false rest

/-- Print a portion of each operand, under headings if there are more than one. -/
def portions (tool : String) (fromEnd : Bool) (args : List Chars) : Task Nat :=
  withArguments tool "qvfs" "nc" (linesOption args) fun found => do
    let inBytes := (found.value? 'c').isSome
    let given := (found.value? 'c').orElse fun _ => found.value? 'n'
    match amount? (given.getD "10".toList) with
    | none => complain tool "invalid number"; return 1
    | some amount =>
      let operands := if found.operands.isEmpty then [['-']] else found.operands
      let headed := (1 < operands.length && !found.has 'q') || found.has 'v'
      return statusOf (← showPortions tool ⟨fromEnd, inBytes, amount⟩ headed true operands)

/-- Prints the beginning of files. -/
def head : Tool := portions "head" false

/-- Prints the end of files. -/
def tail : Tool := portions "tail" true

/-! ## Exchanging -/

/-- The characters of a set, given its description: characters, ranges, escapes and classes. -/
def setOf : Nat → Chars → Chars
  | 0, _ => []
  | _, [] => []
  | bound + 1, text =>
    match Text.class? text with
    | some (ranges, left) => (ranges.map fun (a, b) => span a b).flatten ++ setOf bound left
    | none =>
      let (first, rest) := single text
      match rest with
      | '-' :: c :: left =>
        let (last, left) := single (c :: left)
        span first last ++ setOf bound left
      | rest => first :: setOf bound rest
where
  /-- The characters from one to another. -/
  span (a b : Char) : Chars :=
    (List.range (b.toNat + 1 - a.toNat)).map fun n => Char.ofNat (a.toNat + n)
  /-- The next character, which may be written as an escape. -/
  single : Chars → Char × Chars
    | '\\' :: c :: rest =>
      match (if c = 'e' then none else Text.controlLetter? c), Text.octalValue? c with
      | some control, _ => (control, rest)
      | none, some digit =>
        let (value, rest) := Text.octal digit 2 rest
        (Text.octalChar value, rest)
      | none, none => (c, rest)
    | c :: rest => (c, rest)
    | [] => ('\\', [])

/-- The characters of a set without ranges. -/
def plainSet : Nat → Chars → Chars
  | 0, _ => []
  | _, [] => []
  | bound + 1, text =>
    let (c, rest) := setOf.single text
    c :: plainSet bound rest

/-- A text with a run of one character out of a set cut down to one. -/
def squeezed (set : Char → Bool) : Option Char → Chars → Chars
  | _, [] => []
  | last, c :: rest =>
    if last = some c ∧ set c then squeezed set last rest else c :: squeezed set (some c) rest

/-- The character that another one is exchanged for: the one at the same position of the second set, or
    its last one. -/
def exchanged (isSource : Char → Bool) (complement : Bool) (source target : Chars) (c : Char) :
    Char :=
  if !isSource c then c
  else if complement then target.getLast?.getD c
  else (target[source.idxOf c]?).getD (target.getLast?.getD c)

/-- Exchanges, removes or squeezes characters of descriptor 0. -/
def tr : Tool := fun args =>
  withArguments "tr" "dscCt" "" args fun found => do
    let sets := found.operands.map fun set => setOf (set.length + 1) set
    let complement := found.has 'c' || found.has 'C'
    let isIn := fun (set : Chars) (c : Char) => set.contains c != complement
    let isTarget := fun (set : Chars) (c : Char) => set.contains c
    let (text, _) ← input "tr" []
    match sets, found.has 'd', found.has 's' with
    | [set], true, false => put (text.filter (!isIn set ·)); return 0
    | [set], false, true => put (squeezed (isIn set) none text); return 0
    | [set, other], true, true =>
      put (squeezed (isTarget other) none (text.filter (!isIn set ·)))
      return 0
    | [set, other], false, squeeze =>
      let changed := text.map (exchanged (isIn set) complement set other)
      put (if squeeze then squeezed (isTarget other) none changed else changed)
      return 0
    | _, _, _ => complain "tr" "missing operand"; return 1

/-! ## Lines -/

/-- The number at the beginning of a line, with its sign; zero if there is none. -/
def leadingNumber (line : Chars) : Int :=
  match line.dropWhile isSpace with
  | '-' :: rest => -Int.ofNat ((number? (rest.takeWhile Char.isDigit)).getD 0)
  | rest => Int.ofNat ((number? (rest.takeWhile Char.isDigit)).getD 0)

/-- The part of a line by which it is sorted: all of it, or the fields from one on up to another. -/
def sortKey (found : Arguments) (line : Chars) : Chars :=
  match found.value? 'k' with
  | none => line
  | some key =>
    let numbers := (key.splitOn ',').map fun part => (number? (part.takeWhile Char.isDigit)).getD 0
    let first := numbers.head?.getD 1
    let fields :=
      match (found.value? 't').bind List.head? with
      | some separator => line.splitOn separator
      | none =>
        (line.splitBy fun a b => !(isSpace b && !isSpace a)).filter fun field => !field.all isSpace
    let last := (numbers[1]?).getD fields.length
    (((fields.take last).drop (first - 1)).map (· ++ ['\t'])).flatten

/-- Whether a line stands in front of another one or is as good. -/
def before (found : Arguments) (a b : Chars) : Bool :=
  let fold := fun (line : Chars) => if found.has 'f' then line.map Char.toUpper else line
  let numeric := found.has 'n' || ((found.value? 'k').getD []).contains 'n'
  let x := sortKey found a
  let y := sortKey found b
  if numeric ∧ leadingNumber x ≠ leadingNumber y then leadingNumber x < leadingNumber y
  else if !numeric ∧ fold x ≠ fold y then decide (fold x < fold y)
  else !decide (b < a)

/-- Sorts lines. -/
def sort : Tool := fun args =>
  withArguments "sort" "rnufbs" "okt" args fun found => do
    let (text, fine) ← input "sort" found.operands
    let ordered := (lines text).mergeSort (before found)
    let reversed := found.has 'r' || ((found.value? 'k').getD []).contains 'r'
    let ordered := if reversed then ordered.reverse else ordered
    let kept := if found.has 'u' then ordered.eraseReps else ordered
    match found.value? 'o' with
    | some target =>
      let saved ← Task.save (Text.widen target) .output (Text.ofOctets (ofLines kept))
      return statusOf (fine && saved.toBool)
    | none => put (ofLines kept); return statusOf fine

/-- Prints one of each run of equal lines. -/
def uniq : Tool := fun args =>
  withArguments "uniq" "cdui" "" args fun found => do
    let (text, fine) ← input "uniq" (found.operands.take 1)
    let runs := (lines text).splitBy (· == ·)
    let chosen := runs.filter fun run =>
      (!found.has 'd' || 1 < run.length) && (!found.has 'u' || run.length = 1)
    let shown := fun (run : List Chars) =>
      let line := run.head?.getD []
      if found.has 'c' then
        let digits := Nat.toDigits 10 run.length
        List.replicate (7 - digits.length) ' ' ++ digits ++ ' ' :: line
      else line
    put (ofLines (chosen.map shown))
    return statusOf fine

/-- Whether a position belongs to a list of positions and ranges; the first is 1. -/
def isListed (list : Chars) (position : Nat) : Bool :=
  (list.splitOn ',').any fun item =>
    match item.splitOn '-' with
    | [only] => number? only = some position
    | [first, last] =>
      ((number? first).getD 1) ≤ position && (last.isEmpty || position ≤ (number? last).getD 0)
    | _ => false

/-- The members of a list whose positions are listed. -/
def listed {α : Type} (list : Chars) (members : List α) : List α :=
  ((members.zipIdx 1).filter fun (_, position) => isListed list position).map (·.1)

/-- Prints parts of lines. -/
def cut : Tool := fun args =>
  withArguments "cut" "s" "dfcb" args fun found => do
    let (text, fine) ← input "cut" found.operands
    let separator := ((found.value? 'd').bind List.head?).getD '\t'
    let part := fun (line : Chars) =>
      match (found.value? 'c').orElse fun _ => found.value? 'b', found.value? 'f' with
      | some list, _ => some (listed list line)
      | none, some list =>
        if line.contains separator then
          some (List.intercalate [separator] (listed list (line.splitOn separator)))
        else if found.has 's' then none
        else some line
      | none, none => some line
    put (ofLines ((lines text).filterMap part))
    return statusOf fine

/-- Prints lines from the last to the first. -/
def tac : Tool := fun args => do
  let (text, fine) ← input "tac" args
  put (fullLines text).reverse.flatten
  return statusOf fine

/-- Prints each line backwards. -/
def rev : Tool := fun args => do
  let (text, fine) ← input "rev" args
  put (ofLines ((lines text).map List.reverse))
  return statusOf fine

end Conformance.Tool
