import Conformance.Tool.Basic
import Conformance.Text.Echo

/-!
# Formatted printing

A format is text with conversions in it. Each conversion takes the next argument and says how it is
shown; the format is used again as long as arguments are left. Numbers have 64 bits.
-/

namespace Conformance.Tool.Printf

/-- What a conversion makes of its argument. -/
inductive Kind where
  | text
  | escaped
  | character
  | signed
  | unsigned
  | octal
  | lowerHex
  | upperHex
deriving DecidableEq, Repr

/-- A width or precision: given in the format, or by an argument. -/
inductive Measure where
  | fixed (n : Nat)
  | argument
deriving DecidableEq, Repr

/-- A conversion. -/
structure Conversion where
  flags : Chars
  width : Option Measure
  precision : Option Measure
  kind : Kind
deriving DecidableEq, Repr

/-- A part of a format. -/
inductive Part where
  | plain (c : Char)
  | conversion (what : Conversion)
deriving DecidableEq, Repr

/-- The kind that a letter stands for. -/
def kind? : Char → Option Kind
  | 's' => some .text
  | 'b' => some .escaped
  | 'c' => some .character
  | 'd' | 'i' => some .signed
  | 'u' => some .unsigned
  | 'o' => some .octal
  | 'x' => some .lowerHex
  | 'X' => some .upperHex
  | _ => none

/-- A width or precision at the beginning of a text. -/
def measure : Chars → Option Measure × Chars
  | '*' :: rest => (some .argument, rest)
  | text =>
    let digits := text.takeWhile Char.isDigit
    ((number? digits).map .fixed, text.drop digits.length)

/-- A conversion, behind its percent sign. -/
def conversion? (text : Chars) : Option (Conversion × Chars) :=
  let isFlag := fun (c : Char) => "#-+ 0".toList.contains c
  let flags := text.takeWhile isFlag
  let (width, rest) := measure (text.dropWhile isFlag)
  let (precision, rest) :=
    match rest with
    | '.' :: rest =>
      let (found, rest) := measure rest
      (some (found.getD (.fixed 0)), rest)
    | rest => (none, rest)
  match rest with
  | c :: rest => (kind? c).map fun kind => (⟨flags, width, precision, kind⟩, rest)
  | [] => none

/-- The parts of a format up to its end or to a conversion that cannot be read, and whether it could be
    read to its end. The bound is the number of characters. -/
def parts : Nat → Chars → List Part × Bool
  | 0, _ => ([], true)
  | _, [] => ([], true)
  | bound + 1, '%' :: '%' :: rest =>
    let (found, whole) := parts bound rest
    (.plain '%' :: found, whole)
  | bound + 1, '%' :: rest =>
    match conversion? rest with
    | none => ([], false)
    | some (what, rest) =>
      let (found, whole) := parts bound rest
      (.conversion what :: found, whole)
  | bound + 1, '\\' :: rest =>
    let (c, rest) := Text.escape rest
    let (found, whole) := parts bound rest
    (.plain c :: found, whole)
  | bound + 1, c :: rest =>
    let (found, whole) := parts bound rest
    (.plain c :: found, whole)

/-! ## Numbers -/

/-- The value of a digit in any base up to sixteen. -/
def digitIn (base : Nat) (c : Char) : Option Nat :=
  (Text.hexValue? c).filter (· < base)

/-- The number at the beginning of a text, and whether the text is nothing but a number. -/
def natural (text : Chars) : Nat × Bool :=
  let run := fun (base : Nat) (digits : Chars) =>
    let taken := digits.takeWhile fun c => (digitIn base c).isSome
    ((Text.numeral? (digitIn base) base 0 taken).getD 0, taken.length == digits.length, taken.length)
  match text with
  | '0' :: 'x' :: rest | '0' :: 'X' :: rest =>
    let (value, whole, count) := run 16 rest
    (value, whole && 0 < count)
  | '0' :: rest =>
    let (value, whole, _) := run 8 rest
    (value, whole)
  | text =>
    let (value, whole, count) := run 10 text
    (value, whole && 0 < count)

/-- Why an argument is not the number that it is taken for. -/
inductive Misfit where
  | expected
  | incomplete
  | outOfRange
deriving DecidableEq, Repr

/-- What is said about an argument that is not the number that it is taken for. -/
def Misfit.message (arg : Chars) (misfit : Misfit) : String :=
  Text.widen arg ++
    match misfit with
    | expected => ": expected numeric value"
    | incomplete => ": not completely converted"
    | outOfRange => ": Numerical result out of range"

/-- A number with its sign brought into 64 bits, of which one is for a sign or none is. -/
def clamped (signed negative : Bool) (n : Nat) : Int × Option Misfit :=
  let limit := if !signed then UInt64.size - 1 else if negative then Nat.pow 2 63 else Nat.pow 2 63 - 1
  if n ≤ limit then (if negative then -Int.ofNat n else Int.ofNat n, none)
  else (if negative ∧ signed then -Int.ofNat limit else Int.ofNat limit, some .outOfRange)

/-- Whether an argument begins like a number. -/
def startsNumber (arg : Chars) : Bool :=
  let body := arg.dropWhile fun c => c = ' ' || c = '\t' || c = '\n' || c = '-' || c = '+'
  (body.head?.map Char.isDigit).getD false

/-- The number that an argument stands for, and why it is none if it is not. A quote stands for the
    character behind it, and an empty argument for zero. -/
def number (signed : Bool) (arg : Chars) : Int × Option Misfit :=
  match arg with
  | [] => (0, none)
  | '"' :: rest | '\'' :: rest => (Int.ofNat ((rest.head?.map Char.toNat).getD 0), none)
  | _ =>
    let body := arg.dropWhile fun c => c = ' ' || c = '\t' || c = '\n'
    let (negative, digits) :=
      match body with
      | '-' :: rest => (true, rest)
      | '+' :: rest => (false, rest)
      | rest => (false, rest)
    let (n, whole) := natural digits
    let (value, misfit) := clamped signed negative n
    (value, if whole then misfit else some (if startsNumber arg then .incomplete else .expected))

/-- Text brought to a width: on the left or right side of blanks. -/
def padded (left : Bool) (width : Nat) (text : Chars) : Chars :=
  let blanks := List.replicate (width - text.length) ' '
  if left then text ++ blanks else blanks ++ text

/-- Digits with a sign or mark in front, brought to a width. Zeros fill it up only if no precision is
    given. -/
def paddedNumber (flags : Chars) (width : Nat) (precision : Option Nat) (mark digits : Chars) : Chars :=
  let digits := List.replicate (precision.getD 1 - digits.length) '0' ++ digits
  let zeros :=
    if flags.contains '0' ∧ !flags.contains '-' ∧ precision.isNone then
      List.replicate (width - mark.length - digits.length) '0'
    else []
  padded (flags.contains '-') width (mark ++ zeros ++ digits)

/-- The digits of a number; zero has none, as the least number of digits is one. -/
def digits (base n : Nat) : Chars := if n = 0 then [] else Nat.toDigits base n

/-- A number shown as a conversion says. -/
def shownNumber (what : Conversion) (width : Nat) (precision : Option Nat) (n : Int) : Chars :=
  let pad := paddedNumber what.flags width precision
  let bits := (n % UInt64.size).toNat
  let marked := fun (mark : Chars) => if what.flags.contains '#' ∧ bits ≠ 0 then mark else []
  match what.kind with
  | .signed =>
    let mark := if n < 0 then ['-'] else if what.flags.contains '+' then ['+']
      else if what.flags.contains ' ' then [' '] else []
    pad mark (digits 10 n.natAbs)
  | .octal => pad [] (marked ['0'] ++ digits 8 bits)
  | .lowerHex => pad (marked ['0', 'x']) (digits 16 bits)
  | .upperHex => pad (marked ['0', 'X']) ((digits 16 bits).map Char.toUpper)
  | _ => pad [] (digits 10 bits)

/-! ## Printing -/

/-- What was printed so far, last first, the arguments that are left, what was wrong with them, last
    first, and whether an argument ended the output. -/
structure Progress where
  printed : List Chars
  args : List Chars
  problems : List String
  ended : Bool
deriving DecidableEq, Repr

/-- Take the next argument. -/
def Progress.next (progress : Progress) : Option Chars × Progress :=
  match progress.args with
  | [] => (none, progress)
  | arg :: rest => (some arg, { progress with args := rest })

/-- The number that the next argument stands for; zero if none is left. -/
def Progress.nextNumber (progress : Progress) (signed : Bool) : Int × Progress :=
  match progress.next with
  | (none, progress) => (0, progress)
  | (some arg, progress) =>
    let (n, misfit) := number signed arg
    (n, { progress with problems := (misfit.map (Misfit.message arg)).toList ++ progress.problems })

/-- A width or precision as a number. -/
def Progress.measured (progress : Progress) : Option Measure → Option Int × Progress
  | none => (none, progress)
  | some (.fixed n) => (some (Int.ofNat n), progress)
  | some .argument =>
    let (n, progress) := progress.nextNumber true
    (some n, progress)

/-- Print text. -/
def Progress.print (progress : Progress) (text : Chars) : Progress :=
  { progress with printed := text :: progress.printed }

/-- Carry out a conversion. -/
def Progress.convert (progress : Progress) (what : Conversion) : Progress :=
  let (width, progress) := progress.measured what.width
  let (precision, progress) := progress.measured what.precision
  let width := width.getD 0
  let what := if width < 0 then { what with flags := '-' :: what.flags } else what
  let width := width.natAbs
  let precision := (precision.filter (0 ≤ ·)).map Int.toNat
  let left := what.flags.contains '-'
  let cut := fun (text : Chars) => (precision.map text.take).getD text
  match what.kind with
  | .text =>
    let (arg, progress) := progress.next
    progress.print (padded left width (cut (arg.getD [])))
  | .escaped =>
    let (arg, progress) := progress.next
    let arg := arg.getD []
    let (text, ended) := Text.echoArgument arg.length arg
    { progress.print (padded left width (cut text)) with ended := ended }
  | .character =>
    let (arg, progress) := progress.next
    let c := ((arg.getD []).head?).getD '\x00'
    progress.print (padded left width [c])
  | _ =>
    let (n, progress) := progress.nextNumber (what.kind == .signed)
    progress.print (shownNumber what width precision n)

/-- Carry out the parts of a format, until an argument ends the output. -/
def Progress.carryOut (progress : Progress) : List Part → Progress
  | [] => progress
  | part :: rest =>
    if progress.ended then progress
    else
      match part with
      | .plain c => (progress.print [c]).carryOut rest
      | .conversion what => (progress.convert what).carryOut rest

/-- Carry out a format again and again, as long as it takes arguments and some are left. -/
def Progress.repeated (found : List Part) : Nat → Progress → Progress
  | 0, progress => progress
  | rounds + 1, progress =>
    let next := progress.carryOut found
    if next.ended ∨ next.args.isEmpty ∨ next.args.length = progress.args.length then next
    else next.repeated found rounds

/-- What a format prints for arguments, the status, and what is wrong. -/
def run (format : Chars) (args : List Chars) : Chars × Nat × List String :=
  let (found, whole) := parts format.length format
  let start : Progress := ⟨[], args, [], false⟩
  let final := if whole then start.repeated found (args.length + 1) else start.carryOut found
  let printed := final.printed.reverse.flatten
  if whole ∨ final.ended then
    (printed, (if final.problems.isEmpty then 0 else 1), final.problems.reverse)
  else (printed, 2, final.problems.reverse ++ ["invalid directive"])

end Printf

/-- Print arguments as a format says, and judge them. -/
def judgePrintf : Judgement := fun args =>
  match args with
  | ['-', '-'] :: format :: args => print format args
  | format :: args => print format args
  | [] => return (2, ["usage: printf format [arg ...]"])
where
  /-- Print what a format makes of arguments. -/
  print (format : Chars) (args : List Chars) : Task (Nat × List String) := do
    let (text, status, problems) := Printf.run format args
    if !text.isEmpty then put text
    return (status, problems)

/-- Prints arguments as a format says. -/
def printf : Tool := judging "printf" judgePrintf

end Conformance.Tool
