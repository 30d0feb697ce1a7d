import Conformance.Text.Echo
import Conformance.Tool.Basic

/-!
# Simple tools

Tools that print their arguments or something computed from them, wait for a time, send signals, or
start other programs.
-/

namespace Conformance.Tool

/-- Succeeds. -/
def succeed : Tool := fun _ => return 0

/-- Fails. -/
def fail : Tool := fun _ => return 1

/-- Prints its arguments. -/
def echo : Tool := fun args => do
  put (Text.echo args)
  return 0

/-- Prints its arguments as they are; a backslash means nothing unless `-e` says so. -/
def plainEcho : Tool := fun args =>
  match args with
  | ['-', 'n'] :: rest => do put (List.intercalate [' '] rest); return 0
  | ['-', 'e'] :: rest => do put (Text.echo rest); return 0
  | args => do put (List.intercalate [' '] args ++ ['\n']); return 0

/-- Prints the directory in which it runs. -/
def pwd : Tool := fun _ => do
  putText ((← Task.whereAmI) ++ "\n")
  return 0

/-- Prints a line again and again. -/
def yes : Tool := fun args => do
  let line := (if args.isEmpty then ['y'] else List.intercalate [' '] args) ++ ['\n']
  again (List.replicate 1024 line).flatten lifetime
where
  /-- Print a text so many times. -/
  again (text : Chars) : Nat → Task Nat
    | 0 => return 0
    | rounds + 1 => do put text; again text rounds

/-! ## Paths -/

/-- Prints the last name of a path, without an ending if one is given. -/
def basename : Tool := fun args => do
  match args with
  | [] => complain "basename" "missing operand"; return 1
  | path :: rest =>
    let plain := Text.widen path
    let name := Text.narrow (Task.lastName plain)
    let name := if name.isEmpty ∧ !path.isEmpty then ['/'] else name
    let ending := rest.head?.getD []
    let kept :=
      if ending.isSuffixOf name ∧ ending ≠ name then name.take (name.length - ending.length) else name
    put (kept ++ ['\n'])
    return 0

/-- The directory part of a path. -/
def directoryOf (path : Chars) : Chars :=
  let stripped := (path.reverse.dropWhile (· = '/')).reverse
  if stripped.isEmpty then (if path.isEmpty then ['.'] else ['/'])
  else if !stripped.contains '/' then ['.']
  else
    let front := ((stripped.reverse.dropWhile (· ≠ '/')).dropWhile (· = '/')).reverse
    if front.isEmpty then ['/'] else front

/-- Prints the directory parts of paths. -/
def dirname : Tool := fun args => do
  if args.isEmpty then
    complain "dirname" "missing operand"
    return 1
  put (ofLines (args.map directoryOf))
  return 0

/-! ## Numbers -/

/-- A whole number with a sign. -/
def integer? (text : Chars) : Option Int :=
  match text with
  | '-' :: digits => (number? digits).map fun n => -Int.ofNat n
  | '+' :: digits => (number? digits).map Int.ofNat
  | digits => (number? digits).map Int.ofNat

/-- A whole number as text. -/
def integerText (n : Int) : Chars :=
  if n < 0 then '-' :: Nat.toDigits 10 n.natAbs else Nat.toDigits 10 n.natAbs

/-- The numbers from one to another in steps. -/
def progression (first step last : Int) : List Int :=
  let count :=
    if 0 < step then (last - first) / step + 1
    else if step < 0 then (first - last) / (-step) + 1
    else 0
  (List.range count.toNat).map fun n => first + step * Int.ofNat n

/-- Prints numbers in steps, separated by line feeds or by the text that an option gives. -/
def seq : Tool := fun args => do
  let (separator, operands) :=
    match args with
    | ['-', 's'] :: separator :: rest => (separator, rest)
    | rest => (['\n'], rest)
  let bounds :=
    match operands.map integer? with
    | [some last] => some (1, 1, last)
    | [some first, some last] => some (first, 1, last)
    | [some first, some step, some last] => some (first, step, last)
    | _ => none
  match bounds with
  | none => complain "seq" "invalid argument"; return 1
  | some (first, step, last) =>
    let numbers := (progression first step last).map integerText
    if !numbers.isEmpty then put (List.intercalate separator numbers ++ ['\n'])
    return 0

/-- The microseconds that a time stands for: a decimal number of seconds, or of another unit that a
    letter behind it names. -/
def micros? (text : Chars) : Option Nat :=
  let (digits, factor) :=
    match text.getLast? with
    | some 's' => (text.dropLast, 1)
    | some 'm' => (text.dropLast, 60)
    | some 'h' => (text.dropLast, 3600)
    | some 'd' => (text.dropLast, 86400)
    | _ => (text, 1)
  let whole := digits.takeWhile Char.isDigit
  let rest := digits.drop whole.length
  let scaled := fun (fraction : Chars) =>
    let six := (fraction ++ List.replicate 6 '0').take 6
    (number? ((if whole.isEmpty then ['0'] else whole) ++ six)).map (· * factor)
  match rest with
  | [] => if whole.isEmpty then none else scaled []
  | '.' :: fraction =>
    if (whole.isEmpty ∧ fraction.isEmpty) ∨ !fraction.all Char.isDigit then none else scaled fraction
  | _ => none

/-- Waits for a time. -/
def sleep : Tool := fun args => do
  match args, args.mapM micros? with
  | [], _ => complain "sleep" "missing operand"; return 1
  | _, none => complain "sleep" "invalid time interval"; return 1
  | _, some times => Task.sleep (times.foldr (· + ·) 0); return 0

/-- The value of an operator of `expr`. -/
def computed (a operator b : Chars) : Option Chars :=
  let truth := fun (holds : Bool) => some (if holds then ['1'] else ['0'])
  match integer? a, integer? b, String.ofList operator with
  | some m, some n, "+" => some (integerText (m + n))
  | some m, some n, "-" => some (integerText (m - n))
  | some m, some n, "*" => some (integerText (m * n))
  | some m, some n, "/" => if n = 0 then none else some (integerText (Int.tdiv m n))
  | some m, some n, "%" => if n = 0 then none else some (integerText (Int.tmod m n))
  | some m, some n, "=" => truth (m = n)
  | some m, some n, "!=" => truth (m ≠ n)
  | some m, some n, "<" => truth (m < n)
  | some m, some n, "<=" => truth (m ≤ n)
  | some m, some n, ">" => truth (n < m)
  | some m, some n, ">=" => truth (n ≤ m)
  | _, _, "=" => truth (a = b)
  | _, _, "!=" => truth (a ≠ b)
  | _, _, "<" => truth (a < b)
  | _, _, ">" => truth (b < a)
  | _, _, _ => none

/-- The operators of `expr` by rank, those that bind least first. -/
def operatorRanks : List (List String) :=
  [["=", "!=", "<", "<=", ">", ">="], ["+", "-"], ["*", "/", "%"]]

/-- The value of operands joined by operators, from the left. -/
def chained (next : List Chars → Option (Chars × List Chars)) (operators : List String) :
    Nat → Chars → List Chars → Option (Chars × List Chars)
  | 0, value, args => some (value, args)
  | bound + 1, value, args =>
    match args with
    | operator :: rest =>
      if operators.contains (String.ofList operator) then do
        let (other, rest) ← next rest
        chained next operators bound (← computed value operator other) rest
      else some (value, args)
    | [] => some (value, args)

/-- The value of the arguments of `expr`, by the ranks of its operators. -/
def ranked : List (List String) → List Chars → Option (Chars × List Chars)
  | _, [] => none
  | [], arg :: rest => some (arg, rest)
  | operators :: higher, args => do
    let (value, rest) ← ranked higher args
    chained (ranked higher) operators (rest.length + 1) value rest

/-- Prints the value of an expression. -/
def expr : Tool := fun args => do
  match ranked operatorRanks args with
  | some (value, []) =>
    put (value ++ ['\n'])
    return statusOf (!value.isEmpty && value ≠ ['0'])
  | _ => complain "expr" "syntax error"; return 2

/-! ## Signals -/

/-- The signals that have names, with their numbers. -/
def signals : List (String × Nat) :=
  [("EXIT", 0), ("HUP", 1), ("INT", 2), ("QUIT", 3), ("ILL", 4), ("TRAP", 5), ("ABRT", 6),
    ("BUS", 7), ("FPE", 8), ("KILL", 9), ("USR1", 10), ("SEGV", 11), ("USR2", 12), ("PIPE", 13),
    ("ALRM", 14), ("TERM", 15), ("STKFLT", 16), ("CHLD", 17), ("CONT", 18), ("STOP", 19),
    ("TSTP", 20), ("TTIN", 21), ("TTOU", 22), ("URG", 23), ("XCPU", 24), ("XFSZ", 25),
    ("VTALRM", 26), ("PROF", 27), ("WINCH", 28), ("IO", 29), ("PWR", 30), ("SYS", 31)]

/-- The number of a signal that is given by number or name. -/
def signal? (text : Chars) : Option Nat :=
  match number? text with
  | some n => some n
  | none =>
    let name := String.ofList (text.map Char.toUpper)
    (signals.find? fun signal => signal.1 = name ∨ "SIG" ++ signal.1 = name).map (·.2)

/-- Send a signal to processes, and tell what went wrong. -/
def sendTo (number : Nat) : List Chars → Task (Nat × List String)
  | [] => return (0, [])
  | process :: rest => do
    match number? process with
    | none => return (2, ["Illegal number: " ++ Text.widen process])
    | some n =>
      match ← Task.signal n number with
      | .ok () => sendTo number rest
      | .error e =>
        let (status, problems) ← sendTo number rest
        return (max 1 status, (e.words ++ "\n") :: problems)

/-- Send a signal to processes, as arguments say, and judge them. -/
def judgeKill : Judgement := fun args =>
  let sending := fun (signal : Chars) (processes : List Chars) =>
    if processes.isEmpty then return (2, ["usage: kill [-s signal | -signal] process ..."])
    else match signal? signal with
      | some number => sendTo number processes
      | none => return (2, ["invalid signal number or name: " ++ Text.widen signal])
  let usual := "TERM".toList
  match args with
  | ['-', 's'] :: signal :: rest | ['-', 'n'] :: signal :: rest => sending signal rest
  | ['-', '-'] :: rest => sending usual rest
  | ('-' :: signal) :: ['-', '-'] :: rest => sending signal rest
  | ('-' :: signal) :: rest => sending signal rest
  | rest => sending usual rest

/-- Sends a signal to processes. -/
def kill : Tool := judging "kill" judgeKill

/-! ## Other programs -/

/-- A variable and its value, if a text sets one. -/
def setting? (text : Chars) : Option (String × String) :=
  if text.contains '=' then
    some (Text.widen (text.takeWhile (· ≠ '=')), Text.widen ((text.dropWhile (· ≠ '=')).drop 1))
  else none

/-- The status in which a shell or tool ends that cannot start a program. -/
def refusalStatus (error : OsError) : Nat := if error = .notFound then 127 else 126

/-- Starts a program with other variables, or prints the variables. -/
def env (args : List String) (environment : Environment) : Program :=
  let args := args.map Text.narrow
  let (base, args) :=
    match args with
    | ['-', 'i'] :: rest => (([] : Environment), rest)
    | rest => (environment, rest)
  let settings := (args.takeWhile fun arg => (setting? arg).isSome).filterMap setting?
  let all := base.filter (fun old => settings.all fun new => new.1 ≠ old.1) ++ settings
  match args.dropWhile fun arg => (setting? arg).isSome with
  | [] =>
    (do putText (String.join (all.map fun (name, value) => name ++ "=" ++ value ++ "\n"))
        return 0 : Task Nat) Program.exit
  | program :: rest =>
    (do let error ← Task.become (Text.widen program) (rest.map Text.widen) all
        complain "env" ("'" ++ Text.widen program ++ "': " ++ error.words)
        return refusalStatus error : Task Nat) Program.exit

/-- Become a program that is named by arguments. -/
def becomeNamed (tool : String) (args : List String) (environment : Environment) : Program :=
  match args with
  | [] => (do complain tool "missing operand"; return 125 : Task Nat) Program.exit
  | program :: rest =>
    (do let error ← Task.become program rest environment
        complain tool ("failed to run command '" ++ program ++ "': " ++ error.words)
        return refusalStatus error : Task Nat) Program.exit

/-- The status in which `timeout` ends that had to end its program. -/
def lateStatus : Nat := 124

/-- Runs a program, but no longer than a time. -/
def timeout (args : List String) (environment : Environment) : Program :=
  match args with
  | time :: command =>
    match micros? (Text.narrow time) with
    | none => (do complain "timeout" "invalid time interval"; return 125 : Task Nat) Program.exit
    | some micros =>
      (do let child ← Task.fork (becomeNamed "timeout" command environment)
          let timer ← Task.fork <|
            (do Task.sleep micros
                return if (← Task.signal child 15).toBool then lateStatus else 0 : Task Nat)
              Program.exit
          let ended ← Task.await (some child)
          let _ ← Task.signal timer 9
          match ← Task.await (some timer), ended with
          | some (_, .exited 124), _ => return lateStatus
          | _, some (_, .exited code) => return code
          | _, some (_, .signalled signal) => return 128 + signal
          | _, none => return lateStatus : Task Nat) Program.exit
  | [] => becomeNamed "timeout" [] environment

/-! ## Blocks -/

/-- The value of an operand like `name=value`. -/
def named? (name : String) (args : List Chars) : Option Chars :=
  args.findSome? fun arg =>
    if (name ++ "=").toList.isPrefixOf arg then some (arg.drop (name.length + 1)) else none

/-- A size, with a letter for its unit. -/
def size? (text : Chars) : Option Nat :=
  match text.getLast? with
  | some 'k' | some 'K' => (number? text.dropLast).map (· * 1024)
  | some 'M' => (number? text.dropLast).map (· * 1048576)
  | _ => number? text

/-- Read so many bytes, as far as there are any. -/
def readCount (descriptor : Nat) : Nat → Nat → Bytes → Task Bytes
  | 0, _, sofar => return sofar
  | rounds + 1, count, sofar => do
    if count = 0 then return sofar
    match ← Task.read descriptor count with
    | .error _ | .ok [] => return sofar
    | .ok bytes => readCount descriptor rounds (count - bytes.length) (sofar ++ bytes)

/-- Copies blocks of bytes. -/
def dd : Tool := fun args => do
  let size := ((named? "bs" args).bind size?).getD 512
  let skip := ((named? "skip" args).bind size?).getD 0
  let seek := ((named? "seek" args).bind size?).getD 0
  let count := (named? "count" args).bind size?
  let source ←
    match named? "if" args with
    | none => pure (.ok 0)
    | some path => Task.openFile (Text.widen path) .input
  match source with
  | .error e => complain "dd" ("failed to open: " ++ e.words); return 1
  | .ok descriptor =>
    let bytes ←
      match count with
      | some count =>
        let total := (skip + count) * size
        readCount descriptor (total + 1) total []
      | none => pure ((← Task.readAll descriptor).toOption.getD [])
    let bytes := bytes.drop (skip * size)
    match named? "of" args with
    | none => Task.print bytes; return 0
    | some path =>
      let target := Text.widen path
      let keeps := (named? "conv" args).any fun text => text.splitOn ',' |>.contains "notrunc".toList
      let old := (← Task.load target).toOption.getD []
      let front := old.take (seek * size) ++ List.replicate (seek * size - old.length) 0
      let behind := if keeps then old.drop (seek * size + bytes.length) else []
      return statusOf (← Task.save target .output (front ++ bytes ++ behind)).toBool

/-- Tells whether two files are the same. -/
def cmp : Tool := fun args =>
  withArguments "cmp" "sl" "" args fun found => do
    match found.operands with
    | [a, b] =>
      match ← content a, ← content b with
      | .ok x, .ok y =>
        if x = y then return 0
        let same := ((x.zip y).takeWhile fun (c, d) => c = d).length
        if !found.has 's' then
          if same = min x.length y.length then
            complain "cmp" ("EOF on " ++ Text.widen (if x.length < y.length then a else b))
          else
            putText (Text.widen a ++ " " ++ Text.widen b ++ " differ: byte " ++
              Text.decimal (same + 1) ++ ", line " ++
              Text.decimal ((x.take same).count 10 + 1) ++ "\n")
        return 1
      | _, _ => complain "cmp" OsError.notFound.words; return 2
    | _ => complain "cmp" "missing operand"; return 2

end Conformance.Tool
