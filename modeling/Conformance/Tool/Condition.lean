import Conformance.Tool.Basic

/-!
# Conditions

The conditions of `test`: what is known of texts, numbers and files, joined by words. The arguments are
read into a tree, which then is evaluated. A text that is no number where one is needed is an error,
which is neither true nor false.
-/

namespace Conformance.Tool

/-- How two numbers are compared. -/
inductive Comparison where
  | equal
  | unequal
  | less
  | lessOrEqual
  | greater
  | greaterOrEqual
deriving DecidableEq, Repr

/-- Whether two numbers compare in a way. -/
def Comparison.holds : Comparison → Int → Int → Bool
  | equal, a, b => a = b
  | unequal, a, b => a ≠ b
  | less, a, b => a < b
  | lessOrEqual, a, b => a ≤ b
  | greater, a, b => b < a
  | greaterOrEqual, a, b => b ≤ a

/-- What is asked of a path. -/
inductive FileQuestion where
  | present
  | regular
  | directory
  | pipe
  | device
  | filled
  | executable
  | readable
  | never
deriving DecidableEq, Repr

/-- The answer to a question about what stands at a path. -/
def FileQuestion.holds (question : FileQuestion) (info : FileInfo) : Bool :=
  match question with
  | present => true
  | regular => info.kind = .file
  | directory => info.kind = .directory
  | pipe => info.kind = .pipe
  | device => info.kind = .device
  | filled => 0 < info.size
  | executable => info.executable
  | readable => info.readable
  | never => false

/-- A condition. -/
inductive Condition where
  | nonempty (text : Chars)
  | empty (text : Chars)
  | same (a b : Chars)
  | different (a b : Chars)
  | before (a b : Chars)
  | compare (how : Comparison) (a b : Chars)
  | file (question : FileQuestion) (path : Chars)
  | negation (condition : Condition)
  | both (a b : Condition)
  | either (a b : Condition)
deriving DecidableEq, Repr

namespace Condition

/-! ## Reading -/

/-- The condition that a word in front of an operand stands for. -/
def unary? (word : Chars) : Option (Chars → Condition) :=
  match word with
  | ['-', letter] =>
    match letter with
    | 'n' => some nonempty
    | 'z' => some empty
    | 'e' | 'w' => some (file .present)
    | 'r' => some (file .readable)
    | 'f' => some (file .regular)
    | 'd' => some (file .directory)
    | 'p' => some (file .pipe)
    | 'c' => some (file .device)
    | 's' => some (file .filled)
    | 'x' => some (file .executable)
    | 'b' | 'g' | 'h' | 'k' | 'L' | 'S' | 'u' => some (file .never)
    | 'O' | 'G' => some (file .present)
    | 't' => some fun _ => negation (nonempty ['t'])
    | _ => none
  | _ => none

/-- The condition that a word between operands stands for. -/
def binary? (word : Chars) : Option (Chars → Chars → Condition) :=
  match String.ofList word with
  | "=" => some same
  | "!=" => some different
  | "<" => some before
  | ">" => some fun a b => before b a
  | "-eq" => some (compare .equal)
  | "-ne" => some (compare .unequal)
  | "-lt" => some (compare .less)
  | "-le" => some (compare .lessOrEqual)
  | "-gt" => some (compare .greater)
  | "-ge" => some (compare .greaterOrEqual)
  | "-nt" | "-ot" => some fun _ _ => negation (nonempty ['t'])
  | "-ef" => some fun a b => both (file .present a) (same a b)
  | _ => none

/-- Whether the first of some words is an operand although it looks like a word in front of one: nothing
    follows it, or a word between operands does. -/
def isOperand : List Chars → Bool
  | [_] => true
  | [_, _] => false
  | _ :: word :: _ => (binary? word).isSome
  | [] => false

/-- A reader of conditions. -/
abbrev Reader := List Chars → Option (Condition × List Chars)

/-- An operand alone, or with a word between it and another one. -/
def comparison : Reader
  | a :: word :: rest =>
    match binary? word with
    | some build =>
      match rest with
      | b :: rest => some (build a b, rest)
      | [] => none
    | none => some (nonempty a, word :: rest)
  | [a] => some (nonempty a, [])
  | [] => none

/-- A condition that is not joined by words: negated, in parentheses, about one operand or about two. -/
def primary (whole : Reader) : Nat → Reader
  | 0, _ => none
  | bound + 1, args =>
    match args with
    | [] => none
    | ['!'] :: rest =>
      if isOperand args then comparison args
      else (primary whole bound rest).map fun (c, rest) => (negation c, rest)
    | ['('] :: rest =>
      if rest.isEmpty then comparison args
      else
        match whole rest with
        | some (c, [')'] :: rest) => some (c, rest)
        | _ => none
    | word :: rest =>
      match unary? word, rest with
      | some build, a :: left => if isOperand args then comparison args else some (build a, left)
      | _, _ => comparison args

/-- Conditions joined by a word. -/
def joined (next : Reader) (word : Chars) (join : Condition → Condition → Condition) : Nat → Reader
  | 0, _ => none
  | bound + 1, args =>
    match next args with
    | none => none
    | some (first, rest) =>
      if rest.head? = some word then
        (joined next word join bound rest.tail).map fun (second, rest) => (join first second, rest)
      else some (first, rest)

/-- A whole condition, nested no deeper than a bound. -/
def whole : Nat → Reader
  | 0, _ => none
  | depth + 1, args =>
    let bound := args.length + 1
    joined (joined (primary (whole depth) bound) "-a".toList both bound) "-o".toList either bound args

/-- The condition that arguments stand for, or what is wrong with them. No argument is false, and few
    arguments are read by their number. -/
def read (args : List Chars) : Except String Condition :=
  let near := fun (index : Nat) => Text.widen ((args[index]?).getD [])
  let general :=
    match whole (args.length + 1) args with
    | some (found, []) => .ok found
    | some (_, left) => .error (near (args.length - left.length - 1) ++ ": unexpected operator")
    | none => .error (near (args.length - 1) ++ ": argument expected")
  match args with
  | [] => .ok (nonempty [])
  | [a] => .ok (nonempty a)
  | [a, word, b] =>
    match binary? word with
    | some build => .ok (build a b)
    | none => if a = ['('] ∧ b = [')'] then .ok (nonempty word) else general
  | _ => general

/-! ## Evaluating -/

/-- The number that an operand stands for: digits with a sign, and blanks around them. -/
def number? (text : Chars) : Option Int :=
  let isBlank := fun (c : Char) => c = ' ' || ('\t' ≤ c && c ≤ '\r')
  let core := ((text.dropWhile isBlank).reverse.dropWhile isBlank).reverse
  match core with
  | '-' :: digits => (Text.digits? digits).map fun n => -Int.ofNat n
  | '+' :: digits => (Text.digits? digits).map Int.ofNat
  | digits => (Text.digits? digits).map Int.ofNat

/-- Whether a condition holds. The error is the text that is no number. -/
def evaluate : Condition → Task (Except Chars Bool)
  | nonempty text => return .ok !text.isEmpty
  | empty text => return .ok text.isEmpty
  | same a b => return .ok (a = b)
  | different a b => return .ok (a ≠ b)
  | before a b => return .ok (a < b)
  | compare how a b =>
    match number? a, number? b with
    | none, _ => return .error a
    | _, none => return .error b
    | some m, some n => return .ok (how.holds m n)
  | file question path => do
    match ← Task.inspect (Text.widen path) with
    | .error _ => return .ok false
    | .ok info => return .ok (question.holds info)
  | negation condition => do return (← evaluate condition).map not
  | both a b => do
    match ← evaluate a with
    | .ok true => evaluate b
    | outcome => return outcome
  | either a b => do
    match ← evaluate a with
    | .ok false => evaluate b
    | outcome => return outcome

end Condition

/-- Judge a condition: status 0 if it holds, 1 if not, and 2 if it is none. -/
def judgeCondition : Judgement := fun args => do
  match Condition.read args with
  | .error problem => return (2, [problem])
  | .ok condition =>
    match ← condition.evaluate with
    | .ok true => return (0, [])
    | .ok false => return (1, [])
    | .error text => return (2, ["Illegal number: " ++ Text.widen text])

/-- Judge a condition that ends in a bracket. -/
def judgeBracket : Judgement := fun args =>
  if args.getLast? = some [']'] then judgeCondition args.dropLast else return (2, ["missing ]"])

/-- Tells whether a condition holds. -/
def test : Tool := judging "test" judgeCondition

/-- Tells whether a condition between brackets holds. -/
def bracket : Tool := judging "[" judgeBracket

end Conformance.Tool
