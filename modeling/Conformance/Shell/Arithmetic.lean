import Conformance.Shell.Script
import Conformance.Text.Decimal

/-!
# Arithmetic

What stands between the parentheses of an arithmetic expansion: whole numbers of 64 bits that wrap,
variables, and operators with their usual ranks. An expression is read into a tree and then evaluated;
assignments change the variables for what comes after them.
-/

namespace Conformance.Shell

/-- Why an expression has no value. -/
inductive ArithmeticError where
  | malformed
  | divisionByZero
deriving DecidableEq, Repr

/-- The operators with two operands that do not assign. -/
inductive Operator where
  | times | divided | modulo | plus | minus | shiftLeft | shiftRight
  | less | lessEqual | greater | greaterEqual | equal | unequal
  | bitAnd | bitXor | bitOr
deriving DecidableEq, Repr

/-- An expression. -/
inductive Expression where
  | number (value : Int)
  | named (name : Chars)
  | negate (operand : Expression)
  | complement (operand : Expression)
  | negation (operand : Expression)
  | binary (operator : Operator) (left right : Expression)
  | both (left right : Expression)
  | either (left right : Expression)
  | conditional (test yes no : Expression)
  | assign (name : Chars) (operator : Option Operator) (value : Expression)
deriving DecidableEq, Repr

namespace Operator

/-- A number brought into the range of 64-bit numbers with a sign. -/
def wrap (n : Int) : Int := Int.bmod n UInt64.size

/-- A truth value as a number. -/
def truth (b : Bool) : Int := if b then 1 else 0

/-- A number as the 64 bits that stand for it. -/
def bits (n : Int) : Nat := (n % UInt64.size).toNat

/-- The value of an operator. -/
def apply (operator : Operator) (a b : Int) : Except ArithmeticError Int :=
  match operator with
  | times => .ok (wrap (a * b))
  | divided => if b = 0 then .error .divisionByZero else .ok (wrap (Int.tdiv a b))
  | modulo => if b = 0 then .error .divisionByZero else .ok (wrap (Int.tmod a b))
  | plus => .ok (wrap (a + b))
  | minus => .ok (wrap (a - b))
  | shiftLeft => .ok (wrap (a * Nat.pow 2 (bits b % 64)))
  | shiftRight => .ok (Int.fdiv a (Nat.pow 2 (bits b % 64)))
  | less => .ok (truth (a < b))
  | lessEqual => .ok (truth (a ≤ b))
  | greater => .ok (truth (b < a))
  | greaterEqual => .ok (truth (b ≤ a))
  | equal => .ok (truth (a = b))
  | unequal => .ok (truth (a ≠ b))
  | bitAnd => .ok (wrap (bits a &&& bits b))
  | bitXor => .ok (wrap (bits a ^^^ bits b))
  | bitOr => .ok (wrap (bits a ||| bits b))

/-- The operators by rank, those that bind least first, each with its sign. Longer signs come first. -/
def ranks : List (List (Chars × Operator)) :=
  [[(['|'], bitOr)], [(['^'], bitXor)], [(['&'], bitAnd)],
    [(['=', '='], equal), (['!', '='], unequal)],
    [(['<', '='], lessEqual), (['>', '='], greaterEqual), (['<'], less), (['>'], greater)],
    [(['<', '<'], shiftLeft), (['>', '>'], shiftRight)],
    [(['+'], plus), (['-'], minus)],
    [(['*'], times), (['/'], divided), (['%'], modulo)]]

/-- Signs that begin with an operator's sign and mean something else. -/
def longer : List Chars :=
  ["||", "&&", "<<", ">>", "|=", "^=", "&=", "+=", "-=", "*=", "/=", "%=", "<<=", ">>="].map
    String.toList

/-- Whether a sign comes next and is not the beginning of another one. -/
def comesNext (sign now : Chars) : Bool :=
  sign.isPrefixOf now &&
    !(longer.any fun other => sign.length < other.length && sign.isPrefixOf other &&
      other.isPrefixOf now)

/-- The operator that assigns with a sign in front of its equals sign. -/
def assigning : List (Chars × Option Operator) :=
  [(['<', '<', '='], some shiftLeft), (['>', '>', '='], some shiftRight), (['+', '='], some plus),
    (['-', '='], some minus), (['*', '='], some times), (['/', '='], some divided),
    (['%', '='], some modulo), (['&', '='], some bitAnd), (['^', '='], some bitXor),
    (['|', '='], some bitOr), (['='], none)]

end Operator

namespace Expression

/-- Text without blank space at its beginning. -/
def unspaced (text : Chars) : Chars :=
  text.dropWhile fun c => c = ' ' || c = '\t' || c = '\n'

/-- Whether a character belongs to a name or a number. -/
def isWordChar (c : Char) : Bool := c.isAlphanum || c = '_'

/-- A number in decimal, octal or hexadecimal. -/
def number? (text : Chars) : Option Int :=
  match text with
  | '0' :: 'x' :: digits => hexadecimal digits
  | '0' :: 'X' :: digits => hexadecimal digits
  | '0' :: digits => (Text.numeral? octalDigit 8 0 digits).map Int.ofNat
  | digits => (Text.digits? digits).map Int.ofNat
where
  /-- A number in hexadecimal, behind its prefix. -/
  hexadecimal (digits : Chars) : Option Int :=
    if digits.isEmpty then none else (Text.numeral? Text.hexValue? 16 0 digits).map Int.ofNat
  /-- The value of an octal digit. -/
  octalDigit (c : Char) : Option Nat :=
    if '0' ≤ c ∧ c ≤ '7' then some (c.toNat - '0'.toNat) else none

/-- A reader of expressions. -/
abbrev Reader := Chars → Option (Expression × Chars)

/-- An operand: a number, a variable, a sign before an operand, or an expression in parentheses. -/
def operand (whole : Reader) : Nat → Reader
  | 0, _ => none
  | bound + 1, text =>
    match unspaced text with
    | '(' :: rest =>
      match whole rest with
      | some (found, rest) =>
        match unspaced rest with
        | ')' :: rest => some (found, rest)
        | _ => none
      | none => none
    | '-' :: rest => (operand whole bound rest).map fun (e, rest) => (negate e, rest)
    | '+' :: rest => operand whole bound rest
    | '~' :: rest => (operand whole bound rest).map fun (e, rest) => (complement e, rest)
    | '!' :: rest => (operand whole bound rest).map fun (e, rest) => (negation e, rest)
    | text =>
      let word := text.takeWhile isWordChar
      let rest := text.dropWhile isWordChar
      match word with
      | [] => none
      | c :: _ =>
        if c.isDigit then (number? word).map fun n => (number (Operator.wrap n), rest)
        else some (named word, rest)

/-- Operands joined by operators of one rank, from the left. -/
def chain (next : Reader) (operators : List (Chars × Operator)) :
    Nat → Expression → Chars → Option (Expression × Chars)
  | 0, left, text => some (left, text)
  | bound + 1, left, text =>
    let now := unspaced text
    match operators.find? fun operator => Operator.comesNext operator.1 now with
    | none => some (left, text)
    | some (sign, operator) =>
      match next (now.drop sign.length) with
      | none => none
      | some (right, rest) => chain next operators bound (binary operator left right) rest

/-- Expressions of a rank and of those that bind more. -/
def ranked (whole : Reader) : List (List (Chars × Operator)) → Reader
  | [], text => operand whole (text.length + 1) text
  | operators :: higher, text =>
    match ranked whole higher text with
    | none => none
    | some (left, rest) =>
      chain (ranked whole higher) operators (rest.length + 1) left rest

/-- Expressions joined by a sign of two characters, from the left. -/
def joined (next : Reader) (sign : Chars) (join : Expression → Expression → Expression) :
    Nat → Expression → Chars → Option (Expression × Chars)
  | 0, left, text => some (left, text)
  | bound + 1, left, text =>
    let now := unspaced text
    if sign.isPrefixOf now then
      match next (now.drop sign.length) with
      | none => none
      | some (right, rest) => joined next sign join bound (join left right) rest
    else some (left, text)

/-- Expressions joined by `&&`. -/
def conjunction (whole : Reader) : Reader := fun text =>
  match ranked whole Operator.ranks text with
  | none => none
  | some (left, rest) =>
    joined (ranked whole Operator.ranks) ['&', '&'] both (rest.length + 1) left rest

/-- Expressions joined by `||`. -/
def disjunction (whole : Reader) : Reader := fun text =>
  match conjunction whole text with
  | none => none
  | some (left, rest) => joined (conjunction whole) ['|', '|'] either (rest.length + 1) left rest

/-- An assignment, if the text begins with a name and an assigning sign. -/
def assignment? (text : Chars) : Option (Chars × Option Operator × Chars) :=
  let now := unspaced text
  let name := now.takeWhile isWordChar
  let rest := unspaced (now.dropWhile isWordChar)
  let isName := match name with
    | c :: _ => !c.isDigit
    | [] => false
  if !isName ∨ ['=', '='].isPrefixOf rest then none
  else
    (Operator.assigning.find? fun sign => sign.1.isPrefixOf rest).map fun (sign, operator) =>
      (name, operator, rest.drop sign.length)

/-- An expression without an assignment outside parentheses. Of the two that a test chooses from only
    the first may be an assignment. -/
def alternatives (whole : Reader) : Nat → Reader
  | 0, _ => none
  | bound + 1, text =>
    match disjunction whole text with
    | none => none
    | some (test, rest) =>
      match unspaced rest with
      | '?' :: rest =>
        match whole rest with
        | none => none
        | some (yes, rest) =>
          match unspaced rest with
          | ':' :: rest =>
            (alternatives whole bound rest).map fun (no, rest) => (conditional test yes no, rest)
          | _ => none
      | _ => some (test, rest)

/-- A whole expression, nested no deeper than a bound. -/
def whole : Nat → Reader
  | 0, _ => none
  | depth + 1, text =>
    match assignment? text with
    | some (name, operator, rest) =>
      (whole depth rest).map fun (value, rest) => (assign name operator value, rest)
    | none => alternatives (whole depth) (text.length + 1) text

/-- Read an expression that takes all of a text; an empty text stands for zero. -/
def read? (text : Chars) : Option Expression :=
  if (unspaced text).isEmpty then some (number 0)
  else
    match whole (text.length + 1) text with
    | some (found, rest) => if (unspaced rest).isEmpty then some found else none
    | none => none

/-- The number that a text is taken for: digits with a sign, and blanks around them; an empty text is
    zero. -/
def numberOf? (text : Chars) : Option Int :=
  match (unspaced (unspaced text).reverse).reverse with
  | [] => some 0
  | '-' :: digits => (number? digits).map fun n => -n
  | '+' :: digits => number? digits
  | digits => number? digits

/-- The value of a variable. -/
def lookUp (valueOf : Chars → Chars) (changes : List (Chars × Int)) (name : Chars) :
    Except ArithmeticError Int :=
  match changes.lookup name with
  | some value => .ok value
  | none =>
    match numberOf? (valueOf name) with
    | some value => .ok (Operator.wrap value)
    | none => .error .malformed

/-- Evaluate an expression, with the assignments made so far, last first. -/
def evaluate (valueOf : Chars → Chars) (changes : List (Chars × Int)) :
    Expression → Except ArithmeticError (Int × List (Chars × Int))
  | number value => .ok (value, changes)
  | named name => do .ok (← lookUp valueOf changes name, changes)
  | negate e => do
    let (a, changes) ← evaluate valueOf changes e
    .ok (Operator.wrap (-a), changes)
  | complement e => do
    let (a, changes) ← evaluate valueOf changes e
    .ok (-a - 1, changes)
  | negation e => do
    let (a, changes) ← evaluate valueOf changes e
    .ok (Operator.truth (a = 0), changes)
  | binary operator left right => do
    let (a, changes) ← evaluate valueOf changes left
    let (b, changes) ← evaluate valueOf changes right
    .ok (← operator.apply a b, changes)
  | both left right => do
    let (a, changes) ← evaluate valueOf changes left
    if a = 0 then .ok (0, changes)
    else
      let (b, changes) ← evaluate valueOf changes right
      .ok (Operator.truth (b ≠ 0), changes)
  | either left right => do
    let (a, changes) ← evaluate valueOf changes left
    if a ≠ 0 then .ok (1, changes)
    else
      let (b, changes) ← evaluate valueOf changes right
      .ok (Operator.truth (b ≠ 0), changes)
  | conditional test yes no => do
    let (a, changes) ← evaluate valueOf changes test
    if a ≠ 0 then evaluate valueOf changes yes else evaluate valueOf changes no
  | assign name operator e => do
    let (b, changes) ← evaluate valueOf changes e
    let value ←
      match operator with
      | none => .ok b
      | some operator => operator.apply (← lookUp valueOf changes name) b
    .ok (value, (name, value) :: changes)

end Expression

/-- A number as text. -/
def numeral (n : Int) : Chars :=
  match n with
  | .ofNat n => Nat.toDigits 10 n
  | .negSucc n => '-' :: Nat.toDigits 10 (n + 1)

end Conformance.Shell
