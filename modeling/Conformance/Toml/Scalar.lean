import Conformance.Data.Basic
import Conformance.Toml.Token

/-!
# TOML: numbers and dates

A value that starts with a sign or a digit is a date or time if it can be read as one, else a number
with point or exponent, else an integer of 64 bits. Nothing but integers has a use in this library,
so of the others only the form is checked, and of floating-point numbers that they are finite where
they are written as digits.
-/

namespace Conformance.Toml

/-! ## Integers -/

/-- Digits of a base with single underscores between them: their characters, and what follows. The
    count bounds the length. -/
def digitGroup? (digit? : Char → Option Nat) : Nat → List Char → Reader (List Char)
  | 0, _, _ => none
  | fuel + 1, before, cs =>
    match cs with
    | '_' :: d :: rest =>
      if before ≠ [] ∧ (digit? d).isSome then digitGroup? digit? fuel (d :: before) rest else none
    | ['_'] => none
    | d :: rest =>
      if (digit? d).isSome then digitGroup? digit? fuel (d :: before) rest
      else if before = [] then none
      else some (before.reverse, cs)
    | [] => if before = [] then none else some (before.reverse, [])

/-- The value of an octal digit. -/
def octalValue? (c : Char) : Option Nat :=
  if '0' ≤ c ∧ c ≤ '7' then some (c.toNat - '0'.toNat) else none

/-- The value of a binary digit. -/
def binaryValue? (c : Char) : Option Nat :=
  if c = '0' then some 0 else if c = '1' then some 1 else none

/-- The sign in front of a number, and what follows it. -/
def sign (cs : List Char) : Bool × List Char :=
  match cs with
  | '-' :: rest => (true, rest)
  | '+' :: rest => (false, rest)
  | rest => (false, rest)

/-- The digits of a decimal integer: a lone zero, or a group that does not begin with one. -/
def decimalDigits? (cs : List Char) : Option (List Char × List Char) :=
  match cs with
  | '0' :: rest => some (['0'], rest)
  | _ => digitGroup? Text.digitValue? (cs.length + 1) [] cs

/-- A number if it fits a signed 64-bit word. -/
def signed64? (negative : Bool) (n : Nat) : Option Int :=
  if negative then if n ≤ Nat.pow 2 63 then some (-(n : Int)) else none
  else if n < Nat.pow 2 63 then some n else none

/-- An integer of a base, after its marker. -/
def based? (digit? : Char → Option Nat) (base : Nat) (cs : List Char) : Option (Data × List Char) :=
  match digitGroup? digit? (cs.length + 1) [] cs with
  | none => none
  | some (digits, rest) =>
    ((Text.numeral? digit? base 0 digits).bind (signed64? false)).map fun n => (.whole n, rest)

/-- An integer. -/
def integer? (cs : List Char) : Option (Data × List Char) :=
  match cs with
  | '0' :: 'x' :: rest => based? Text.hexValue? 16 rest
  | '0' :: 'o' :: rest => based? octalValue? 8 rest
  | '0' :: 'b' :: rest => based? binaryValue? 2 rest
  | _ =>
    let (negative, unsigned) := sign cs
    match decimalDigits? unsigned with
    | none => none
    | some (digits, rest) =>
      ((Text.digits? digits).bind (signed64? negative)).map fun n => (.whole n, rest)

/-! ## Numbers with point or exponent -/

/-- Whether `digits · 10 ^ exponent` is rounded to infinity in 64-bit floating point. -/
def overflows (digits : Nat) (exponent : Int) : Bool :=
  let size : Int := (Nat.toDigits 10 digits).length
  if digits = 0 || exponent + size ≤ 308 then false
  else if exponent + size > 310 then true
  else
    let bound := Nat.pow 2 1024 - Nat.pow 2 970
    match exponent with
    | .ofNat up => bound ≤ digits * Nat.pow 10 up
    | .negSucc down => bound * Nat.pow 10 (down + 1) ≤ digits

/-- The digits after a point or an exponent mark, which may begin with zeros. -/
def trailingDigits? (cs : List Char) : Option (List Char × List Char) :=
  digitGroup? Text.digitValue? (cs.length + 1) [] cs

/-- The exponent, if one stands here. -/
def exponent? (cs : List Char) : Option (Int × List Char) :=
  match cs with
  | c :: rest =>
    if c = 'e' || c = 'E' then
      let (negative, unsigned) := sign rest
      (trailingDigits? unsigned).map fun (digits, rest) =>
        let size : Int := (Text.digits? digits).getD 0
        (if negative then -size else size, rest)
    else none
  | [] => none

/-- A number with point or exponent, an infinity, or what is no number. -/
def float? (cs : List Char) : Option (Data × List Char) :=
  let (negative, unsigned) := sign cs
  match unsigned with
  | 'i' :: 'n' :: 'f' :: rest => some (.fractional, rest)
  | 'n' :: 'a' :: 'n' :: rest => some (.fractional, rest)
  | _ =>
    match decimalDigits? unsigned with
    | none => none
    | some (whole, rest) =>
      let close (digits : List Char) (exponent : Int) (rest : List Char) :
          Option (Data × List Char) :=
        if !negative && overflows ((Text.digits? digits).getD 0) exponent then none
        else some (.fractional, rest)
      match rest with
      | '.' :: rest =>
        match trailingDigits? rest with
        | none => none
        | some (fraction, rest) =>
          let shift : Int := -(fraction.length : Int)
          match exponent? rest with
          | some (exponent, rest) => close (whole ++ fraction) (exponent + shift) rest
          | none => close (whole ++ fraction) shift rest
      | rest =>
        match exponent? rest with
        | some (exponent, rest) => close whole exponent rest
        | none => none

/-! ## Dates and times -/

/-- A number of exactly `count` digits in a range. -/
def fixed? (count low high : Nat) (cs : List Char) : Option (Nat × List Char) :=
  if cs.length < count then none
  else match Text.numeral? Text.digitValue? 10 0 (cs.take count) with
    | some n => if low ≤ n ∧ n ≤ high then some (n, cs.drop count) else none
    | none => none

/-- What follows a given character. -/
def after? (c : Char) : List Char → Option (List Char)
  | d :: rest => if d = c then some rest else none
  | [] => none

/-- The number of days in a month. -/
def daysIn (year month : Nat) : Nat :=
  if month = 2 then
    if (year % 4 = 0 ∧ year % 100 ≠ 0) ∨ year % 400 = 0 then 29 else 28
  else if month = 4 ∨ month = 6 ∨ month = 9 ∨ month = 11 then 30
  else 31

/-- What follows a date. -/
def date? (cs : List Char) : Option (List Char) := do
  let (year, rest) ← fixed? 4 0 9999 cs
  let rest ← after? '-' rest
  let (month, rest) ← fixed? 2 1 12 rest
  let rest ← after? '-' rest
  let (_, rest) ← fixed? 2 1 (daysIn year month) rest
  some rest

/-- What follows a time of day. -/
def time? (cs : List Char) : Option (List Char) := do
  let (_, rest) ← fixed? 2 0 23 cs
  let rest ← after? ':' rest
  let (_, rest) ← fixed? 2 0 59 rest
  let rest ← after? ':' rest
  let (_, rest) ← fixed? 2 0 60 rest
  match rest with
  | '.' :: fraction =>
    match fraction.span fun c => '0' ≤ c && c ≤ '9' with
    | ([], _) => some rest
    | (_, rest) => some rest
  | _ => some rest

/-- What follows an offset from universal time, if one stands here. -/
def skipOffset? (cs : List Char) : Option (List Char) :=
  match cs with
  | 'Z' :: rest => some rest
  | 'z' :: rest => some rest
  | c :: rest =>
    if c = '+' || c = '-' then do
      let (_, rest) ← fixed? 2 0 23 rest
      let rest ← after? ':' rest
      let (_, rest) ← fixed? 2 0 59 rest
      some rest
    else some cs
  | [] => some []

/-- A date, a time of day, or both with an offset or without. -/
def moment? (cs : List Char) : Option (Data × List Char) :=
  match date? cs with
  | some rest =>
    let timed := match rest with
      | c :: after => if c = 'T' || c = 't' || c = ' ' then time? after else none
      | [] => none
    match timed with
    | some rest => (skipOffset? rest).map fun rest => (.moment, rest)
    | none => some (.moment, rest)
  | none => (time? cs).map fun rest => (.moment, rest)

/-- A value that starts with a sign or a digit. -/
def number? (cs : List Char) : Option (Data × List Char) :=
  (moment? cs).or ((float? cs).or (integer? cs))

end Conformance.Toml
