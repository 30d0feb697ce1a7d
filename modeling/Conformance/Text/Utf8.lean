import Conformance.Bytes

/-!
# Text as bytes

Text is written as UTF-8. Reading is forgiving: output of other programs need not be text at all, so
every maximal stretch of bytes that begins a character but does not complete it, and every byte that
cannot begin one, is read as one replacement character U+FFFD. The reader is a small machine that
takes one byte at a time, so it works in one pass and its state is the unfinished character.
-/

namespace Conformance.Text

/-- The UTF-8 bytes of a text. -/
def encode (text : String) : Bytes :=
  text.toList.flatMap String.utf8EncodeChar

/-- Stands for bytes that are not text. -/
def replacement : Char := '\uFFFD'

/-- A character of which some bytes have come: the bits so far, how many bytes are still to come,
    and the range in which the next of them has to lie. -/
structure Unfinished where
  bits : Nat
  owed : Nat
  low : UInt8
  high : UInt8
deriving DecidableEq, Repr

/-- What the first byte of a longer character announces. The narrowed ranges keep out overlong
    forms, surrogates and numbers past U+10FFFF. -/
def Unfinished.start? (b : UInt8) : Option Unfinished :=
  if b < 0xC2 then none
  else if b < 0xE0 then some ⟨b.toNat - 0xC0, 1, 0x80, 0xBF⟩
  else if b < 0xF0 then
    some ⟨b.toNat - 0xE0, 2, if b = 0xE0 then 0xA0 else 0x80, if b = 0xED then 0x9F else 0xBF⟩
  else if b < 0xF5 then
    some ⟨b.toNat - 0xF0, 3, if b = 0xF0 then 0x90 else 0x80, if b = 0xF4 then 0x8F else 0xBF⟩
  else none

/-- The reader between two bytes: the characters read so far, last first, and the unfinished one. -/
structure Reading where
  chars : List Char
  unfinished : Option Unfinished
deriving DecidableEq, Repr

namespace Reading

/-- Take a byte that has to begin a character. -/
def begin (chars : List Char) (b : UInt8) : Reading :=
  if b < 0x80 then ⟨Char.ofNat b.toNat :: chars, none⟩
  else match Unfinished.start? b with
    | some u => ⟨chars, some u⟩
    | none => ⟨replacement :: chars, none⟩

/-- Take one byte. A byte out of range ends the unfinished character as a replacement and begins the
    next one. -/
def step (r : Reading) (b : UInt8) : Reading :=
  match r.unfinished with
  | none => begin r.chars b
  | some u =>
    if u.low ≤ b ∧ b ≤ u.high then
      let bits := u.bits * 64 + (b.toNat - 0x80)
      if u.owed ≤ 1 then ⟨Char.ofNat bits :: r.chars, none⟩
      else ⟨r.chars, some ⟨bits, u.owed - 1, 0x80, 0xBF⟩⟩
    else begin (replacement :: r.chars) b

/-- The characters read once the bytes have ended. -/
def finish (r : Reading) : List Char :=
  match r.unfinished with
  | none => r.chars.reverse
  | some _ => (replacement :: r.chars).reverse

end Reading

/-- Read bytes as text, with a replacement character for whatever is not text. -/
def decode (bytes : Bytes) : String :=
  String.ofList (bytes.foldl Reading.step ⟨[], none⟩).finish

/-- Read bytes as text if they are text throughout. -/
def decode? (bytes : Bytes) : Option String :=
  let text := decode bytes
  if encode text = bytes then some text else none

/-- The number of UTF-8 bytes of a text. -/
def byteLength (text : String) : Nat := (encode text).length

end Conformance.Text
