import Conformance.Text.Utf8

/-!
# Octets

Programs that take text byte by byte, such as the shell, are written over characters that each stand
for one byte. `octets` and `ofOctets` go between bytes and such characters without loss, and a text of
any characters is taken apart into its UTF-8 bytes first.
-/

namespace Conformance

/-- Text in which each character stands for one byte. -/
abbrev Chars := List Char

namespace Text

/-- Every byte as the character of its number. -/
def octets (bytes : Bytes) : Chars := bytes.map fun b => Char.ofNat b.toNat

/-- The bytes that characters stand for. -/
def ofOctets (chars : Chars) : Bytes := chars.map fun c => UInt8.ofNat c.toNat

/-- A text as characters that each stand for one byte. -/
def narrow (text : String) : Chars := octets (encode text)

/-- The text whose bytes are given. -/
def widen (chars : Chars) : String := decode (ofOctets chars)

/-- A character made of a small number has that number. -/
theorem toNat_ofNat_octet {n : Nat} (h : n < 256) : (Char.ofNat n).toNat = n := by
  have hv : n.isValidChar := Or.inl (by omega)
  rw [Char.ofNat, dif_pos hv]
  rfl

/-- No byte is lost on the way through characters. -/
theorem ofOctets_octets (bytes : Bytes) : ofOctets (octets bytes) = bytes := by
  induction bytes with
  | nil => rfl
  | cons b rest ih =>
      unfold ofOctets octets at ih ⊢
      rw [List.map_cons, List.map_cons, ih, toNat_ofNat_octet b.toNat_lt, UInt8.ofNat_toNat]

end Text

end Conformance
