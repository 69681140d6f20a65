/-!
# Form encoding

The bytes of a text are written so that they can stand in the query of an address: letters, digits
and some marks as they are, a space as a plus sign, and every other byte as a percent sign with two
hexadecimal digits.
-/

namespace MicroTemplate.Encoding

/-- Whether a byte is written as the character that it is. -/
def isPlain (b : UInt8) : Bool :=
  let c := Char.ofNat b.toNat
  b < 128 && (c.isAlphanum || c == '-' || c == '_' || c == '.' || c == '!' || c == '*' ||
    c == '(' || c == ')')

/-- A hexadecimal digit, in lower case. -/
def hexDigit (d : Nat) : Char := if d < 10 then Char.ofNat (48 + d) else Char.ofNat (87 + d)

/-- A byte in a form. -/
def formByte (b : UInt8) : List Char :=
  if isPlain b then [Char.ofNat b.toNat]
  else if b = 32 then ['+']
  else ['%', hexDigit (b.toNat / 16), hexDigit (b.toNat % 16)]

/-- The bytes of a text. -/
def utf8Bytes (s : String) : List UInt8 := s.toUTF8.toList

/-- A text in a form. -/
def form (s : String) : List Char := (utf8Bytes s).flatMap formByte

end MicroTemplate.Encoding
