import MicroTemplate.Number.Integer

/-!
# Reading floating-point numbers

A number is written as a sign, digits with at most one point among them, and an exponent after the
letter e; sign and exponent may be left out, and so may the digits on one side of the point.
Infinity and the undefined number have names. The number read is the nearest one to what is
written.
-/

namespace MicroTemplate.Number

/-- The number `mantissa · 10 ^ exponent`, rounded. Exponents that leave the range whatever the
mantissa is are not computed with. -/
def scientific (mantissa : Nat) (exponent : Int) : Float :=
  let size : Int := (digits mantissa).length
  if mantissa = 0 then 0.0
  else if 400 < exponent + size then 1.0 / 0.0
  else if exponent + size < -400 then 0.0
  else Float.ofScientific mantissa (exponent < 0) exponent.natAbs

/-- The exponent that a text after the mantissa gives: none at all, or a letter and an integer. -/
def readExponent? : List Char → Option Int
  | [] => some 0
  | c :: cs => if c = 'e' ∨ c = 'E' then readInt? cs else none

/-- The number that a text without a sign denotes, if it is written in digits. -/
def readDecimal? (cs : List Char) : Option Float :=
  let whole := cs.takeWhile Char.isDigit
  let afterWhole := cs.dropWhile Char.isDigit
  let (places, rest) := match afterWhole with
    | '.' :: more => (more.takeWhile Char.isDigit, more.dropWhile Char.isDigit)
    | _ => ([], afterWhole)
  if whole.isEmpty && places.isEmpty then none
  else (readExponent? rest).map fun e => scientific (ofDigits (whole ++ places)) (e - places.length)

/-- The number that a text without a sign denotes. -/
def readUnsigned? (cs : List Char) : Option Float :=
  let name := cs.map Char.toLower
  if name = "inf".toList ∨ name = "infinity".toList then some (1.0 / 0.0)
  else if name = "nan".toList then some (0.0 / 0.0)
  else readDecimal? cs

/-- The floating-point number that a text denotes. -/
def readFloat? : List Char → Option Float
  | '-' :: cs => (readUnsigned? cs).map fun x => -x
  | '+' :: cs => readUnsigned? cs
  | cs => readUnsigned? cs

end MicroTemplate.Number
