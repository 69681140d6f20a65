/-!
# Floating-point numbers taken apart

A finite binary64 number is a sign, a natural mantissa and a power of two. Rounding to an integer
is done on that form, exactly, with a rule for each kind of rounding.
-/

namespace MicroTemplate.Number

/-- What a floating-point number stands for. -/
inductive Unpacked where
  /-- No number. -/
  | undefined
  /-- A number beyond all others, or below all others. -/
  | infinite (negative : Bool)
  /-- The number `mantissa · 2 ^ exponent`, with its sign. Zero keeps its sign. -/
  | finite (negative : Bool) (mantissa : Nat) (exponent : Int)

/-- Takes a floating-point number apart. -/
def unpack (x : Float) : Unpacked :=
  let bits := x.toBits.toNat
  let negative : Bool := 9223372036854775808 ≤ bits
  let biased : Nat := bits / 4503599627370496 % 2048
  let fraction := bits % 4503599627370496
  if biased = 2047 then
    if fraction = 0 then .infinite negative else .undefined
  else if biased = 0 then .finite negative fraction (-1074)
  else .finite negative (4503599627370496 + fraction) ((biased : Int) - 1075)

/-- The ways to round a number that lies between two integers. -/
inductive Rounding where
  /-- To the greatest integer that is not above. -/
  | floor
  /-- To the least integer that is not below. -/
  | ceiling
  /-- To the nearest, and from the middle away from zero. -/
  | halfAway
  /-- To the nearest, and from the middle to the even one. -/
  | halfEven

/-- Rounds `± numerator / denominator` to an integer, whose size is returned. -/
def Rounding.size (r : Rounding) (negative : Bool) (numerator denominator : Nat) : Nat :=
  let quotient := numerator / denominator
  let rest := numerator % denominator
  let up := match r with
    | .floor => negative && rest != 0
    | .ceiling => !negative && rest != 0
    | .halfAway => denominator ≤ 2 * rest
    | .halfEven => denominator < 2 * rest || (denominator == 2 * rest && quotient % 2 == 1)
  if up then quotient + 1 else quotient

/-- The size of the integer that a finite number is rounded to. -/
def Rounding.sizeOfFinite (r : Rounding) (negative : Bool) (mantissa : Nat) (exponent : Int) :
    Nat :=
  if 0 ≤ exponent then mantissa * Nat.pow 2 exponent.toNat
  else r.size negative mantissa (Nat.pow 2 (-exponent).toNat)

/-- The integer that a number is rounded to; none for what is not finite. -/
def roundToInt? (r : Rounding) (x : Float) : Option Int :=
  match unpack x with
  | .finite negative mantissa exponent =>
    let size : Int := r.sizeOfFinite negative mantissa exponent
    some (if negative then -size else size)
  | _ => none

/-- Rounds a number to an integer that is a floating-point number again. A zero that is the result
keeps the sign of the operand. -/
def roundFloat (r : Rounding) (x : Float) : Float :=
  match unpack x with
  | .finite negative mantissa exponent =>
    if 0 ≤ exponent then x
    else
      let size := Float.ofNat (r.sizeOfFinite negative mantissa exponent)
      if negative then -size else size
  | _ => x

end MicroTemplate.Number
