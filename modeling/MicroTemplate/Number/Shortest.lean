import MicroTemplate.Number.Integer
import MicroTemplate.Number.Binary64

/-!
# Shortest decimals

The text of a floating-point number has the fewest digits that read back as that number, and of
those the nearest to it. It is positional: no exponent is ever written, a whole number has no
point, and a point has a digit on either side.
-/

namespace MicroTemplate.Number

/-- A positive number written `0.d₁d₂… · 10 ^ point`. -/
structure Decimal where
  /-- The digits, the first of which is not zero. -/
  digits : List Char
  /-- Where the point stands, counted from the first digit. -/
  point : Int

/-- The real numbers between which a finite number is the nearest one, in quarters of its last
binary place. -/
structure Interval where
  /-- The number itself. -/
  value : Nat
  /-- The lower end. -/
  low : Nat
  /-- The upper end. -/
  high : Nat
  /-- Whether the ends belong to it. -/
  closed : Bool

/-- The interval of a mantissa. Below a power of two the next number is half as far away. -/
def Interval.ofMantissa (mantissa : Nat) : Interval where
  value := 4 * mantissa
  low := if mantissa = 4503599627370496 then 4 * mantissa - 1 else 4 * mantissa - 2
  high := 4 * mantissa + 2
  closed := mantissa % 2 == 0

/-- Whether `candidate` lies in the interval when both are measured by common units: `scale` units
to a quarter place and `grid` units to one step of the candidate. -/
def Interval.holds (i : Interval) (scale grid candidate : Nat) : Bool :=
  if i.closed then i.low * scale ≤ candidate * grid && candidate * grid ≤ i.high * scale
  else i.low * scale < candidate * grid && candidate * grid < i.high * scale

/-- The multiple of `10 ^ place` that stands for the interval, if one lies in it: of the two next
to the value, the nearer. -/
def Interval.candidate? (i : Interval) (exponent place : Int) : Option Nat :=
  let scale := Nat.pow 2 exponent.toNat * Nat.pow 10 (-place).toNat
  let grid := Nat.pow 2 (-exponent).toNat * Nat.pow 10 place.toNat
  let below := i.value * scale / grid
  match i.holds scale grid below, i.holds scale grid (below + 1) with
  | false, false => none
  | true, false => some below
  | false, true => some (below + 1)
  | true, true =>
    if 2 * (i.value * scale) < (2 * below + 1) * grid then some below else some (below + 1)

/-- Tries the decimal places from `place` downwards. -/
def Interval.shortest (i : Interval) (exponent place : Int) : Nat → Decimal
  | 0 => ⟨[], place⟩
  | tries + 1 =>
    match i.candidate? exponent place with
    | some n => let ds := digits n; ⟨ds, place + ds.length⟩
    | none => i.shortest exponent (place - 1) tries

/-- The shortest decimal of `mantissa · 2 ^ exponent`, which is not zero. The first place tried is
above the number, and no number needs more than seventeen digits. -/
def shortest (mantissa : Nat) (exponent : Int) : Decimal :=
  let place := Int.fdiv ((mantissa.log2 + exponent + 1) * 30103) 100000 + 1
  (Interval.ofMantissa mantissa).shortest (exponent - 2) place 24

/-- The positional text of a decimal. -/
def Decimal.write (d : Decimal) : List Char :=
  if d.point ≤ 0 then '0' :: '.' :: (List.replicate (-d.point).toNat '0' ++ d.digits)
  else
    let whole := d.point.toNat
    if d.digits.length ≤ whole then d.digits ++ List.replicate (whole - d.digits.length) '0'
    else d.digits.take whole ++ '.' :: d.digits.drop whole

/-- The text of a floating-point number. -/
def writeFloat (x : Float) : List Char :=
  match unpack x with
  | .undefined => ['N', 'a', 'N']
  | .infinite negative => if negative then ['-', 'i', 'n', 'f'] else ['i', 'n', 'f']
  | .finite negative mantissa exponent =>
    let text := if mantissa = 0 then ['0'] else (shortest mantissa exponent).write
    if negative then '-' :: text else text

end MicroTemplate.Number
