import MicroTemplate.Number.Integer
import MicroTemplate.Calendar.Duration

/-!
# Durations in words and figures

Two texts of a span of time: the clock form `[-][d.]hh:mm:ss[.fff]`, which leaves out days and
milliseconds that are zero, and the sum of units `1d 2h 3m 4s`, which leaves out every unit that is
zero.
-/

namespace MicroTemplate.Calendar.Duration

open Number

/-- The clock form. -/
def write (d : Duration) : List Char :=
  let a := d.abs
  (if d.nanoseconds < 0 then ['-'] else []) ++
    (if 0 < a.days then digits a.days.natAbs ++ ['.'] else []) ++
    padded 2 a.hourPart.natAbs ++ ':' :: padded 2 a.minutePart.natAbs ++
    ':' :: padded 2 a.secondPart.natAbs ++
    (if 0 < a.millisecondPart then '.' :: padded 3 a.millisecondPart.natAbs else [])

/-- The units of a span that are not zero, each with its letter, the largest first. -/
def units (d : Duration) : List (Nat × Char) :=
  let a := d.abs
  [(a.days.natAbs, 'd'), (a.hourPart.natAbs, 'h'), (a.minutePart.natAbs, 'm'),
    (a.secondPart.natAbs, 's')].filter fun (n, _) => n != 0

/-- The sum of units. A span under a second has no unit, and then no sign either. -/
def writeUnits (d : Duration) : List Char :=
  match d.units with
  | [] => ['0', 's']
  | parts =>
    (if d.nanoseconds < 0 then ['-'] else []) ++
      [' '].intercalate (parts.map fun (n, letter) => digits n ++ [letter])

end MicroTemplate.Calendar.Duration
