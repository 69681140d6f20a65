import MicroTemplate.Number.Binary64

/-!
# Durations

Signed spans of time, counted in nanoseconds. The counts of larger units are truncated toward zero,
and so are the parts into which a span is taken apart: none of them has the sign opposite to the
span.
-/

namespace MicroTemplate.Calendar

/-- The longest span, in nanoseconds: as many milliseconds as fit 64 bits. -/
def longest : Int := 9223372036854775807 * 1000000

/-- A signed span of time. -/
structure Duration where
  /-- The length in nanoseconds. -/
  nanoseconds : Int
  /-- The span is at most the longest, in either direction. -/
  bounded : -longest ≤ nanoseconds ∧ nanoseconds ≤ longest
  deriving DecidableEq

namespace Duration

/-- The span of that many nanoseconds, unless it is too long. -/
def ofNanoseconds? (n : Int) : Option Duration :=
  if h : -longest ≤ n ∧ n ≤ longest then some ⟨n, h⟩ else none

/-- The span of that many seconds, unless it is too long. -/
def ofSeconds? (n : Int) : Option Duration := ofNanoseconds? (n * 1000000000)

/-- The order by length. -/
def compare (a b : Duration) : Ordering := Ord.compare a.nanoseconds b.nanoseconds

/-- The whole seconds. -/
def seconds (d : Duration) : Int := d.nanoseconds.tdiv 1000000000

/-- What is left of the span beside its whole seconds, in nanoseconds. -/
def subsecond (d : Duration) : Int := d.nanoseconds.tmod 1000000000

/-- The whole milliseconds. -/
def milliseconds (d : Duration) : Int := d.nanoseconds.tdiv 1000000

/-- The whole days. -/
def days (d : Duration) : Int := d.seconds.tdiv 86400

/-- The hours beside the whole days. -/
def hourPart (d : Duration) : Int := (d.seconds.tdiv 3600).tmod 24

/-- The minutes beside the whole hours. -/
def minutePart (d : Duration) : Int := (d.seconds.tdiv 60).tmod 60

/-- The seconds beside the whole minutes. -/
def secondPart (d : Duration) : Int := d.seconds.tmod 60

/-- The milliseconds beside the whole seconds. -/
def millisecondPart (d : Duration) : Int := d.milliseconds.tmod 1000

/-- The span without its sign. -/
def abs (d : Duration) : Duration :=
  ⟨d.nanoseconds.natAbs, by have := d.bounded; omega⟩

/-- The length in seconds as a floating-point number. -/
def totalSeconds (d : Duration) : Float :=
  Float.ofInt d.seconds + Float.ofInt d.subsecond / 1e9

/-- The span of whole seconds nearest to this one; from the middle, the longer of the two. -/
def rounded? (d : Duration) : Option Duration :=
  (Number.roundToInt? .halfAway d.totalSeconds).bind ofSeconds?

end Duration

end MicroTemplate.Calendar
