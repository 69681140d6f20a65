import MicroTemplate.Number.Integer

/-!
# Dates

Days of the proleptic Gregorian calendar, in which the year before the first is year zero. A date is
kept as year, month and day; `dayNumber` counts days on one line, from the first day of year one.
-/

namespace MicroTemplate.Calendar

/-- Whether a year has a 29th of February. -/
def isLeap (year : Int) : Bool :=
  year % 4 == 0 && (year % 100 != 0 || year % 400 == 0)

/-- The number of days of each month. -/
def monthLengths (year : Int) : List Nat :=
  [31, if isLeap year then 29 else 28, 31, 30, 31, 30, 31, 31, 30, 31, 30, 31]

/-- The number of days of a month, counted from one. -/
def daysInMonth (year : Int) (month : Nat) : Nat := (monthLengths year).getD (month - 1) 0

/-- The first year that has dates. -/
def firstYear : Int := -262143

/-- The last year that has dates. -/
def lastYear : Int := 262142

/-- A day of the calendar. -/
structure Date where
  /-- The year; zero and negative years are those before the first. -/
  year : Int
  /-- The month, from one. -/
  month : Nat
  /-- The day of the month, from one. -/
  day : Nat
  /-- The year is one that has dates. -/
  year_mem : firstYear ≤ year ∧ year ≤ lastYear
  /-- The month is one of twelve. -/
  month_mem : 1 ≤ month ∧ month ≤ 12
  /-- The day is one of its month. -/
  day_mem : 1 ≤ day ∧ day ≤ daysInMonth year month
  deriving DecidableEq

namespace Date

/-- The day of that year, month and number, if there is one. -/
def of? (year : Int) (month day : Nat) : Option Date :=
  if h : (firstYear ≤ year ∧ year ≤ lastYear) ∧ (1 ≤ month ∧ month ≤ 12) ∧
      (1 ≤ day ∧ day ≤ daysInMonth year month) then
    some ⟨year, month, day, h.1, h.2.1, h.2.2⟩
  else none

/-- Which day of its year it is, from one. -/
def dayOfYear (d : Date) : Nat := ((monthLengths d.year).take (d.month - 1)).foldr (· + ·) d.day

/-- The number of days between the first day of year one and the first day of a year. -/
def daysBefore (year : Int) : Int :=
  let passed := year - 1
  365 * passed + Int.fdiv passed 4 - Int.fdiv passed 100 + Int.fdiv passed 400

/-- The number of days since the first day of year one. -/
def dayNumber (d : Date) : Int := daysBefore d.year + d.dayOfYear - 1

/-- The order of days in time. -/
def compare (a b : Date) : Ordering :=
  (Ord.compare a.year b.year).then ((Ord.compare a.month b.month).then (Ord.compare a.day b.day))

/-- The names of the days of the week. The first day of year one was a Monday. -/
def weekdayNames : List String :=
  ["Monday", "Tuesday", "Wednesday", "Thursday", "Friday", "Saturday", "Sunday"]

/-- The day of the week, counted from Monday. -/
def weekday (d : Date) : Nat := (d.dayNumber % 7).toNat

/-- The name of the day of the week. -/
def weekdayName (d : Date) : String := weekdayNames.getD d.weekday ""

/-- The names of the months. -/
def monthNames : List String :=
  ["January", "February", "March", "April", "May", "June", "July", "August", "September",
    "October", "November", "December"]

/-- The name of the month. -/
def monthName (d : Date) : String := monthNames.getD (d.month - 1) ""

/-- The year in four digits. One that needs more of them, or is before year zero, has a sign. -/
def yearText (d : Date) : List Char :=
  if 0 ≤ d.year ∧ d.year ≤ 9999 then Number.padded 4 d.year.natAbs
  else (if d.year < 0 then '-' else '+') :: Number.padded 4 d.year.natAbs

theorem of?_year_month_day {year : Int} {month day : Nat} {d : Date}
    (h : of? year month day = some d) : d.year = year ∧ d.month = month ∧ d.day = day := by
  unfold of? at h
  split at h
  · cases h
    exact ⟨rfl, rfl, rfl⟩
  · cases h

end Date

end MicroTemplate.Calendar
