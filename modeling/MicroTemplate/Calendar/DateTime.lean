import MicroTemplate.Calendar.Date
import MicroTemplate.Calendar.Duration

/-!
# Dates with a time of day

A date and a time without a zone, to the nanosecond. A leap second is kept as the last second of
its minute with a thousand million nanoseconds added, and is shown as second 60.
-/

namespace MicroTemplate.Calendar

/-- A moment of a day. -/
structure DateTime where
  /-- The day. -/
  date : Date
  /-- The seconds since midnight, without a leap second. -/
  second : Nat
  /-- The nanoseconds since the beginning of the second. -/
  nanosecond : Nat
  /-- The second is one of the day. -/
  second_lt : second < 86400
  /-- A second lasts two at most, itself and a leap second after it. -/
  nanosecond_lt : nanosecond < 2000000000
  deriving DecidableEq

namespace DateTime

/-- The moment of a day at that time, if there is one. -/
def of? (date : Date) (hour minute second : Nat) : Option DateTime :=
  if h : hour < 24 ∧ minute < 60 ∧ second < 60 then
    some ⟨date, hour * 3600 + minute * 60 + second, 0, by omega, by omega⟩
  else none

/-- The same moment that many nanoseconds later; beyond one second only at the end of a minute. -/
def withNanosecond? (t : DateTime) (n : Nat) : Option DateTime :=
  if h : n < 1000000000 ∨ (n < 2000000000 ∧ t.second % 60 = 59) then
    some { t with nanosecond := n, nanosecond_lt := by omega }
  else none

/-- The hour of the day. -/
def hour (t : DateTime) : Nat := t.second / 3600

/-- The minute of the hour. -/
def minute (t : DateTime) : Nat := t.second / 60 % 60

/-- The second of the minute, 59 during a leap second. -/
def secondOfMinute (t : DateTime) : Nat := t.second % 60

/-- The millisecond of the second, the last one during a leap second. -/
def millisecond (t : DateTime) : Nat := min t.nanosecond 999999999 / 1000000

/-- The order in time. -/
def compare (a b : DateTime) : Ordering :=
  (a.date.compare b.date).then
    ((Ord.compare a.second b.second).then (Ord.compare a.nanosecond b.nanosecond))

/-- Midnight of the same day. -/
def midnight (t : DateTime) : DateTime := ⟨t.date, 0, 0, by omega, by omega⟩

/-- The time since midnight. -/
def timeOfDay (t : DateTime) : Duration :=
  ⟨t.second * 1000000000 + t.nanosecond, by
    have h₁ := t.second_lt
    have h₂ := t.nanosecond_lt
    unfold longest
    omega⟩

/-- The nanoseconds since the beginning of year one. -/
def nanoseconds (t : DateTime) : Int :=
  (t.date.dayNumber * 86400 + t.second) * 1000000000 + t.nanosecond

/-- The ticks since the beginning of year one, ten to each whole microsecond, if they fit 64
bits. -/
def ticks? (t : DateTime) : Option Int64 := Number.narrow? (t.nanoseconds.tdiv 1000 * 10)

/-- The second as it is shown. -/
def shownSecond (t : DateTime) : Nat :=
  if t.nanosecond < 1000000000 then t.secondOfMinute else t.secondOfMinute + 1

/-- Hour and minute, in the form 14:05. -/
def shortTime (t : DateTime) : List Char :=
  Number.padded 2 t.hour ++ ':' :: Number.padded 2 t.minute

/-- Hour, minute and second, in the form 14:05:07. -/
def longTime (t : DateTime) : List Char :=
  t.shortTime ++ ':' :: Number.padded 2 t.shownSecond

/-- Month, day and year, in the form 03/09/2024. -/
def shortDate (t : DateTime) : List Char :=
  Number.padded 2 t.date.month ++ '/' :: (Number.padded 2 t.date.day ++ '/' :: t.date.yearText)

/-- The date in words, in the form Saturday, March 9, 2024. -/
def longDate (t : DateTime) : List Char :=
  t.date.weekdayName.toList ++ ',' :: ' ' :: (t.date.monthName.toList ++ ' ' ::
    (Number.digits t.date.day ++ ',' :: ' ' :: t.date.yearText))

/-- Date and time, in the form 2024-03-09 14:05:07. -/
def write (t : DateTime) : List Char :=
  t.date.yearText ++ '-' :: (Number.padded 2 t.date.month ++ '-' ::
    (Number.padded 2 t.date.day ++ ' ' :: t.longTime))

end DateTime

end MicroTemplate.Calendar
