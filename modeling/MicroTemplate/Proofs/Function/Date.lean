import MicroTemplate.Function.Builtin
import MicroTemplate.Proofs.Calendar.Ticks

/-!
# Dates that are given by numbers

The function `date` takes numbers of 64 bits for year, month, day, hour, minute and second. It
succeeds exactly if there is such a day and such a time, and the properties of what it gives are
those numbers again, together with what they say about the calendar: which day of the year and of
the week it is, and how much time is between two dates.
-/

namespace MicroTemplate.Builtin

open Calendar Expression Number

/-- The numbers that a date with a time is given by. -/
structure Fields where
  /-- The year. -/
  year : Int64
  /-- The month, from one. -/
  month : Int64
  /-- The day of the month, from one. -/
  day : Int64
  /-- The hour. -/
  hour : Int64
  /-- The minute. -/
  minute : Int64
  /-- The second. -/
  second : Int64

namespace Fields

/-- The numbers as arguments of a call. -/
def values {α : Type} (f : Fields) : List (Value α) :=
  [.int f.year, .int f.month, .int f.day, .int f.hour, .int f.minute, .int f.second]

/-- The same day at midnight. -/
def midnight (f : Fields) : Fields := { f with hour := 0, minute := 0, second := 0 }

/-- Whether the month has such a day, and the day such a time. -/
def Exist (f : Fields) : Prop :=
  (1 ≤ f.month.toInt ∧ f.month.toInt ≤ 12) ∧
    (1 ≤ f.day.toInt ∧ f.day.toInt ≤ daysInMonth f.year.toInt f.month.toInt.toNat) ∧
    (0 ≤ f.hour.toInt ∧ f.hour.toInt < 24) ∧
    (0 ≤ f.minute.toInt ∧ f.minute.toInt < 60) ∧
    (0 ≤ f.second.toInt ∧ f.second.toInt < 60)

instance (f : Fields) : Decidable f.Exist := inferInstanceAs (Decidable (_ ∧ _))

/-- The seconds since midnight. -/
def timeOfDay (f : Fields) : ℤ :=
  3600 * f.hour.toInt + 60 * f.minute.toInt + f.second.toInt

/-- Whether a moment is the one that is given. -/
structure Give (f : Fields) (t : DateTime) : Prop where
  /-- The year. -/
  year : t.date.year = f.year.toInt
  /-- The month. -/
  month : (t.date.month : ℤ) = f.month.toInt
  /-- The day. -/
  day : (t.date.day : ℤ) = f.day.toInt
  /-- The hour is one of the day. -/
  hour : 0 ≤ f.hour.toInt ∧ f.hour.toInt < 24
  /-- The minute is one of the hour. -/
  minute : 0 ≤ f.minute.toInt ∧ f.minute.toInt < 60
  /-- The second is one of the minute. -/
  second : 0 ≤ f.second.toInt ∧ f.second.toInt < 60
  /-- The time. -/
  timeOfDay : (t.second : ℤ) = f.timeOfDay
  /-- There is no part of a second. -/
  whole : t.nanosecond = 0

/-- What gives a moment exists. -/
theorem Give.exist {f : Fields} {t : DateTime} (h : f.Give t) : f.Exist := by
  have month := t.date.month_mem
  have day := t.date.day_mem
  have place : f.month.toInt.toNat = t.date.month := by rw [← h.month, Int.toNat_natCast]
  rw [Exist, place, ← h.year, ← h.month, ← h.day]
  exact ⟨by omega, by omega, h.hour, h.minute, h.second⟩

/-- The numbers give one moment at most. -/
theorem Give.unique {f : Fields} {t u : DateTime} (ht : f.Give t) (hu : f.Give u) : t = u := by
  have year := ht.year.trans hu.year.symm
  have month := ht.month.trans hu.month.symm
  have day := ht.day.trans hu.day.symm
  have second := ht.timeOfDay.trans hu.timeOfDay.symm
  have whole := ht.whole.trans hu.whole.symm
  obtain ⟨⟨_, _, _, _, _, _⟩, _, _, _, _⟩ := t
  obtain ⟨⟨_, _, _, _, _, _⟩, _, _, _, _⟩ := u
  simp_all

/-- The day begins with the moment that its numbers give at midnight. -/
theorem Give.midnight {f : Fields} {t : DateTime} (h : f.Give t) : f.midnight.Give t.midnight := by
  have zero : 0 ≤ (0 : Int64).toInt ∧ (0 : Int64).toInt < 24 ∧ (0 : Int64).toInt < 60 := by decide
  exact ⟨h.year, h.month, h.day, ⟨zero.1, zero.2.1⟩, ⟨zero.1, zero.2.2⟩, ⟨zero.1, zero.2.2⟩, rfl,
    rfl⟩

end Fields

/-! ## The call -/

section

variable {α : Type}

/-- A part of a date that is an integer is taken if it is a natural number of 32 bits. -/
theorem partAt_int {f : Builtin} {args : List (Value α)} {i : ℕ} {n : Int64}
    (h : args[i]? = some (.int n)) :
    f.partAt args i =
      if 0 ≤ n.toInt ∧ n.toInt < 4294967296 then .ok n.toInt.toNat
      else .error (f.name ++ ": argument " ++ decimal i ++ " out of range") := by
  have given : f.intAt args i = .ok n.toInt := by
    rw [intAt, h]
    rfl
  rw [partAt, given]
  rfl

theorem partAt_eq_ok_iff {f : Builtin} {args : List (Value α)} {i : ℕ} {n : Int64}
    (h : args[i]? = some (.int n)) {k : ℕ} :
    f.partAt args i = .ok k ↔ (k : ℤ) = n.toInt ∧ n.toInt < 4294967296 := by
  rw [partAt_int h]
  split
  · rw [Except.ok.injEq]
    omega
  · simp only [reduceCtorEq, false_iff]
    omega

end

/-- What a moment consists of that is found. -/
theorem of?_eq_some {date : Date} {hour minute second : ℕ} {t : DateTime}
    (h : DateTime.of? date hour minute second = some t) :
    t.date = date ∧ (hour < 24 ∧ minute < 60 ∧ second < 60) ∧
      t.second = hour * 3600 + minute * 60 + second ∧ t.nanosecond = 0 := by
  rw [DateTime.of?] at h
  split at h
  · next bounds =>
    cases h
    exact ⟨rfl, bounds, rfl, rfl⟩
  · cases h

variable {α : Type} [HostObject α] (clock : DateTime)

/-- What the function gives is the moment that is given by the numbers. -/
theorem exists_give_of_call_date {f : Fields} {v : Value α}
    (h : Builtin.date.call clock f.values = .ok v) : ∃ t, v = .dateTime t ∧ f.Give t := by
  rw [call, moment] at h
  obtain ⟨year, hyear, h⟩ := bind_eq_ok h
  cases hyear
  split at h
  · cases h
  · obtain ⟨month, hmonth, h⟩ := bind_eq_ok h
    obtain ⟨day, hday, h⟩ := bind_eq_ok h
    obtain ⟨⟨hour, minute, second⟩, htime, h⟩ := bind_eq_ok h
    rw [timeParts, if_pos (by simp [Fields.values])] at htime
    obtain ⟨hour', hhour, htime⟩ := bind_eq_ok htime
    obtain ⟨minute', hminute, htime⟩ := bind_eq_ok htime
    obtain ⟨second', hsecond, htime⟩ := bind_eq_ok htime
    cases htime
    rw [partAt_eq_ok_iff rfl] at hmonth hday hhour hminute hsecond
    dsimp only at h
    split at h
    · next t ht =>
      cases h
      obtain ⟨date, hdate, ht⟩ := Option.bind_eq_some_iff.1 ht
      obtain ⟨sameYear, sameMonth, sameDay⟩ := Date.of?_year_month_day hdate
      obtain ⟨rfl, bounds, seconds, whole⟩ := of?_eq_some ht
      refine ⟨t, rfl, sameYear, ?_, ?_, ?_, ?_, ?_, ?_, whole⟩
      · rw [sameMonth, hmonth.1]
      · rw [sameDay, hday.1]
      · omega
      · omega
      · omega
      · rw [Fields.timeOfDay]
        omega
    · cases h

/-- If there are such a day and such a time, the function succeeds. -/
theorem exists_call_date {f : Fields}
    (hy : firstYear ≤ f.year.toInt ∧ f.year.toInt ≤ lastYear) (h : f.Exist) :
    ∃ v : Value α, Builtin.date.call clock f.values = .ok v := by
  obtain ⟨month, day, hour, minute, second⟩ := h
  have most := daysInMonth_le f.year.toInt f.month.toInt.toNat
  have first : firstYear = -262143 := rfl
  have last : lastYear = 262142 := rfl
  have part {i : ℕ} {n : Int64} (hi : (f.values : List (Value α))[i]? = some (.int n))
      (lower : 0 ≤ n.toInt) (upper : n.toInt < 4294967296) :
      Builtin.date.partAt (f.values : List (Value α)) i = .ok n.toInt.toNat :=
    (partAt_eq_ok_iff hi).2 ⟨by omega, upper⟩
  have hyear : Builtin.date.intAt (f.values : List (Value α)) 0 = .ok f.year.toInt := rfl
  have hmonth := part (i := 1) rfl (by omega) (by omega)
  have hday := part (i := 2) rfl (by omega) (by omega)
  have hhour := part (i := 3) rfl hour.1 (by omega)
  have hminute := part (i := 4) rfl minute.1 (by omega)
  have hsecond := part (i := 5) rfl second.1 (by omega)
  have htime : Builtin.date.timeParts (f.values : List (Value α)) =
      .ok (f.hour.toInt.toNat, f.minute.toInt.toNat, f.second.toInt.toNat) := by
    rw [timeParts, if_pos (by simp [Fields.values]), hhour, hminute, hsecond]
    rfl
  have hdate : ∃ d, Date.of? f.year.toInt f.month.toInt.toNat f.day.toInt.toNat = some d := by
    rw [Date.of?, dif_pos ⟨hy, by omega, by omega⟩]
    exact ⟨_, rfl⟩
  obtain ⟨d, hd⟩ := hdate
  have hmoment : ∃ t, DateTime.of? d f.hour.toInt.toNat f.minute.toInt.toNat
      f.second.toInt.toNat = some t := by
    rw [DateTime.of?, dif_pos (by omega)]
    exact ⟨_, rfl⟩
  obtain ⟨t, ht⟩ := hmoment
  refine ⟨.dateTime t, ?_⟩
  rw [call, moment, hyear, ok_bind, if_neg (by omega), hmonth, ok_bind, hday, ok_bind, htime,
    ok_bind]
  dsimp only
  rw [hd, Option.bind_some, ht]
  rfl

/-! ## What the dates say -/

theorem call_date_iff {f : Fields} {t : DateTime} :
    Builtin.date.call clock f.values = .ok (.dateTime t : Value α) ↔ f.Give t := by
  constructor
  · intro h
    obtain ⟨u, hu, give⟩ := exists_give_of_call_date clock h
    cases hu
    exact give
  · intro give
    have year := t.date.year_mem
    rw [give.year] at year
    obtain ⟨v, hv⟩ := exists_call_date (α := α) clock year give.exist
    obtain ⟨u, rfl, give'⟩ := exists_give_of_call_date clock hv
    rw [hv, give.unique give']

/-- A number is a property again. -/
theorem ofInt_eq {β : Type} {n : ℤ} {k : Int64} (h : n = k.toInt) :
    (Value.ofInt n : Value β) = .int k := by
  rw [Value.ofInt, h, Int64.ofInt_toInt]

section

variable {f g : Fields} {t u : DateTime} (types : Option (TypeRegistry α))

/-- The numbers that a date is given by are its properties. -/
theorem properties_of_give (h : f.Give t) :
    let property (name : String) := (Value.dateTime t : Value α).property types name
    property "Year" = .int f.year ∧ property "Month" = .int f.month ∧ property "Day" = .int f.day ∧
      property "Hour" = .int f.hour ∧ property "Minute" = .int f.minute ∧
      property "Second" = .int f.second := by
  intro property
  have time := h.timeOfDay
  have hour := h.hour
  have minute := h.minute
  have second := h.second
  rw [Fields.timeOfDay] at time
  refine ⟨ofInt_eq h.year, ofInt_eq h.month, ofInt_eq h.day, ofInt_eq ?_, ofInt_eq ?_,
    ofInt_eq ?_⟩
  · rw [DateTime.hour]
    omega
  · rw [DateTime.minute]
    omega
  · rw [DateTime.secondOfMinute]
    omega

/-- The day of the year is a property that counts the earlier days of the year. -/
theorem exists_property_dayOfYear (t : DateTime) :
    ∃ k : Int64, (Value.dateTime t : Value α).property types "DayOfYear" = .int k ∧
      k.toInt = 1 + {e : Date | e.year = t.date.year ∧ e < t.date}.ncard := by
  have day := t.date.dayOfYear_mem
  have small : |(t.date.dayOfYear : ℤ)| < 2 ^ 63 := by
    rw [yearLength] at day
    rw [Nat.abs_cast]
    split at day <;> omega
  obtain ⟨k, hk, value⟩ := Value.exists_ofInt (α := α) small
  refine ⟨k, hk, ?_⟩
  rw [value, Date.dayOfYear_eq_ncard]
  push_cast
  rfl

/-- Between two dates there are ten million ticks for each second. -/
theorem ticks_sub_of_give (ht : f.Give t) (hu : g.Give u) :
    u.countedTicks - t.countedTicks =
      10 ^ 7 * (t.date.daysUntil u.date * 86400 + (g.timeOfDay - f.timeOfDay)) := by
  have whole {f : Fields} {t : DateTime} (h : f.Give t) :
      t.countedTicks = (t.date.dayNumber * 86400 + f.timeOfDay) * 10 ^ 7 := by
    have time : t.nanoseconds =
        (t.date.dayNumber * 86400 + f.timeOfDay) * 10 ^ 6 * 10 * 100 := by
      rw [DateTime.nanoseconds, h.whole, h.timeOfDay]
      ring
    rw [DateTime.countedTicks_eq, DateTime.ticksSinceYearOne_eq, time,
      Int.mul_tdiv_cancel _ (by decide), Int.mul_tdiv_cancel _ (by decide)]
    ring
  rw [whole ht, whole hu, Date.daysUntil_eq]
  ring

end

/-- Dates are read back from their properties. The function succeeds exactly if there are such a day
and such a time. Then the numbers given are properties again, the date is the same day at midnight,
the time of day is that of the numbers, and the day of the year is one more than the number of
earlier days of the year. Between two dates there are ten million ticks for each second, and from
each day to the next the day of the week is the next one. -/
theorem dates_read_back (types : Option (TypeRegistry α)) (f : Fields) :
    let date (f : Fields) : Except String (Value α) := Builtin.date.call clock f.values
    let property (t : DateTime) (name : String) := (Value.dateTime t : Value α).property types name
    ((∃ v, date f = .ok v) ↔ (firstYear ≤ f.year.toInt ∧ f.year.toInt ≤ lastYear) ∧ f.Exist) ∧
      ∀ v, date f = .ok v → ∃ t, v = .dateTime t ∧
        (property t "Year" = .int f.year ∧ property t "Month" = .int f.month ∧
          property t "Day" = .int f.day ∧ property t "Hour" = .int f.hour ∧
          property t "Minute" = .int f.minute ∧ property t "Second" = .int f.second) ∧
        date f.midnight = .ok (property t "Date") ∧
        (∃ d : Duration, property t "TimeOfDay" = .duration d ∧
          d.nanoseconds = f.timeOfDay * 10 ^ 9) ∧
        (∃ k : Int64, property t "DayOfYear" = .int k ∧
          k.toInt = 1 + {e : Date | e.year = t.date.year ∧ e < t.date}.ncard) ∧
        ∀ g u, date g = .ok (.dateTime u) →
          (property t "Ticks" ≠ .null → property u "Ticks" ≠ .null →
            ∃ m n : Int64, property t "Ticks" = .int m ∧ property u "Ticks" = .int n ∧
              n.toInt - m.toInt =
                10 ^ 7 * (t.date.daysUntil u.date * 86400 + (g.timeOfDay - f.timeOfDay))) ∧
          (t.date ⋖ u.date → ∃ (k : ℕ) (name next : String),
            Date.weekdayNames[k]? = some name ∧ Date.weekdayNames[(k + 1) % 7]? = some next ∧
              property t "DayOfWeek" = .text name ∧ property u "DayOfWeek" = .text next) := by
  intro date property
  constructor
  · constructor
    · rintro ⟨v, hv⟩
      obtain ⟨t, rfl, give⟩ := exists_give_of_call_date clock hv
      have year := t.date.year_mem
      rw [give.year] at year
      exact ⟨year, give.exist⟩
    · rintro ⟨year, exist⟩
      exact exists_call_date clock year exist
  · intro v hv
    obtain ⟨t, rfl, give⟩ := exists_give_of_call_date clock hv
    refine ⟨t, rfl, properties_of_give types give, (call_date_iff clock).2 give.midnight,
      ⟨t.timeOfDay, rfl, ?_⟩, exists_property_dayOfYear types t, fun g u given =>
        ⟨fun ht hu => ?_, fun next => ?_⟩⟩
    · have time : t.timeOfDay.nanoseconds = t.second * 1000000000 + t.nanosecond := rfl
      rw [time, give.whole, give.timeOfDay, Nat.cast_zero, add_zero]
      rfl
    · rw [ne_eq, Value.property_ticks_eq_null_iff, not_not] at ht hu
      obtain ⟨m, hm, first⟩ := Value.exists_property_ticks types t ht
      obtain ⟨n, hn, second⟩ := Value.exists_property_ticks types u hu
      refine ⟨m, n, hm, hn, ?_⟩
      rw [first, second]
      exact ticks_sub_of_give give ((call_date_iff clock).1 given)
    · refine ⟨t.date.weekday, _, _, t.date.weekdayNames_weekday, ?_, rfl, rfl⟩
      rw [← Date.weekday_of_covBy next]
      exact u.date.weekdayNames_weekday

/-- There is a last second of February in the leap year 2000, and none in the year 1900. It is read
back from its properties; a Tuesday ends with it, and Wednesday begins ten million ticks later. -/
theorem dates_read_back_leap_day :
    let day : Date := ⟨1, 1, 1, by decide, by decide, by decide⟩
    let clock : DateTime := ⟨day, 0, 0, by decide, by decide⟩
    let date (f : Fields) : Except String (Value Empty) := Builtin.date.call clock f.values
    let property (t : DateTime) (name : String) :=
      (Value.dateTime t : Value Empty).property none name
    (∃ t u, (date ⟨2000, 2, 29, 23, 59, 59⟩ = .ok (.dateTime t) ∧
          date ⟨2000, 3, 1, 0, 0, 0⟩ = .ok (.dateTime u)) ∧
        (property t "Year" = .int 2000 ∧ property t "Month" = .int 2 ∧
          property t "Day" = .int 29 ∧ property t "Hour" = .int 23 ∧
          property t "Minute" = .int 59 ∧ property t "Second" = .int 59) ∧
        date ⟨2000, 2, 29, 0, 0, 0⟩ = .ok (property t "Date") ∧
        (∃ d : Duration, property t "TimeOfDay" = .duration d ∧ d.nanoseconds = 86399 * 10 ^ 9) ∧
        (∃ m n : Int64, property t "Ticks" = .int m ∧ property u "Ticks" = .int n ∧
          n.toInt - m.toInt = 10 ^ 7) ∧
        property t "DayOfWeek" = .text "Tuesday" ∧ property u "DayOfWeek" = .text "Wednesday") ∧
      ¬∃ v, date ⟨1900, 2, 29, 23, 59, 59⟩ = .ok v := by
  intro day clock date property
  let t : DateTime :=
    ⟨⟨2000, 2, 29, by decide, by decide, by decide⟩, 86399, 0, by decide, by decide⟩
  let u : DateTime := ⟨⟨2000, 3, 1, by decide, by decide, by decide⟩, 0, 0, by decide, by decide⟩
  have last : date ⟨2000, 2, 29, 23, 59, 59⟩ = .ok (.dateTime t) := by
    cbv
  have first : date ⟨2000, 3, 1, 0, 0, 0⟩ = .ok (.dateTime u) := by
    cbv
  have next : t.date ⋖ u.date := Date.covBy_iff.2 (by decide)
  have refused := (dates_read_back (α := Empty) clock none ⟨1900, 2, 29, 23, 59, 59⟩).1
  obtain ⟨w, same, fields, midnight, time, _, later⟩ :=
    (dates_read_back (α := Empty) clock none ⟨2000, 2, 29, 23, 59, 59⟩).2 _ last
  obtain rfl : w = t := by
    injection same with same
    exact same.symm
  obtain ⟨ticks, week⟩ := later ⟨2000, 3, 1, 0, 0, 0⟩ u first
  obtain ⟨m, n, hm, hn, difference⟩ := ticks (by cbv; simp) (by cbv; simp)
  obtain ⟨k, name, following, hk, hfollowing, given, said⟩ := week next
  have tuesday : property t "DayOfWeek" = .text "Tuesday" :=
    congrArg Value.text (by decide : t.date.weekdayName = "Tuesday")
  obtain rfl : name = "Tuesday" := by
    injection given.symm.trans tuesday
  have named : Date.weekdayNames.Nodup := by
    decide
  have second : 1 < Date.weekdayNames.length := by
    decide
  obtain rfl : 1 = k := (List.getElem?_inj second named).1 hk.symm
  obtain rfl : "Wednesday" = following := by
    injection hfollowing
  refine ⟨⟨t, u, ⟨last, first⟩, fields, midnight, time, ⟨m, n, hm, hn, ?_⟩, tuesday, said⟩,
    mt refused.1 (by decide)⟩
  rw [difference, Date.daysUntil_eq, Date.covBy_iff.1 next, add_sub_cancel_left]
  rfl

end MicroTemplate.Builtin
