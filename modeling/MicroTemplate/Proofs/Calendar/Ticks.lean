import MicroTemplate.Proofs.Calendar.Date
import MicroTemplate.Proofs.Calendar.Duration
import MicroTemplate.Proofs.Value.Arithmetic

/-!
# Ticks

A tick is a tenth of a microsecond. The ticks of a moment are counted in whole microseconds since
the beginning of year one, ten to each of them, so that single ticks beside the last whole
microsecond are left out. Where there are none of these, the count is that of all ticks; near the
ends of 64 bits the count that is given may fit although the count of all ticks does not.
-/

namespace MicroTemplate.Calendar.DateTime

open Number

/-! ## Time from one moment to another -/

/-- The nanoseconds from one moment to another one, by the days that are between them. -/
noncomputable def nanosecondsUntil (s t : DateTime) : ℤ :=
  (s.date.daysUntil t.date * 86400 + (t.second - s.second)) * 10 ^ 9 +
    (t.nanosecond - s.nanosecond)

/-- The time between two moments is the difference of their nanoseconds since the first year. -/
theorem nanosecondsUntil_eq (s t : DateTime) :
    s.nanosecondsUntil t = t.nanoseconds - s.nanoseconds := by
  rw [nanosecondsUntil, Date.daysUntil_eq, nanoseconds, nanoseconds]
  ring

/-- The beginning of year one. -/
def yearOne : DateTime :=
  let day := (Date.of? 1 1 1).get rfl
  (DateTime.of? day 0 0 0).get rfl

/-- The whole ticks since the beginning of year one, truncated toward zero. -/
noncomputable def ticksSinceYearOne (t : DateTime) : ℤ := (yearOne.nanosecondsUntil t).tdiv 100

/-- A tick is a hundred nanoseconds. -/
theorem ticksSinceYearOne_eq (t : DateTime) : t.ticksSinceYearOne = t.nanoseconds.tdiv 100 := by
  have beginning : yearOne.nanoseconds = 0 := rfl
  rw [ticksSinceYearOne, nanosecondsUntil_eq, beginning, sub_zero]

/-! ## What is counted -/

/-- The ticks that are counted: those of whole microseconds. -/
noncomputable def countedTicks (t : DateTime) : ℤ :=
  t.ticksSinceYearOne - t.ticksSinceYearOne.tmod 10

/-- Single ticks beside the last whole microsecond are not counted. -/
theorem countedTicks_eq (t : DateTime) :
    t.countedTicks = t.ticksSinceYearOne.tdiv 10 * 10 := by
  have rest := Int.tmod_add_tdiv_mul t.ticksSinceYearOne 10
  rw [countedTicks]
  omega

theorem ticks?_eq (t : DateTime) : t.ticks? = narrow? t.countedTicks := by
  have microseconds : t.ticksSinceYearOne.tdiv 10 = t.nanoseconds.tdiv 1000 := by
    rw [ticksSinceYearOne_eq]
    exact tdiv_tdiv _ 100 10
  rw [ticks?, countedTicks_eq, microseconds]

/-- No more ticks are counted than there are. -/
theorem inRange_countedTicks {t : DateTime} (h : Value.InRange t.ticksSinceYearOne) :
    Value.InRange t.countedTicks := by
  have whole : (t.ticksSinceYearOne.tdiv 10).natAbs = t.ticksSinceYearOne.natAbs / 10 :=
    Int.natAbs_tdiv _ _
  rw [Value.InRange] at h ⊢
  rw [countedTicks_eq]
  omega

end MicroTemplate.Calendar.DateTime

namespace MicroTemplate.Value

open Calendar Calendar.DateTime Number

variable {α : Type} [HostObject α]

/-- Whether the property is the number of whole ticks since the beginning of year one if that number
fits 64 bits, and null if it does not. -/
def CountsTicks (types : Option (TypeRegistry α)) (t : DateTime) : Prop :=
  (InRange t.ticksSinceYearOne → ∃ k : Int64,
      (Value.dateTime t : Value α).property types "Ticks" = .int k ∧
        k.toInt = t.ticksSinceYearOne) ∧
    (¬InRange t.ticksSinceYearOne → (Value.dateTime t : Value α).property types "Ticks" = .null)

variable (types : Option (TypeRegistry α)) (t : DateTime)

theorem property_ticks :
    (Value.dateTime t : Value α).property types "Ticks" =
      ((narrow? t.countedTicks).map .int).getD .null := by
  rw [← ticks?_eq]
  rfl

theorem property_ticks_eq_int_iff {k : Int64} :
    (Value.dateTime t : Value α).property types "Ticks" = .int k ↔ k.toInt = t.countedTicks := by
  rw [← narrow?_eq_some_iff, property_ticks]
  cases narrow? t.countedTicks <;> simp

/-- A number of ticks that is out of range is shown as null. -/
theorem property_ticks_eq_null_iff :
    (Value.dateTime t : Value α).property types "Ticks" = .null ↔ ¬InRange t.countedTicks := by
  rw [← narrow?_eq_none_iff, property_ticks]
  cases narrow? t.countedTicks <;> simp

/-- Ticks that fit 64 bits are given. -/
theorem exists_property_ticks (h : InRange t.countedTicks) :
    ∃ k : Int64, (Value.dateTime t : Value α).property types "Ticks" = .int k ∧
      k.toInt = t.countedTicks := by
  cases hn : narrow? t.countedTicks with
  | none => exact absurd h (narrow?_eq_none_iff.1 hn)
  | some k =>
    have counted := narrow?_eq_some_iff.1 hn
    exact ⟨k, (property_ticks_eq_int_iff types t).2 counted, counted⟩

/-- The ticks of a moment are those of the whole microseconds since the beginning of year one, and
null if these do not fit 64 bits. So they are all of its ticks, or null because these do not fit,
exactly if there are none beside the last whole microsecond or if not even those of the whole
microseconds fit. -/
theorem ticks_of_whole_microseconds :
    (InRange t.countedTicks → ∃ k : Int64,
        (Value.dateTime t : Value α).property types "Ticks" = .int k ∧
          k.toInt = t.ticksSinceYearOne - t.ticksSinceYearOne.tmod 10) ∧
      (¬InRange t.countedTicks → (Value.dateTime t : Value α).property types "Ticks" = .null) ∧
      (CountsTicks types t ↔ t.ticksSinceYearOne.tmod 10 = 0 ∨ ¬InRange t.countedTicks) := by
  have all : t.countedTicks = t.ticksSinceYearOne ↔ t.ticksSinceYearOne.tmod 10 = 0 := by
    rw [countedTicks]
    omega
  refine ⟨exists_property_ticks types t, (property_ticks_eq_null_iff types t).2, ?_, ?_⟩
  · rintro ⟨given, missing⟩
    by_cases fits : InRange t.ticksSinceYearOne
    · obtain ⟨k, hk, count⟩ := given fits
      have counted := (property_ticks_eq_int_iff types t).1 hk
      exact .inl (all.1 (counted.symm.trans count))
    · exact .inr ((property_ticks_eq_null_iff types t).1 (missing fits))
  · rintro (none | large)
    · have count := all.2 none
      refine ⟨fun fits => ?_, fun large => (property_ticks_eq_null_iff types t).2 (by rwa [count])⟩
      obtain ⟨k, hk, counted⟩ := exists_property_ticks types t (inRange_countedTicks fits)
      exact ⟨k, hk, counted.trans count⟩
    · exact ⟨fun fits => absurd (inRange_countedTicks fits) large,
        fun _ => (property_ticks_eq_null_iff types t).2 large⟩

/-- A tenth of a microsecond after the beginning of year one, one tick has passed and none is
given. -/
theorem ticks_below_microsecond :
    ¬ ∀ t : DateTime, t.nanosecond < 1000000000 → CountsTicks (α := Empty) none t := by
  intro counts
  let t : DateTime := ⟨yearOne.date, 0, 100, by decide, by decide⟩
  have one : t.ticksSinceYearOne = 1 := by
    rw [ticksSinceYearOne_eq]
    cbv
  have zero : (Value.dateTime t : Value Empty).property none "Ticks" = .int 0 := by
    rw [property_ticks_eq_int_iff, countedTicks, one]
    rfl
  obtain ⟨k, hk, count⟩ := (counts t (by decide)).1 (by rw [one]; decide)
  rw [zero] at hk
  cases hk
  rw [one] at count
  cases count

end MicroTemplate.Value
