import Mathlib
import MicroTemplate.Member.Property

/-!
# The days of the calendar are counted without gaps

Days are put in order by year, month and day of the month. The day number is computed from the rule
for leap years and the lengths of months, and every day has the number after that of the day before:
neither at the end of a month nor at that of a year, a century or four centuries is there a gap. So
differences of day numbers are counts of days.
-/

namespace MicroTemplate.Calendar

/-! ## Years and months -/

/-- The number of days of a year before a month. -/
def daysBeforeMonth (year : ℤ) (month : ℕ) : ℕ := ((monthLengths year).take (month - 1)).sum

/-- The number of days of a year. -/
def yearLength (year : ℤ) : ℕ := if isLeap year then 366 else 365

variable (year : ℤ)

theorem daysBeforeMonth_one : daysBeforeMonth year 1 = 0 := rfl

theorem daysBeforeMonth_thirteen : daysBeforeMonth year 13 = yearLength year := by
  rw [daysBeforeMonth, yearLength, monthLengths]
  split <;> rfl

/-- A month begins where the month before it ends. -/
theorem daysBeforeMonth_succ {month : ℕ} (h : 1 ≤ month ∧ month ≤ 12) :
    daysBeforeMonth year (month + 1) = daysBeforeMonth year month + daysInMonth year month := by
  have known : month - 1 < (monthLengths year).length := by
    have twelve : (monthLengths year).length = 12 := rfl
    omega
  have place : month + 1 - 1 = month - 1 + 1 := by omega
  rw [daysBeforeMonth, daysBeforeMonth, daysInMonth, place, List.sum_take_succ _ _ known,
    List.getD_eq_getElem _ _ known]

/-- A month ends before a later month begins, or there. -/
theorem daysBeforeMonth_add_le {month later : ℕ} (hm : 1 ≤ month) (hl : month < later)
    (hy : later ≤ 13) :
    daysBeforeMonth year month + daysInMonth year month ≤ daysBeforeMonth year later := by
  induction later, hl using Nat.le_induction with
  | base => exact (daysBeforeMonth_succ year ⟨hm, by omega⟩).ge
  | succ later hl ih =>
    have next : daysBeforeMonth year (later + 1) =
        daysBeforeMonth year later + daysInMonth year later :=
      daysBeforeMonth_succ year ⟨by omega, by omega⟩
    have earlier := ih (by omega)
    omega

/-- Every month has a first day. -/
theorem one_le_daysInMonth {month : ℕ} (h : 1 ≤ month ∧ month ≤ 12) :
    1 ≤ daysInMonth year month := by
  obtain ⟨lower, upper⟩ := h
  rw [daysInMonth, monthLengths]
  interval_cases month <;> split <;> decide

/-- No month has more than 31 days. -/
theorem daysInMonth_le (month : ℕ) : daysInMonth year month ≤ 31 := by
  rw [daysInMonth, List.getD_eq_getElem?_getD]
  cases hm : (monthLengths year)[month - 1]? with
  | none => exact Nat.zero_le 31
  | some length =>
    have all : ∀ n ∈ monthLengths year, n ≤ 31 := by
      rw [monthLengths]
      split <;> decide
    exact all length (List.mem_of_getElem? hm)

namespace Date

/-- The days before a year by quotients that are rounded down. -/
theorem daysBefore_eq :
    daysBefore year =
      365 * (year - 1) + (year - 1) / 4 - (year - 1) / 100 + (year - 1) / 400 := by
  have rounded (k : ℤ) (hk : 0 ≤ k) : (year - 1).fdiv k = (year - 1) / k :=
    Int.fdiv_eq_ediv_of_nonneg _ hk
  rw [daysBefore, rounded 4 (by decide), rounded 100 (by decide), rounded 400 (by decide)]

/-- A year begins where the year before it ends. -/
theorem daysBefore_succ : daysBefore (year + 1) = daysBefore year + yearLength year := by
  have leap : isLeap year = true ↔ year % 4 = 0 ∧ (year % 100 ≠ 0 ∨ year % 400 = 0) := by
    simp [isLeap]
  rw [daysBefore_eq, daysBefore_eq, yearLength]
  split
  · next h =>
    have rule := leap.1 h
    omega
  · next h =>
    have rule := mt leap.2 h
    omega

/-- A year ends before a later year begins, or there. -/
theorem daysBefore_add_le {later : ℤ} (h : year < later) :
    daysBefore year + yearLength year ≤ daysBefore later := by
  rw [← daysBefore_succ, daysBefore_eq, daysBefore_eq]
  omega

/-! ## The order of days -/

/-- What days are put in order by. -/
def key (d : Date) : ℤ ×ₗ ℕ ×ₗ ℕ := toLex (d.year, toLex (d.month, d.day))

theorem key_injective : Function.Injective key := by
  rintro ⟨_, _, _, _, _, _⟩ ⟨_, _, _, _, _, _⟩ h
  cases h
  rfl

instance : LinearOrder Date := LinearOrder.lift' key key_injective

/-- A day is before another one if its year is, or in the same year its month, or in the same month
its day. -/
theorem lt_iff {a b : Date} :
    a < b ↔ a.year < b.year ∨
      a.year = b.year ∧ (a.month < b.month ∨ a.month = b.month ∧ a.day < b.day) := by
  have lex : a < b ↔ a.key < b.key := Iff.rfl
  rw [lex, key, key, Prod.Lex.toLex_lt_toLex, Prod.Lex.toLex_lt_toLex]

variable (d : Date)

/-- The day of the year counts the days of earlier months. -/
theorem dayOfYear_eq : d.dayOfYear = daysBeforeMonth d.year d.month + d.day := by
  have sum (lengths : List ℕ) (n : ℕ) : lengths.foldr (· + ·) n = lengths.sum + n := by
    induction lengths with
    | nil => simp
    | cons l lengths ih => rw [List.foldr_cons, ih, List.sum_cons, Nat.add_assoc]
  exact sum _ _

/-- The number of a day counts the days of earlier years and months. -/
theorem dayNumber_eq :
    d.dayNumber = daysBefore d.year + daysBeforeMonth d.year d.month + d.day - 1 := by
  rw [dayNumber, dayOfYear_eq]
  omega

/-- The day is one of its year. -/
theorem dayOfYear_mem : 1 ≤ d.dayOfYear ∧ d.dayOfYear ≤ yearLength d.year := by
  have month := d.month_mem
  have day := d.day_mem
  have within := daysBeforeMonth_add_le d.year month.1 (Nat.lt_succ_of_le month.2) le_rfl
  rw [daysBeforeMonth_thirteen] at within
  rw [dayOfYear_eq]
  omega

/-- A later day has a greater number. -/
theorem dayNumber_strictMono : StrictMono dayNumber := by
  intro a b h
  have first := a.dayOfYear_mem
  have second := b.dayOfYear_mem
  rw [dayNumber, dayNumber]
  rcases lt_iff.1 h with earlier | ⟨same, earlier⟩
  · have years := daysBefore_add_le a.year earlier
    omega
  · rw [dayOfYear_eq, dayOfYear_eq, same]
    rcases earlier with earlier | ⟨same, earlier⟩
    · have day := a.day_mem
      have day' := b.day_mem
      have months := daysBeforeMonth_add_le a.year a.month_mem.1 earlier
        (Nat.le_succ_of_le b.month_mem.2)
      rw [same] at months day
      omega
    · rw [same]
      omega

/-- No day is after the last one of the last year. -/
theorem dayNumber_lt : d.dayNumber < daysBefore (lastYear + 1) := by
  have day := d.dayOfYear_mem
  have year := daysBefore_add_le d.year (Int.lt_add_one_of_le d.year_mem.2)
  rw [dayNumber]
  omega

/-- Every day but the last has one with the next number. -/
theorem exists_next (h : d.dayNumber + 1 < daysBefore (lastYear + 1)) :
    ∃ e : Date, e.dayNumber = d.dayNumber + 1 := by
  obtain ⟨year, month, day, hy, hm, hd⟩ := d
  by_cases within : day + 1 ≤ daysInMonth year month
  · -- The next day of the month.
    refine ⟨⟨year, month, day + 1, hy, hm, ⟨by omega, within⟩⟩, ?_⟩
    rw [dayNumber_eq, dayNumber_eq]
    dsimp only
    omega
  · have whole : day = daysInMonth year month := by omega
    have ends := daysBeforeMonth_succ year hm
    rw [dayNumber_eq] at h ⊢
    dsimp only at h ⊢
    by_cases december : month = 12
    · -- The first day of the next year.
      have length : daysBeforeMonth year (12 + 1) = yearLength year :=
        daysBeforeMonth_thirteen year
      have years := daysBefore_succ year
      rw [december] at ends whole h ⊢
      have more : year < lastYear := by
        by_contra last
        have same : year = lastYear := by omega
        rw [← same] at h
        omega
      have later : firstYear ≤ year + 1 ∧ year + 1 ≤ lastYear := by omega
      refine ⟨⟨year + 1, 1, 1, later, by decide, ⟨le_rfl, one_le_daysInMonth _ (by decide)⟩⟩, ?_⟩
      rw [dayNumber_eq]
      dsimp only
      rw [daysBeforeMonth_one]
      omega
    · -- The first day of the next month.
      have next : 1 ≤ month + 1 ∧ month + 1 ≤ 12 := by omega
      refine ⟨⟨year, month + 1, 1, hy, next, ⟨le_rfl, one_le_daysInMonth year next⟩⟩, ?_⟩
      rw [dayNumber_eq]
      dsimp only
      omega

/-! ## Counts of days -/

/-- Every number between those of two days is that of a day. -/
theorem exists_dayNumber_eq {a b : Date} {n : ℤ} (ha : a.dayNumber ≤ n) (hb : n ≤ b.dayNumber) :
    ∃ c : Date, c.dayNumber = n := by
  induction n, ha using Int.leInduction with
  | base => exact ⟨a, rfl⟩
  | succ n ha ih =>
    obtain ⟨c, rfl⟩ := ih (by omega)
    have last := b.dayNumber_lt
    exact c.exists_next (by omega)

/-- As many days are from one day on and before another one as their numbers differ by. -/
theorem ncard_Ico (a b : Date) : (Set.Ico a b).ncard = (b.dayNumber - a.dayNumber).toNat := by
  have image : dayNumber '' Set.Ico a b = (Finset.Ico a.dayNumber b.dayNumber : Set ℤ) := by
    ext n
    simp only [Set.mem_image, Set.mem_Ico, Finset.coe_Ico]
    constructor
    · rintro ⟨c, ⟨from_a, before_b⟩, rfl⟩
      exact ⟨dayNumber_strictMono.monotone from_a, dayNumber_strictMono before_b⟩
    · rintro ⟨from_a, before_b⟩
      obtain ⟨c, rfl⟩ := exists_dayNumber_eq from_a (le_of_lt before_b)
      exact ⟨c, ⟨dayNumber_strictMono.le_iff_le.1 from_a,
        dayNumber_strictMono.lt_iff_lt.1 before_b⟩, rfl⟩
  rw [← Set.ncard_image_of_injective _ dayNumber_strictMono.injective, image,
    Set.ncard_coe_finset, Int.card_Ico]

/-- How many days a day comes after another one; negative if it comes before. -/
noncomputable def daysUntil (a b : Date) : ℤ := (Set.Ico a b).ncard - (Set.Ico b a).ncard

theorem daysUntil_eq (a b : Date) : a.daysUntil b = b.dayNumber - a.dayNumber := by
  rw [daysUntil, ncard_Ico, ncard_Ico]
  omega

/-- The next day is the one that has the next number. -/
theorem covBy_iff {a b : Date} : a ⋖ b ↔ b.dayNumber = a.dayNumber + 1 := by
  constructor
  · intro h
    have later := dayNumber_strictMono h.lt
    have from_a : a.dayNumber ≤ a.dayNumber + 1 := by omega
    obtain ⟨c, hc⟩ := exists_dayNumber_eq from_a (Int.add_one_le_of_lt later)
    have after : a.dayNumber < c.dayNumber := by omega
    by_contra gap
    have before : c.dayNumber < b.dayNumber := by omega
    exact h.2 (dayNumber_strictMono.lt_iff_lt.1 after) (dayNumber_strictMono.lt_iff_lt.1 before)
  · intro next
    refine ⟨dayNumber_strictMono.lt_iff_lt.1 (by omega), fun c after before => ?_⟩
    have after := dayNumber_strictMono after
    have before := dayNumber_strictMono before
    omega

/-- The day of the year is one more than the number of earlier days of the year. -/
theorem dayOfYear_eq_ncard (d : Date) :
    d.dayOfYear = 1 + {e : Date | e.year = d.year ∧ e < d}.ncard := by
  let first : Date := ⟨d.year, 1, 1, d.year_mem, by decide,
    ⟨le_rfl, one_le_daysInMonth d.year (by decide)⟩⟩
  have number : first.dayNumber = daysBefore d.year := by
    rw [dayNumber_eq]
    dsimp only [first]
    rw [daysBeforeMonth_one]
    omega
  have days : {e : Date | e.year = d.year ∧ e < d} = Set.Ico first d := by
    ext e
    have month := e.month_mem
    have day := e.day_mem
    rw [Set.mem_ofPred_eq, Set.mem_Ico, ← not_lt, lt_iff, lt_iff]
    dsimp only [first]
    omega
  have count := ncard_Ico first d
  rw [days, count, number, dayNumber]
  have day := d.dayOfYear_mem
  omega

/-! ## The week -/

/-- The next day is the next one of the week. -/
theorem weekday_of_covBy {a b : Date} (h : a ⋖ b) : b.weekday = (a.weekday + 1) % 7 := by
  rw [weekday, weekday, covBy_iff.1 h]
  omega

/-- Each day of the week has a name. -/
theorem weekdayNames_weekday (d : Date) : weekdayNames[d.weekday]? = some d.weekdayName := by
  have known : d.weekday < weekdayNames.length := by
    have seven : weekdayNames.length = 7 := rfl
    rw [seven, weekday]
    omega
  rw [weekdayName, List.getElem?_eq_getElem known, List.getD_eq_getElem _ _ known]

example : (of? 2024 3 9).map weekdayName = some "Saturday" := by decide

end Date

end MicroTemplate.Calendar
