import MicroTemplate.Member.Property
import MicroTemplate.Proofs.Number.Decimal

/-!
# Spans of time are taken apart without loss

Days, hours, minutes, seconds and milliseconds of a span add up to its whole seconds and whole
milliseconds, and each of them is smaller than the next larger unit. They are computed from the
signed span, while the two texts are written from the span without its sign and have the sign in
front. Both texts are read back here, by readers that know nothing of how they were written.
-/

namespace MicroTemplate.Calendar

/-! ## Counts truncated toward zero -/

/-- Units of units are counted like units. -/
theorem tdiv_tdiv (n : ℤ) (j k : ℕ) : (n.tdiv j).tdiv k = n.tdiv (j * k : ℕ) := by
  obtain ⟨m, rfl | rfl⟩ := n.eq_nat_or_neg
  · rw [← Int.ofNat_tdiv, ← Int.ofNat_tdiv, ← Int.ofNat_tdiv, Nat.div_div_eq_div_mul]
  · rw [Int.neg_tdiv, Int.neg_tdiv, Int.neg_tdiv, ← Int.ofNat_tdiv, ← Int.ofNat_tdiv,
      ← Int.ofNat_tdiv, Nat.div_div_eq_div_mul]

/-- What is left beside a unit is less than the unit, in either direction. -/
theorem abs_tmod_lt (n : ℤ) {k : ℤ} (hk : 0 < k) : |n.tmod k| < k :=
  abs_lt.2 ⟨Int.lt_tmod_of_pos n hk, Int.tmod_lt_of_pos n hk⟩

/-- A count in a larger unit does not have the opposite sign. -/
theorem mul_tdiv_nonneg {n m : ℤ} (h : 0 ≤ n * m) (k : ℕ) : 0 ≤ n * m.tdiv k := by
  rcases mul_nonneg_iff.1 h with ⟨hn, hm⟩ | ⟨hn, hm⟩
  · exact mul_nonneg hn (Int.tdiv_nonneg hm k.cast_nonneg)
  · have opposite := Int.tdiv_nonneg (neg_nonneg.2 hm) k.cast_nonneg
    rw [Int.neg_tdiv] at opposite
    exact mul_nonneg_of_nonpos_of_nonpos hn (neg_nonneg.1 opposite)

/-- What is left beside a unit does not have the opposite sign. -/
theorem mul_tmod_nonneg {n m : ℤ} (h : 0 ≤ n * m) (k : ℕ) : 0 ≤ n * m.tmod k := by
  rcases mul_nonneg_iff.1 h with ⟨hn, hm⟩ | ⟨hn, hm⟩
  · exact mul_nonneg hn (Int.tmod_nonneg k hm)
  · have opposite := Int.tmod_nonneg k (neg_nonneg.2 hm)
    rw [Int.neg_tmod] at opposite
    exact mul_nonneg_of_nonpos_of_nonpos hn (neg_nonneg.1 opposite)

namespace Duration

open Number Text

/-! ## The parts of a span -/

variable (d : Duration)

/-- The parts down to the second make up the whole seconds. -/
theorem seconds_of_parts :
    d.days * 86400 + d.hourPart * 3600 + d.minutePart * 60 + d.secondPart = d.seconds := by
  have minutes : (d.seconds.tdiv 60).tdiv 60 = d.seconds.tdiv 3600 := tdiv_tdiv _ 60 60
  have hours : (d.seconds.tdiv 3600).tdiv 24 = d.seconds.tdiv 86400 := tdiv_tdiv _ 3600 24
  have inMinutes := Int.tmod_add_tdiv_mul d.seconds 60
  have inHours := Int.tmod_add_tdiv_mul (d.seconds.tdiv 60) 60
  have inDays := Int.tmod_add_tdiv_mul (d.seconds.tdiv 3600) 24
  rw [days, hourPart, minutePart, secondPart]
  omega

/-- With the milliseconds they make up the whole milliseconds. -/
theorem milliseconds_of_parts : d.seconds * 1000 + d.millisecondPart = d.milliseconds := by
  have seconds : d.milliseconds.tdiv 1000 = d.seconds := tdiv_tdiv _ 1000000 1000
  have inSeconds := Int.tmod_add_tdiv_mul d.milliseconds 1000
  rw [millisecondPart]
  omega

/-- No part has the sign opposite to the span. -/
theorem sign_of_parts :
    ∀ part ∈ [d.days, d.hourPart, d.minutePart, d.secondPart, d.millisecondPart],
      0 ≤ d.nanoseconds * part := by
  have seconds : 0 ≤ d.nanoseconds * d.seconds :=
    mul_tdiv_nonneg (mul_self_nonneg _) 1000000000
  have milliseconds : 0 ≤ d.nanoseconds * d.milliseconds :=
    mul_tdiv_nonneg (mul_self_nonneg _) 1000000
  simp only [List.forall_mem_cons, List.not_mem_nil, false_implies, implies_true, and_true]
  exact ⟨mul_tdiv_nonneg seconds 86400, mul_tmod_nonneg (mul_tdiv_nonneg seconds 3600) 24,
    mul_tmod_nonneg (mul_tdiv_nonneg seconds 60) 60, mul_tmod_nonneg seconds 60,
    mul_tmod_nonneg milliseconds 1000⟩

/-- What is left beside each unit is less than the unit. -/
theorem abs_parts_lt :
    |d.hourPart| < 24 ∧ |d.minutePart| < 60 ∧ |d.secondPart| < 60 ∧ |d.millisecondPart| < 1000 :=
  ⟨abs_tmod_lt _ (by decide), abs_tmod_lt _ (by decide), abs_tmod_lt _ (by decide),
    abs_tmod_lt _ (by decide)⟩

/-- The days of the longest spans fit 64 bits. -/
theorem abs_days_lt : |d.days| < 2 ^ 63 := by
  have bounded := d.bounded
  have inSeconds : d.seconds.natAbs = d.nanoseconds.natAbs / 1000000000 := Int.natAbs_tdiv _ _
  have fewer : d.days.natAbs ≤ d.seconds.natAbs := Int.natAbs_tdiv_le_natAbs _ _
  rw [longest] at bounded
  rw [Int.abs_eq_natAbs]
  omega

/-! ## The span without its sign -/

theorem nanoseconds_abs : d.abs.nanoseconds = d.nanoseconds.natAbs := rfl

/-- The parts of a span without its sign are natural numbers. -/
theorem parts_abs_nonneg :
    0 ≤ d.abs.days ∧ 0 ≤ d.abs.hourPart ∧ 0 ≤ d.abs.minutePart ∧ 0 ≤ d.abs.secondPart ∧
      0 ≤ d.abs.millisecondPart := by
  have seconds : 0 ≤ d.abs.seconds := Int.tdiv_nonneg (Int.natCast_nonneg _) (by decide)
  have milliseconds : 0 ≤ d.abs.milliseconds := Int.tdiv_nonneg (Int.natCast_nonneg _) (by decide)
  have counted (k : ℕ) : 0 ≤ d.abs.seconds.tdiv k := Int.tdiv_nonneg seconds k.cast_nonneg
  exact ⟨counted 86400, Int.tmod_nonneg 24 (counted 3600), Int.tmod_nonneg 60 (counted 60),
    Int.tmod_nonneg 60 seconds, Int.tmod_nonneg 1000 milliseconds⟩

/-- A count of the signed span is that of the span without its sign, with the sign. -/
theorem tdiv_eq_ite (k : ℕ) :
    d.nanoseconds.tdiv k =
      if d.nanoseconds < 0 then -d.abs.nanoseconds.tdiv k else d.abs.nanoseconds.tdiv k := by
  rw [nanoseconds_abs]
  split
  · next negative =>
    rw [← Int.neg_tdiv, Int.ofNat_natAbs_of_nonpos (le_of_lt negative), neg_neg]
  · next natural => rw [Int.natAbs_of_nonneg (not_lt.1 natural)]

/-! ## The clock form, read back -/

/-- A text with a minus sign in front of it or none, read by the reader of what follows. -/
def readSigned? (read : List Char → Option ℕ) : List Char → Option ℤ
  | '-' :: cs => (read cs).map fun n => -(n : ℤ)
  | cs => (read cs).map fun n => (n : ℤ)

/-- The number that exactly `width` digits denote, if it is less than `bound`. -/
def readField? (width bound : ℕ) (cs : List Char) : Option ℕ :=
  if cs.length = width then (readNat? cs).filter (· < bound) else none

/-- The hours of `[d.]hh`. -/
def readHours? (cs : List Char) : Option ℕ :=
  match splitFirst? (· == '.') cs with
  | some (days, hours) => do
    let d ← readNat? days
    let h ← readField? 2 24 hours
    return d * 24 + h
  | none => readField? 2 24 cs

/-- The milliseconds of `ss[.fff]`. -/
def readSeconds? (cs : List Char) : Option ℕ :=
  match splitFirst? (· == '.') cs with
  | some (seconds, fraction) => do
    let s ← readField? 2 60 seconds
    let f ← readField? 3 1000 fraction
    return s * 1000 + f
  | none => (readField? 2 60 cs).map (· * 1000)

/-- The milliseconds of `[d.]hh:mm:ss[.fff]`. -/
def readClock? (cs : List Char) : Option ℕ := do
  let (hours, rest) ← splitFirst? (· == ':') cs
  let (minutes, seconds) ← splitFirst? (· == ':') rest
  let h ← readHours? hours
  let m ← readField? 2 60 minutes
  let s ← readSeconds? seconds
  return (h * 60 + m) * 60000 + s

/-- Nothing that is no digit stands in a field. -/
theorem not_mem_padded {c : Char} (hc : c.isDigit = false) (width n : ℕ) : c ∉ padded width n := by
  intro hm
  rw [isDigit_of_mem_padded hm] at hc
  cases hc

theorem not_mem_digits {c : Char} (hc : c.isDigit = false) (n : ℕ) : c ∉ digits n := by
  intro hm
  rw [isDigit_of_mem_digits hm] at hc
  cases hc

/-- A text is not split at a character that does not stand in it. -/
theorem splitFirst?_of_not_mem {c : Char} {cs : List Char} (h : c ∉ cs) :
    splitFirst? (· == c) cs = none :=
  splitFirst?_eq_none fun _ hd => beq_eq_false_iff_ne.2 (ne_of_mem_of_not_mem hd h)

theorem not_mem_intercalate {c : Char} {separator : List Char} {texts : List (List Char)}
    (hs : c ∉ separator) (ht : ∀ text ∈ texts, c ∉ text) : c ∉ separator.intercalate texts := by
  induction texts with
  | nil => simp
  | cons text texts ih =>
    have first := ht text List.mem_cons_self
    have others := ih fun t hm => ht t (List.mem_cons_of_mem _ hm)
    cases texts with
    | nil => simpa using first
    | cons next texts =>
      rw [List.intercalate_cons_cons]
      simp [first, hs, others]

/-- A field is read back. -/
theorem readField?_padded {width bound n : ℕ} (hw : 0 < width) (hn : n < bound)
    (fits : bound ≤ 10 ^ width) : readField? width bound (padded width n) = some n := by
  rw [readField?, if_pos (length_padded hw (lt_of_lt_of_le hn fits)), readNat?_padded]
  simpa using hn

/-- The hours are read back, with the days in front where there are any. -/
theorem readHours?_written (days : ℕ) {hours : ℕ} (h : hours < 24) :
    readHours? ((if 0 < days then digits days ++ ['.'] else []) ++ padded 2 hours) =
      some (days * 24 + hours) := by
  have field : readField? 2 24 (padded 2 hours) = some hours :=
    readField?_padded (by decide) h (by decide)
  split
  · have cut : splitFirst? (· == '.') (digits days ++ '.' :: padded 2 hours) =
        some (digits days, padded 2 hours) := splitFirst?_append_cons (not_mem_digits rfl days) _
    rw [List.append_assoc, List.singleton_append, readHours?, cut]
    simp only [readNat?_digits, field]
    rfl
  · next none =>
    have short : days = 0 := by omega
    rw [List.nil_append, readHours?, splitFirst?_of_not_mem (not_mem_padded rfl 2 hours), short]
    simp only [field, Nat.zero_mul, Nat.zero_add]

/-- The seconds are read back, with the milliseconds behind them where there are any. -/
theorem readSeconds?_written {seconds fraction : ℕ} (hs : seconds < 60) (hf : fraction < 1000) :
    readSeconds? (padded 2 seconds ++ if 0 < fraction then '.' :: padded 3 fraction else []) =
      some (seconds * 1000 + fraction) := by
  have field : readField? 2 60 (padded 2 seconds) = some seconds :=
    readField?_padded (by decide) hs (by decide)
  have apart : '.' ∉ padded 2 seconds := not_mem_padded rfl 2 seconds
  split
  · have last : readField? 3 1000 (padded 3 fraction) = some fraction :=
      readField?_padded (by decide) hf (by decide)
    rw [readSeconds?, splitFirst?_append_cons apart]
    simp only [field, last]
    rfl
  · next none =>
    have whole : fraction = 0 := by omega
    rw [List.append_nil, readSeconds?, splitFirst?_of_not_mem apart, whole]
    simp only [field, Option.map_some, Nat.add_zero]

/-- Between colons, hours, minutes and seconds are read back. -/
theorem readClock?_written {hours seconds : List Char} {minutes h s : ℕ} (apart : ':' ∉ hours)
    (hm : minutes < 60) (hh : readHours? hours = some h) (hs : readSeconds? seconds = some s) :
    readClock? (hours ++ ':' :: (padded 2 minutes ++ ':' :: seconds)) =
      some ((h * 60 + minutes) * 60000 + s) := by
  have field : readField? 2 60 (padded 2 minutes) = some minutes :=
    readField?_padded (by decide) hm (by decide)
  have second := splitFirst?_append_cons (not_mem_padded (c := ':') rfl 2 minutes) seconds
  rw [readClock?, splitFirst?_append_cons apart]
  simp only [Option.bind_eq_bind, Option.bind_some, second, hh, field, hs, Option.pure_def]

/-! ## The sum of units, read back -/

/-- The seconds of a unit. -/
def unitSeconds? : Char → Option ℕ
  | 'd' => some 86400
  | 'h' => some 3600
  | 'm' => some 60
  | 's' => some 1
  | _ => none

/-- The seconds of a number of units, written as digits and the letter of the unit. -/
def readUnit? (cs : List Char) : Option ℕ := do
  let letter ← cs.getLast?
  let unit ← unitSeconds? letter
  let n ← readNat? cs.dropLast
  return n * unit

/-- The seconds of a sum of units with a space between each two of them. -/
def readUnits? (cs : List Char) : Option ℕ := ((cs.splitOn ' ').mapM readUnit?).map List.sum

/-- A number of units is read back. -/
theorem readUnit?_written (n : ℕ) {letter : Char} {unit : ℕ} (h : unitSeconds? letter = some unit) :
    readUnit? (digits n ++ [letter]) = some (n * unit) := by
  rw [readUnit?, List.getLast?_concat, List.dropLast_concat]
  simp only [Option.bind_eq_bind, Option.bind_some, h, readNat?_digits, Option.pure_def]

/-- The seconds of some units, each with its letter. -/
def secondsOf : List (ℕ × Char) → ℕ
  | [] => 0
  | (n, letter) :: units => n * (unitSeconds? letter).getD 0 + secondsOf units

/-- A sum of units is read back. -/
theorem readUnits?_written {units : List (ℕ × Char)} (hne : units ≠ [])
    (known : ∀ u ∈ units, (unitSeconds? u.2).isSome) :
    readUnits? ([' '].intercalate (units.map fun (n, letter) => digits n ++ [letter])) =
      some (secondsOf units) := by
  have apart : ∀ part ∈ units.map (fun (n, letter) => digits n ++ [letter]), ' ' ∉ part := by
    intro part hp
    obtain ⟨⟨n, letter⟩, hu, rfl⟩ := List.mem_map.1 hp
    obtain ⟨unit, hs⟩ := Option.isSome_iff_exists.1 (known _ hu)
    have letter_ne : ' ' ≠ letter := by
      rintro rfl
      cases hs
    simpa [letter_ne] using not_mem_digits rfl n
  rw [readUnits?, List.splitOn_intercalate ' ' apart (by simpa using hne)]
  clear hne apart
  induction units with
  | nil => rfl
  | cons u units ih =>
    obtain ⟨n, letter⟩ := u
    obtain ⟨unit, hs⟩ := Option.isSome_iff_exists.1 (known _ List.mem_cons_self)
    have others := ih fun v hv => known v (List.mem_cons_of_mem _ hv)
    obtain ⟨values, read, sum⟩ := Option.map_eq_some_iff.1 others
    have first : readUnit? (digits n ++ [letter]) = some (n * unit) := readUnit?_written n hs
    have known : (unitSeconds? letter).getD 0 = unit := congrArg (·.getD 0) hs
    rw [List.map_cons, List.mapM_cons, first, read, secondsOf, known, ← sum]
    rfl

/-- Units of which there are none can be left out. -/
theorem secondsOf_filter (units : List (ℕ × Char)) :
    secondsOf (units.filter fun (n, _) => n != 0) = secondsOf units := by
  induction units with
  | nil => rfl
  | cons u units ih =>
    obtain ⟨n, letter⟩ := u
    by_cases hn : n = 0
    · rw [List.filter_cons_of_neg (by simp [hn]), ih, secondsOf, hn, Nat.zero_mul, Nat.zero_add]
    · rw [List.filter_cons_of_pos (by simpa using hn), secondsOf, secondsOf, ih]

/-! ## Both texts -/

/-- A text without a minus sign begins with one exactly if one is put in front of it. -/
theorem head?_signed {n : ℤ} {body : List Char} (h : '-' ∉ body) :
    ((if n < 0 then ['-'] else []) ++ body).head? = some '-' ↔ n < 0 := by
  split
  · next negative => simp [negative]
  · next natural =>
    rw [List.nil_append]
    exact iff_of_false (fun first => h (List.mem_of_head? first)) natural

/-- The sign in front of a text is read back. -/
theorem readSigned?_signed (read : List Char → Option ℕ) {n : ℤ} {body : List Char} {k : ℕ}
    (h : '-' ∉ body) (hk : read body = some k) :
    readSigned? read ((if n < 0 then ['-'] else []) ++ body) =
      some (if n < 0 then -(k : ℤ) else k) := by
  split
  · rw [List.singleton_append, readSigned?, hk]
    rfl
  · have plain : readSigned? read body = (read body).map fun n => (n : ℤ) := by
      rw [readSigned?]
      rintro cs rfl
      exact h List.mem_cons_self
    rw [List.nil_append, plain, hk]
    rfl

/-- The clock form without its sign. -/
def clock : List Char :=
  (if 0 < d.abs.days.natAbs then digits d.abs.days.natAbs ++ ['.'] else []) ++
    padded 2 d.abs.hourPart.natAbs ++ ':' :: (padded 2 d.abs.minutePart.natAbs ++ ':' ::
      (padded 2 d.abs.secondPart.natAbs ++
        if 0 < d.abs.millisecondPart.natAbs then '.' :: padded 3 d.abs.millisecondPart.natAbs
        else []))

theorem write_eq : d.write = (if d.nanoseconds < 0 then ['-'] else []) ++ d.clock := by
  obtain ⟨days, _, _, _, milliseconds⟩ := d.parts_abs_nonneg
  have someDays : 0 < d.abs.days ↔ 0 < d.abs.days.natAbs := by omega
  have someMilliseconds : 0 < d.abs.millisecondPart ↔ 0 < d.abs.millisecondPart.natAbs := by omega
  rw [write, clock]
  simp only [someDays, someMilliseconds, List.append_assoc, List.cons_append]

/-- The parts of a span without its sign, as natural numbers. -/
theorem natAbs_parts_abs :
    (d.abs.hourPart.natAbs < 24 ∧ d.abs.minutePart.natAbs < 60 ∧ d.abs.secondPart.natAbs < 60 ∧
        d.abs.millisecondPart.natAbs < 1000) ∧
      d.abs.days.natAbs * 86400 + d.abs.hourPart.natAbs * 3600 + d.abs.minutePart.natAbs * 60 +
        d.abs.secondPart.natAbs = d.abs.seconds.natAbs ∧
      d.abs.seconds.natAbs * 1000 + d.abs.millisecondPart.natAbs = d.abs.milliseconds.natAbs := by
  obtain ⟨days, hours, minutes, seconds, milliseconds⟩ := d.parts_abs_nonneg
  have small := d.abs.abs_parts_lt
  have inSeconds := d.abs.seconds_of_parts
  have inMilliseconds := d.abs.milliseconds_of_parts
  rw [abs_of_nonneg hours, abs_of_nonneg minutes, abs_of_nonneg seconds,
    abs_of_nonneg milliseconds] at small
  omega

/-- The clock form holds all of the whole milliseconds. -/
theorem readClock?_clock : readClock? d.clock = some d.abs.milliseconds.natAbs := by
  obtain ⟨⟨hours, minutes, seconds, milliseconds⟩, inSeconds, inMilliseconds⟩ := d.natAbs_parts_abs
  have apart : ':' ∉ (if 0 < d.abs.days.natAbs then digits d.abs.days.natAbs ++ ['.'] else []) ++
      padded 2 d.abs.hourPart.natAbs := by
    split <;> simp [not_mem_digits, not_mem_padded]
  rw [clock, readClock?_written apart minutes (readHours?_written _ hours)
    (readSeconds?_written seconds milliseconds), ← inMilliseconds, ← inSeconds]
  have sum (days h m s f : ℕ) : ((days * 24 + h) * 60 + m) * 60000 + (s * 1000 + f) =
      (days * 86400 + h * 3600 + m * 60 + s) * 1000 + f := by ring
  rw [sum]

theorem not_mem_clock : '-' ∉ d.clock := by
  rw [clock]
  split <;> split <;> simp [not_mem_digits, not_mem_padded]

/-- The sum of units holds all of the whole seconds. -/
theorem secondsOf_units : secondsOf d.units = d.abs.seconds.natAbs := by
  have sum := d.natAbs_parts_abs.2.1
  rw [units, secondsOf_filter, ← sum]
  simp only [secondsOf, unitSeconds?, Option.getD_some, Nat.mul_one, Nat.add_zero, Nat.add_assoc]

/-- Read back, the sum of units denotes the whole seconds. -/
theorem readSigned?_writeUnits : readSigned? readUnits? d.writeUnits = some d.seconds := by
  have seconds : d.seconds = if d.nanoseconds < 0 then -d.abs.seconds else d.abs.seconds :=
    d.tdiv_eq_ite 1000000000
  have natural : 0 ≤ d.abs.seconds := Int.tdiv_nonneg (Int.natCast_nonneg _) (by decide)
  have count := d.secondsOf_units
  rw [seconds, ← Int.natAbs_of_nonneg natural, ← count]
  rw [writeUnits]
  cases hu : d.units with
  | nil =>
    -- Less than a second is written as no seconds, and without a sign.
    have zero : readSigned? readUnits? ['0', 's'] = some 0 := by cbv
    dsimp only
    rw [zero, secondsOf]
    simp
  | cons u units =>
    have known : ∀ v ∈ d.units, (unitSeconds? v.2).isSome := by
      intro v hv
      have member := List.mem_of_mem_filter hv
      simp only [List.mem_cons, List.not_mem_nil, or_false] at member
      rcases member with rfl | rfl | rfl | rfl <;> rfl
    have unsigned :
        '-' ∉ [' '].intercalate (d.units.map fun (n, letter) => digits n ++ [letter]) := by
      refine not_mem_intercalate (by decide) fun part hp => ?_
      obtain ⟨⟨n, letter⟩, hv, rfl⟩ := List.mem_map.1 hp
      have letter_ne : '-' ≠ letter := by
        rintro rfl
        cases known _ hv
      simpa [letter_ne] using not_mem_digits rfl n
    rw [hu] at known unsigned
    exact readSigned?_signed readUnits? unsigned (readUnits?_written (List.cons_ne_nil _ _) known)

/-- Read back, the clock form denotes the whole milliseconds. -/
theorem readSigned?_write : readSigned? readClock? d.write = some d.milliseconds := by
  have milliseconds : d.milliseconds = if d.nanoseconds < 0 then -d.abs.milliseconds else
    d.abs.milliseconds := d.tdiv_eq_ite 1000000
  have natural : 0 ≤ d.abs.milliseconds := Int.tdiv_nonneg (Int.natCast_nonneg _) (by decide)
  rw [write_eq, readSigned?_signed _ d.not_mem_clock d.readClock?_clock,
    Int.natAbs_of_nonneg natural, milliseconds]

example : readSigned? readClock? "-1.02:03:04.005".toList = some (-93784005) := by cbv

end Duration

end MicroTemplate.Calendar

namespace MicroTemplate.Value

open Calendar Calendar.Duration Number

variable {α : Type}

/-- An integer of 64 bits stays what it is as a property. -/
theorem exists_ofInt {n : ℤ} (h : |n| < 2 ^ 63) :
    ∃ k : Int64, (ofInt n : Value α) = .int k ∧ k.toInt = n := by
  obtain ⟨lower, upper⟩ := abs_lt.1 h
  exact ⟨Int64.ofInt n, rfl, Int64.toInt_ofInt_of_le (by omega) (by omega)⟩

variable [HostObject α]

/-- Spans of time are taken apart without loss. The five parts make up the whole seconds and the
whole milliseconds, truncated toward zero; each is less than the next larger unit and none has the
sign opposite to the span. The text form begins with a minus sign exactly if the span is negative,
and denotes the whole milliseconds; the sum of units denotes the whole seconds. -/
theorem duration_taken_apart (types : Option (TypeRegistry α)) (d : Duration) :
    let property (name : String) := (Value.duration d : Value α).property types name
    let text := (Value.duration d : Value α).write.toList
    let seconds := d.nanoseconds.tdiv (10 ^ 9)
    let milliseconds := d.nanoseconds.tdiv (10 ^ 6)
    (∃ days hours minutes secs millis : Int64,
        (property "Days" = .int days ∧ property "Hours" = .int hours ∧
          property "Minutes" = .int minutes ∧ property "Seconds" = .int secs ∧
          property "Milliseconds" = .int millis) ∧
        (days.toInt * 86400 + hours.toInt * 3600 + minutes.toInt * 60 + secs.toInt = seconds ∧
          seconds * 1000 + millis.toInt = milliseconds) ∧
        (|hours.toInt| < 24 ∧ |minutes.toInt| < 60 ∧ |secs.toInt| < 60 ∧ |millis.toInt| < 1000) ∧
        ∀ part ∈ [days, hours, minutes, secs, millis], 0 ≤ d.nanoseconds * part.toInt) ∧
      ((text.head? = some '-' ↔ d.nanoseconds < 0) ∧
        readSigned? readClock? text = some milliseconds) ∧
      ∃ sum : String, property "Format" = .text sum ∧
        readSigned? readUnits? sum.toList = some seconds := by
  intro property text seconds milliseconds
  have written : text = d.write := String.toList_ofList
  have small := d.abs_parts_lt
  refine ⟨?_, ⟨?_, ?_⟩, .ofList d.writeUnits, rfl, ?_⟩
  · obtain ⟨days, givenDays, hd⟩ := exists_ofInt (α := α) d.abs_days_lt
    obtain ⟨hours, givenHours, hh⟩ := exists_ofInt (α := α) (small.1.trans (by decide))
    obtain ⟨minutes, givenMinutes, hm⟩ := exists_ofInt (α := α) (small.2.1.trans (by decide))
    obtain ⟨secs, givenSeconds, hs⟩ := exists_ofInt (α := α) (small.2.2.1.trans (by decide))
    obtain ⟨millis, givenMillis, hf⟩ := exists_ofInt (α := α) (small.2.2.2.trans (by decide))
    have signs := d.sign_of_parts
    refine ⟨days, hours, minutes, secs, millis,
      ⟨givenDays, givenHours, givenMinutes, givenSeconds, givenMillis⟩, ?_, ?_, ?_⟩
    · rw [hd, hh, hm, hs, hf]
      exact ⟨d.seconds_of_parts, d.milliseconds_of_parts⟩
    · rw [hh, hm, hs, hf]
      exact small
    · simp only [List.forall_mem_cons, List.not_mem_nil, false_implies, implies_true] at signs ⊢
      rw [hd, hh, hm, hs, hf]
      exact signs
  · rw [written, write_eq]
    exact head?_signed d.not_mem_clock
  · rw [written]
    exact d.readSigned?_write
  · rw [String.toList_ofList]
    exact d.readSigned?_writeUnits

end MicroTemplate.Value
