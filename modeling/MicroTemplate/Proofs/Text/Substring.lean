import MicroTemplate.Function.Builtin
import MicroTemplate.Proofs.Value.Arithmetic

/-!
# Parts of texts

There is a strict and a lenient way to take a part out of a text. The method `Substring` refuses a
part that does not lie within the text, and the function `substr` leaves out what lies outside. Both
compute with integers of 64 bits, the one giving up where a sum leaves their range and the other
stopping at its end. A text that a machine can hold has fewer than `2 ^ 63` characters, and for such
a text neither matters: the parts are those of unbounded integers, and where the strict way gives
one, the lenient way gives the same.
-/

namespace MicroTemplate

/-! ## Places in a text -/

namespace Text

/-- The characters of a text that stand at places from `first` on and before `last`. -/
def between (cs : List Char) (first last : ℤ) : List Char :=
  (cs.zipIdx.filter fun c => first ≤ c.2 ∧ (c.2 : ℤ) < last).map Prod.fst

/-- The part of a text between two places. -/
def part (s : String) (first last : ℤ) : String := .ofList (between s.toList first last)

/-- The characters between two places, if the places are counted from `n` on. -/
theorem map_filter_zipIdx (cs : List Char) (first last : ℤ) (n : ℕ) :
    ((cs.zipIdx n).filter fun c => first ≤ c.2 ∧ (c.2 : ℤ) < last).map Prod.fst =
      (cs.take (last.toNat - n)).drop (first.toNat - n) := by
  induction cs generalizing n with
  | nil => simp
  | cons c cs ih =>
    rw [List.zipIdx_cons]
    by_cases after : (n : ℤ) < last
    · have stop : last.toNat - n = (last.toNat - (n + 1)) + 1 := by omega
      rw [stop, List.take_succ_cons]
      by_cases before : first ≤ n
      · have start : first.toNat - n = 0 := by omega
        have start' : first.toNat - (n + 1) = 0 := by omega
        rw [List.filter_cons_of_pos (by simpa using ⟨before, after⟩), List.map_cons, ih, start,
          start', List.drop_zero, List.drop_zero]
      · have start : first.toNat - n = (first.toNat - (n + 1)) + 1 := by omega
        rw [List.filter_cons_of_neg (by simp [before]), ih, start, List.drop_succ_cons]
    · have stop : last.toNat - n = 0 := by omega
      have stop' : last.toNat - (n + 1) = 0 := by omega
      rw [List.filter_cons_of_neg (by simp [after]), ih, stop, stop', List.take_zero,
        List.take_zero, List.drop_nil, List.drop_nil]

theorem between_eq (cs : List Char) (first last : ℤ) :
    between cs first last = (cs.take last.toNat).drop first.toNat :=
  map_filter_zipIdx cs first last 0

end Text

/-! ## The strict way -/

namespace Value

open Number Text

/-- A part ends where it would end in unbounded arithmetic. A sum out of range is beyond the end of
every text. -/
theorem partEnd?_eq_some_iff {count start length stop : Int64} :
    partEnd? count start length = some stop ↔
      0 ≤ start.toInt ∧ 0 ≤ length.toInt ∧ start.toInt + length.toInt ≤ count.toInt ∧
        stop.toInt = start.toInt + length.toInt := by
  rw [partEnd?]
  simp only [Int64.le_iff_toInt_le, Int64.toInt_zero]
  split
  · next natural =>
    rw [Option.filter_eq_some_iff, narrow?_eq_some_iff, decide_eq_true_iff]
    omega
  · simp only [reduceCtorEq, false_iff]
    omega

theorem partEnd?_eq_none_iff {count start length : Int64} :
    partEnd? count start length = none ↔
      ¬(0 ≤ start.toInt ∧ 0 ≤ length.toInt ∧ start.toInt + length.toInt ≤ count.toInt) := by
  rw [← not_iff_not, ← ne_eq, Option.ne_none_iff_exists', not_not]
  constructor
  · rintro ⟨stop, hs⟩
    obtain ⟨hstart, hlength, within, _⟩ := partEnd?_eq_some_iff.1 hs
    exact ⟨hstart, hlength, within⟩
  · rintro ⟨hstart, hlength, within⟩
    have lower := Int64.le_toInt count
    have upper := Int64.toInt_lt count
    refine ⟨Int64.ofInt (start.toInt + length.toInt), partEnd?_eq_some_iff.2
      ⟨hstart, hlength, within, Int64.toInt_ofInt_of_le ?_ ?_⟩⟩ <;> omega

variable {cs : List Char} (hcs : cs.length < 2 ^ 63)

include hcs

/-- The part is found or refused as unbounded arithmetic says. -/
theorem substring_some (start length : Int64) :
    (0 ≤ start.toInt ∧ 0 ≤ length.toInt ∧ start.toInt + length.toInt ≤ cs.length →
        substring cs start (some length) =
          .ok (between cs start.toInt (start.toInt + length.toInt))) ∧
      (¬(0 ≤ start.toInt ∧ 0 ≤ length.toInt ∧ start.toInt + length.toInt ≤ cs.length) →
        ∃ message, substring cs start (some length) = .error message) := by
  have count : (Int64.ofNat cs.length).toInt = cs.length := Int64.toInt_ofNat_of_lt hcs
  rw [substring, Option.getD_some]
  cases hs : partEnd? (Int64.ofNat cs.length) start length with
  | none =>
    rw [partEnd?_eq_none_iff, count] at hs
    exact ⟨fun within => absurd within hs, fun _ => ⟨_, rfl⟩⟩
  | some stop =>
    obtain ⟨hstart, hlength, within, hstop⟩ := partEnd?_eq_some_iff.1 hs
    rw [count] at within
    refine ⟨fun _ => ?_, fun outside => absurd ⟨hstart, hlength, within⟩ outside⟩
    rw [between_eq, ← hstop]

/-- Without a length the part goes on to the end of the text. -/
theorem substring_none (start : Int64) :
    (0 ≤ start.toInt ∧ start.toInt ≤ cs.length →
        substring cs start none = .ok (between cs start.toInt cs.length)) ∧
      (¬(0 ≤ start.toInt ∧ start.toInt ≤ cs.length) →
        ∃ message, substring cs start none = .error message) := by
  have count : (Int64.ofNat cs.length).toInt = cs.length := Int64.toInt_ofNat_of_lt hcs
  have lower := Int64.le_toInt start
  have upper := Int64.toInt_lt start
  have rest : (saturate (cs.length - start.toInt)).toInt =
      min (cs.length - start.toInt) 9223372036854775807 := by
    rw [saturate, Int64.toInt_ofInt_of_le (by omega) (by omega)]
    omega
  have given : substring cs start none =
      substring cs start (some (saturate (cs.length - start.toInt))) := by
    rw [substring, substring, count]
    rfl
  obtain ⟨found, refused⟩ := substring_some hcs start (saturate (cs.length - start.toInt))
  rw [given]
  rw [rest] at found refused
  constructor
  · rintro ⟨hstart, within⟩
    rw [found (by omega)]
    congr 2
    omega
  · exact fun outside => refused (by omega)

end Value

/-! ## The lenient way -/

namespace Text

open Builtin

/-- What lies before the text or behind it is left out, and nothing else is. -/
theorem slice_some {cs : List Char} (hcs : cs.length < 2 ^ 63) (start length : ℤ) :
    slice cs start (some length) = between cs (max start 0) (max start 0 + max length 0) := by
  have stop : cs.take (min (min (min start.toNat cs.length + length.toNat) 18446744073709551615)
      cs.length) = cs.take (max start 0 + max length 0).toNat :=
    List.take_eq_take_iff.2 (by omega)
  rw [slice, between_eq, stop, List.drop_eq_drop_iff, List.length_take]
  omega

/-- Without a length nothing behind the beginning is left out. -/
theorem slice_none (cs : List Char) (start : ℤ) :
    slice cs start none = between cs (max start 0) cs.length := by
  rw [slice, between_eq, Int.toNat_natCast, List.drop_eq_drop_iff, List.length_take]
  omega

/-- Two neighbouring parts make up the text. -/
theorem between_append_between (cs : List Char) {k : ℤ} :
    between cs 0 k ++ between cs k cs.length = cs := by
  rw [between_eq, between_eq, Int.toNat_natCast, List.take_length, Int.toNat_zero, List.drop_zero,
    List.take_append_drop]

end Text

/-! ## Both ways -/

section

open Calendar Text

variable {α : Type} [HostObject α] (types : Option (TypeRegistry α)) (clock : DateTime) {s : String}

theorem call_substring (s : String) (start : Int64) (length : Option Int64) :
    (Value.text s : Value α).call types "Substring" (.int start :: (length.map .int).toList) =
      (Value.substring s.toList start length).map fun cs => .text (.ofList cs) := by
  have steps : (Value.text s : Value α).call types "Substring"
      (.int start :: (length.map .int).toList) =
        (Value.substring s.toList start length >>= fun cs => pure (some (Value.ofChars cs))) >>=
          fun result => pure (result.getD .null) := by
    cases length <;> rfl
  rw [steps]
  cases Value.substring s.toList start length <;> rfl

/-- If a part is found under a condition and refused otherwise, the method succeeds under just that
condition, and what it gives is that part. -/
theorem call_substring_iff {start : Int64} {length : Option Int64} {P : Prop} {cs : List Char}
    (found : P → Value.substring s.toList start length = .ok cs)
    (refused : ¬P → ∃ message, Value.substring s.toList start length = .error message) :
    let result := (Value.text s : Value α).call types "Substring"
      (.int start :: (length.map .int).toList)
    ((∃ v, result = .ok v) ↔ P) ∧ ∀ v, result = .ok v → P ∧ v = .text (.ofList cs) := by
  intro result
  have taken : result = (Value.substring s.toList start length).map fun cs => .text (.ofList cs) :=
    call_substring types s start length
  by_cases h : P
  · rw [taken, found h]
    exact ⟨iff_of_true ⟨_, rfl⟩ h, fun v hv => ⟨h, (Except.ok.inj hv).symm⟩⟩
  · obtain ⟨message, hm⟩ := refused h
    rw [taken, hm]
    exact ⟨iff_of_false nofun h, nofun⟩

/-- The method with a length. -/
theorem call_substring_some (hs : s.toList.length < 2 ^ 63) (start length : Int64) :
    let result := (Value.text s : Value α).call types "Substring" [.int start, .int length]
    let within := 0 ≤ start.toInt ∧ 0 ≤ length.toInt ∧
      start.toInt + length.toInt ≤ s.toList.length
    ((∃ v, result = .ok v) ↔ within) ∧
      ∀ v, result = .ok v → within ∧ v = .text (part s start.toInt (start.toInt + length.toInt)) :=
  have ⟨found, refused⟩ := Value.substring_some hs start length
  call_substring_iff types found refused

/-- The method without a length. -/
theorem call_substring_none (hs : s.toList.length < 2 ^ 63) (start : Int64) :
    let result := (Value.text s : Value α).call types "Substring" [.int start]
    let within := 0 ≤ start.toInt ∧ start.toInt ≤ s.toList.length
    ((∃ v, result = .ok v) ↔ within) ∧
      ∀ v, result = .ok v → within ∧ v = .text (part s start.toInt s.toList.length) :=
  have ⟨found, refused⟩ := Value.substring_none hs start
  call_substring_iff types found refused

/-- The function with a length. -/
theorem call_substr_some (hs : s.toList.length < 2 ^ 63) (start length : Int64) :
    Builtin.substr.call clock [(.text s : Value α), .int start, .int length] =
      .ok (.text (part s (max start.toInt 0) (max start.toInt 0 + max length.toInt 0))) := by
  rw [part, ← slice_some hs]
  rfl

/-- The function without a length. -/
theorem call_substr_none (s : String) (start : Int64) :
    Builtin.substr.call clock [(.text s : Value α), .int start] =
      .ok (.text (part s (max start.toInt 0) s.toList.length)) := by
  rw [part, ← slice_none]
  rfl

/-- The strict and the lenient way agree. With a length the strict one succeeds exactly if neither
number is negative and their unbounded sum is not beyond the end, and without a length if the
beginning is neither before the text nor beyond its end; what it gives, the lenient one gives as
well. The lenient one always succeeds and gives the characters at the places asked for, a negative
number counting as zero; and two parts of which the second begins where the first one ends make up
the text. -/
theorem substring_agrees (hs : s.toList.length < 2 ^ 63) (start length : Int64) :
    let strict (args : List (Value α)) := (Value.text s).call types "Substring" args
    let lenient (args : List (Value α)) := Builtin.substr.call clock (.text s :: args)
    let n : ℤ := s.toList.length
    (((∃ v, strict [.int start, .int length] = .ok v) ↔
          0 ≤ start.toInt ∧ 0 ≤ length.toInt ∧ start.toInt + length.toInt ≤ n) ∧
        ∀ v, strict [.int start, .int length] = .ok v →
          lenient [.int start, .int length] = .ok v ∧
            v = .text (part s start.toInt (start.toInt + length.toInt))) ∧
      (((∃ v, strict [.int start] = .ok v) ↔ 0 ≤ start.toInt ∧ start.toInt ≤ n) ∧
        ∀ v, strict [.int start] = .ok v →
          lenient [.int start] = .ok v ∧ v = .text (part s start.toInt n)) ∧
      (lenient [.int start, .int length] =
          .ok (.text (part s (max start.toInt 0) (max start.toInt 0 + max length.toInt 0))) ∧
        lenient [.int start] = .ok (.text (part s (max start.toInt 0) n))) ∧
      ∀ k : Int64, 0 ≤ k.toInt → ∃ t u,
        lenient [.int 0, .int k] = .ok (.text t) ∧ lenient [.int k] = .ok (.text u) ∧
          t ++ u = s := by
  intro strict lenient n
  obtain ⟨succeeds, gives⟩ := call_substring_some types hs start length
  obtain ⟨succeeds', gives'⟩ := call_substring_none types hs start
  have some_eq := call_substr_some (α := α) clock hs start length
  have none_eq := call_substr_none (α := α) clock s start
  refine ⟨⟨succeeds, fun v hv => ?_⟩, ⟨succeeds', fun v hv => ?_⟩, ⟨some_eq, none_eq⟩,
    fun k hk => ?_⟩
  · obtain ⟨⟨hstart, hlength, _⟩, rfl⟩ := gives v hv
    rw [max_eq_left hstart, max_eq_left hlength] at some_eq
    exact ⟨some_eq, rfl⟩
  · obtain ⟨⟨hstart, _⟩, rfl⟩ := gives' v hv
    rw [max_eq_left hstart] at none_eq
    exact ⟨none_eq, rfl⟩
  · have first := call_substr_some (α := α) clock hs 0 k
    have second := call_substr_none (α := α) clock s k
    rw [Int64.toInt_zero, max_self, zero_add, max_eq_left hk] at first
    rw [max_eq_left hk] at second
    refine ⟨_, _, first, second, ?_⟩
    rw [part, part, ← String.ofList_append, between_append_between, String.ofList_toList]

/-- A part within a text of several characters that take more than one byte each, and one whose end
is out of the range of 64 bits. -/
theorem substring_agrees_at_limits :
    let day : Date := ⟨1, 1, 1, by decide, by decide, by decide⟩
    let clock : DateTime := ⟨day, 0, 0, by decide, by decide⟩
    let strict (args : List (Value Empty)) := (Value.text "né→∞").call none "Substring" args
    let lenient (args : List (Value Empty)) := Builtin.substr.call clock (.text "né→∞" :: args)
    "né→∞".toList.length < 2 ^ 63 ∧
      (strict [.int 1, .int 2] = .ok (.text "é→") ∧ lenient [.int 1, .int 2] = .ok (.text "é→")) ∧
      (¬∃ v, strict [.int 1, .int 9223372036854775807] = .ok v) ∧
      lenient [.int 1, .int 9223372036854775807] = .ok (.text "é→∞") := by
  intro day clock strict lenient
  have hs : "né→∞".toList.length < 2 ^ 63 := by decide
  have within : strict [.int 1, .int 2] = .ok (.text "é→") := by cbv
  have beyond : lenient [.int 1, .int 9223372036854775807] = .ok (.text "é→∞") := by cbv
  obtain ⟨⟨_, agree⟩, _⟩ := substring_agrees (α := Empty) none clock hs 1 2
  obtain ⟨⟨succeeds, _⟩, _⟩ :=
    substring_agrees (α := Empty) none clock hs 1 9223372036854775807
  have refused := mt succeeds.1 (by decide)
  exact ⟨hs, ⟨within, (agree _ within).1⟩, refused, beyond⟩

end

end MicroTemplate
