import MicroTemplate.Proofs.Expression.Calculation

/-!
# Integers survive every trip through text

An integer is written in one way and read in two: texts are read with at most one sign and with
white space around them, and literals of expressions are digits alone. Both readers take any number
of digits for the number that these denote, and neither takes one that is out of range.
-/

namespace MicroTemplate.Number

open Text

/-- The spellings of integers: digits, with at most one sign before them. -/
inductive Numeral : List Char → ℤ → Prop where
  /-- Digits alone. -/
  | unsigned {ds} (h : ds ≠ [] ∧ ∀ c ∈ ds, c.isDigit = true) :
    Numeral ds (Nat.ofDigitChars 10 ds 0)
  /-- A plus sign changes nothing. -/
  | plus {ds} (h : ds ≠ [] ∧ ∀ c ∈ ds, c.isDigit = true) :
    Numeral ('+' :: ds) (Nat.ofDigitChars 10 ds 0)
  /-- A minus sign. -/
  | minus {ds} (h : ds ≠ [] ∧ ∀ c ∈ ds, c.isDigit = true) :
    Numeral ('-' :: ds) (-(Nat.ofDigitChars 10 ds 0 : ℤ))

/-- The texts of an integer: its decimal form, with a plus sign before it if there is no minus sign,
and with white space around it. -/
def IsTextOf (n : Int64) (s : String) : Prop :=
  ∃ before plus after : List Char,
    s.toList = before ++ (plus ++ (toString n).toList) ++ after ∧
      (isBlank before = true ∧ isBlank after = true) ∧ (plus = [] ∨ plus = ['+'] ∧ 0 ≤ n.toInt)

/-- Digits are read as the number that they denote, and nothing else is. -/
theorem map_readNat?_eq_some_iff {f : ℕ → ℤ} {ds : List Char} {n : ℤ} :
    Option.map f (readNat? ds) = some n ↔
      isDigits ds = true ∧ f (Nat.ofDigitChars 10 ds 0) = n := by
  rw [readNat?]
  split
  · next digits => simp [digits, ofDigits_eq_ofDigitChars]
  · next other => simp [other]

/-- Behind a minus sign the digits count down. -/
theorem readInt?_minus (ds : List Char) :
    readInt? ('-' :: ds) = Option.map (fun n : ℕ => -(n : ℤ)) (readNat? ds) := by
  rw [readInt?]
  cases readNat? ds <;> rfl

/-- A plus sign changes nothing. -/
theorem readInt?_plus (ds : List Char) :
    readInt? ('+' :: ds) = Option.map (fun n : ℕ => (n : ℤ)) (readNat? ds) := by
  rw [readInt?]
  cases readNat? ds <;> rfl

/-- Without a sign there are digits only. -/
theorem readInt?_unsigned {cs : List Char} (hm : ∀ ds, cs ≠ '-' :: ds)
    (hp : ∀ ds, cs ≠ '+' :: ds) :
    readInt? cs = Option.map (fun n : ℕ => (n : ℤ)) (readNat? cs) := by
  rw [readInt?]
  · cases readNat? cs <;> rfl
  · exact hm
  · exact hp

/-- What is read as an integer is a spelling of it. -/
theorem readInt?_eq_some_iff {cs : List Char} {n : ℤ} : readInt? cs = some n ↔ Numeral cs n := by
  constructor
  · intro h
    by_cases hm : ∃ ds, cs = '-' :: ds
    · obtain ⟨ds, rfl⟩ := hm
      obtain ⟨digits, rfl⟩ := map_readNat?_eq_some_iff.1 ((readInt?_minus ds).symm.trans h)
      exact .minus (isDigits_iff.1 digits)
    · by_cases hp : ∃ ds, cs = '+' :: ds
      · obtain ⟨ds, rfl⟩ := hp
        obtain ⟨digits, rfl⟩ := map_readNat?_eq_some_iff.1 ((readInt?_plus ds).symm.trans h)
        exact .plus (isDigits_iff.1 digits)
      · rw [readInt?_unsigned (not_exists.1 hm) (not_exists.1 hp)] at h
        obtain ⟨digits, rfl⟩ := map_readNat?_eq_some_iff.1 h
        exact .unsigned (isDigits_iff.1 digits)
  · intro h
    cases h with
    | unsigned digits => exact Expression.readInt?_of_isDigits (isDigits_iff.2 digits)
    | plus digits =>
      rw [readInt?_plus]
      exact map_readNat?_eq_some_iff.2 ⟨isDigits_iff.2 digits, rfl⟩
    | minus digits =>
      rw [readInt?_minus]
      exact map_readNat?_eq_some_iff.2 ⟨isDigits_iff.2 digits, rfl⟩

/-- The reader finds the integer of a numeral and takes nothing else. -/
theorem read?_eq_some_iff {cs : List Char} {n : Int64} :
    read? cs = some n ↔ Numeral cs n.toInt := by
  rw [read?, Option.bind_eq_some_iff, ← readInt?_eq_some_iff]
  constructor
  · rintro ⟨k, hk, hn⟩
    rwa [toInt_of_narrow? hn]
  · exact fun h => ⟨_, h, narrow?_toInt n⟩

theorem ofDigitChars_digits (n : ℕ) : Nat.ofDigitChars 10 (digits n) 0 = n := by
  rw [← ofDigits_eq_ofDigitChars, ofDigits_digits]

theorem write_of_nonneg {n : ℤ} (h : 0 ≤ n) : write n = digits n.natAbs := by
  rw [write, if_neg (not_lt.2 h)]

/-- An integer of 64 bits is shown as the unbounded one is. -/
theorem toList_toString (n : Int64) : (toString n).toList = write n.toInt := by
  rw [← String.toList_ofList (l := write n.toInt), ofList_write]
  rfl

/-- What is written for an integer is a spelling of it. -/
theorem numeral_write (n : ℤ) : Numeral (write n) n := by
  have written := isDigits_iff.1 (isDigits_digits n.natAbs)
  rw [write]
  split
  · next negative =>
    have spelled := Numeral.minus written
    rwa [ofDigitChars_digits, Int.ofNat_natAbs_of_nonpos negative.le, neg_neg] at spelled
  · next other =>
    have spelled := Numeral.unsigned written
    rwa [ofDigitChars_digits, Int.natAbs_of_nonneg (not_lt.1 other)] at spelled

/-- A plus sign before what is written for an integer that is not negative makes no difference. -/
theorem numeral_plus_write {n : ℤ} (h : 0 ≤ n) : Numeral ('+' :: write n) n := by
  have spelled := Numeral.plus (isDigits_iff.1 (isDigits_digits n.natAbs))
  rwa [ofDigitChars_digits, Int.natAbs_of_nonneg h, ← write_of_nonneg h] at spelled

/-- There is no white space in a spelling. -/
theorem Numeral.isSpace_eq_false {cs : List Char} {n : ℤ} (h : Numeral cs n) {c : Char}
    (mem : c ∈ cs) : isSpace c = false := by
  have digit {c : Char} (hc : c.isDigit = true) : isSpace c = false :=
    Expression.isSpace_of_isWordChar (Expression.isWordChar_of_isDigit hc)
  cases h with
  | unsigned hd => exact digit (hd.2 c mem)
  | plus hd =>
    rcases List.mem_cons.1 mem with rfl | mem
    · decide
    · exact digit (hd.2 c mem)
  | minus hd =>
    rcases List.mem_cons.1 mem with rfl | mem
    · decide
    · exact digit (hd.2 c mem)

/-- Trimmed, a text of an integer is a spelling of it. -/
theorem IsTextOf.numeral {n : Int64} {s : String} (h : IsTextOf n s) :
    Numeral (trim s.toList) n.toInt := by
  obtain ⟨before, plus, after, same, ⟨hb, ha⟩, sign⟩ := h
  have spelled : Numeral (plus ++ write n.toInt) n.toInt := by
    rcases sign with rfl | ⟨rfl, nonneg⟩
    · exact numeral_write _
    · exact numeral_plus_write nonneg
  rw [same, trim_blank_around hb ha, toList_toString,
    trim_eq_self fun c => spelled.isSpace_eq_false]
  exact spelled

end MicroTemplate.Number

namespace MicroTemplate.Value

open Number Text

variable {α : Type}

/-- The values that stand for an integer: itself and its texts. -/
inductive Represents (n : Int64) : Value α → Prop where
  /-- The integer. -/
  | int : Represents n (.int n)
  /-- A text of the integer. -/
  | text {s} (h : IsTextOf n s) : Represents n (.text s)

/-- A text stands for an integer exactly if it is a spelling of it when trimmed. -/
theorem toInt_text_eq_ok_iff {s : String} {n : Int64} :
    (Value.text s : Value α).toInt = .ok n ↔ Numeral (trim s.toList) n.toInt := by
  rw [toInt, ← read?_eq_some_iff]
  cases read? (trim s.toList) <;> simp

/-- What represents an integer is coerced to it. -/
theorem Represents.toInt {n : Int64} {v : Value α} (h : Represents n v) : v.toInt = .ok n := by
  cases h with
  | int => rfl
  | text written => exact toInt_text_eq_ok_iff.2 written.numeral

theorem Represents.isFloat {n : Int64} {v : Value α} (h : Represents n v) : v.isFloat = false := by
  cases h <;> rfl

/-- Arithmetic does not tell apart what stands for the same integers. -/
theorem ArithmeticOperator.apply_of_represents (op : ArithmeticOperator) {m n : Int64}
    {v w : Value α} (hv : Represents m v) (hw : Represents n w) :
    op.apply v w = op.apply (.int m) (.int n) := by
  rw [apply_eq fun _ => ⟨hv.isFloat, hw.isFloat⟩, apply_eq fun _ => ⟨rfl, rfl⟩, hv.toInt, hw.toInt]
  rfl

end MicroTemplate.Value

namespace MicroTemplate.Expression

open Number Text Value

variable {α : Type} [HostObject α]

/-- Digits alone are evaluated to the integer that they denote, and fail if it is out of range. -/
theorem evaluate_of_digits (ctx : Context α) {ds : List Char} (hne : ds ≠ [])
    (hd : ∀ c ∈ ds, c.isDigit = true) :
    evaluate ctx ds =
      match narrow? (Nat.ofDigitChars 10 ds 0) with
      | some n => .ok (.int n)
      | none => .error (.evaluation (.ofList ds) (.badNumber (.ofList ds))) := by
  have isDigits : isDigits ds = true := isDigits_iff.2 ⟨hne, hd⟩
  have spells : Spells (ds ++ []) (Tree.word ds).tokens :=
    .word hne (fun c hc => isWordChar_of_isDigit (hd c hc)) nofun .nil
  rw [List.append_nil] at spells
  have read : read? ds = narrow? (Nat.ofDigitChars 10 ds 0) := by
    rw [read?, readInt?_of_isDigits isDigits, ofDigits_eq_ofDigitChars, Option.bind_some]
  rw [evaluate_of_spells spells trivial (Nat.zero_le _), Tree.value, wordValue, if_pos isDigits,
    read]
  cases narrow? (Nat.ofDigitChars 10 ds 0) <;> rfl

/-- The decimal form of an integer that is not negative evaluates to the integer, with any number of
zeros in front. -/
theorem evaluate_decimal (ctx : Context α) {n : Int64} (h : 0 ≤ n.toInt) (zeros : ℕ) :
    evaluate ctx (List.replicate zeros '0' ++ (toString n).toList) = .ok (.int n) := by
  have written : (toString n).toList = digits n.toInt.natAbs := by
    rw [toList_toString, write_of_nonneg h]
  have isDigit : ∀ c ∈ List.replicate zeros '0' ++ digits n.toInt.natAbs, c.isDigit = true :=
    fun c mem => isDigit_of_mem_replicate_append mem
  have value : Nat.ofDigitChars 10 (List.replicate zeros '0' ++ digits n.toInt.natAbs) 0 =
      n.toInt.natAbs := by
    rw [← ofDigits_eq_ofDigitChars, ofDigits_replicate_append, ofDigits_digits]
  rw [written, evaluate_of_digits ctx (by simp [digits_ne_nil]) isDigit, value,
    Int.natAbs_of_nonneg h, narrow?_toInt]

/-- Integers survive every trip through text. An integer is written in its standard decimal form,
and all its texts stand for it again; so arithmetic gives the same for two integers and for any
texts of them. The decimal form of one that is not negative evaluates to it, whatever zeros are put
in front. A text stands for an integer exactly if, trimmed, it is digits with at most one sign that
denote the integer; and digits alone evaluate to the number that they denote, or fail with all of
them if that is out of range. -/
theorem integers_through_text :
    (∀ n : Int64, (Value.int n : Value α).write = toString n ∧
      ∀ s, IsTextOf n s → (Value.text s : Value α).toInt = .ok n) ∧
    (∀ (op : ArithmeticOperator) (m n : Int64) (v w : Value α), Represents m v → Represents n w →
      op.apply v w = op.apply (.int m) (.int n)) ∧
    (∀ (ctx : Context α) (n : Int64) (zeros : ℕ), 0 ≤ n.toInt →
      evaluate ctx (List.replicate zeros '0' ++ (toString n).toList) = .ok (.int n)) ∧
    (∀ (s : String) (n : Int64),
      (Value.text s : Value α).toInt = .ok n ↔ Numeral (trim s.toList) n.toInt) ∧
    ∀ (ctx : Context α) (ds : List Char), ds ≠ [] → (∀ c ∈ ds, c.isDigit = true) →
      (Nat.ofDigitChars 10 ds 0 ≤ 2 ^ 63 - 1 → ∃ n : Int64,
        evaluate ctx ds = .ok (.int n) ∧ n.toInt = Nat.ofDigitChars 10 ds 0) ∧
      (2 ^ 63 - 1 < Nat.ofDigitChars 10 ds 0 →
        evaluate ctx ds = .error (.evaluation (.ofList ds) (.badNumber (.ofList ds)))) := by
  refine ⟨fun n => ⟨ofList_write n.toInt, fun s written => (Represents.text written).toInt⟩,
    fun op m n v w hv hw => op.apply_of_represents hv hw,
    fun ctx n zeros nonneg => evaluate_decimal ctx nonneg zeros,
    fun s n => toInt_text_eq_ok_iff, fun ctx ds hne hd => ?_⟩
  rw [evaluate_of_digits ctx hne hd]
  cases narrowed : narrow? (Nat.ofDigitChars 10 ds 0) with
  | some n =>
    have value := narrow?_eq_some_iff.1 narrowed
    have bound := n.toInt_lt
    exact ⟨fun _ => ⟨n, rfl, value⟩, fun large => by omega⟩
  | none =>
    have outside := narrow?_eq_none_iff.1 narrowed
    refine ⟨fun small => absurd ⟨?_, ?_⟩ outside, fun _ => rfl⟩ <;> omega

/-- The least integer, between an em space and a line end; the greatest one, with a plus sign and
with zeros in front; a text with zeros behind its sign; and the first number that is out of
range. -/
theorem integers_through_text_at_limits :
    let ctx : Context Empty := ⟨fun _ => none, fun _ _ => .ok .empty, none⟩
    IsTextOf Int64.minValue "\u2003-9223372036854775808\n" ∧
      (Value.text "\u2003-9223372036854775808\n" : Value Empty).toInt = .ok Int64.minValue ∧
      ArithmeticOperator.apply .add (.text "\u2003-9223372036854775808\n" : Value Empty)
          (.text "+9223372036854775807") =
        ArithmeticOperator.apply .add (.int Int64.minValue) (.int Int64.maxValue) ∧
      evaluate ctx (List.replicate 3 '0' ++ (toString Int64.maxValue).toList) =
        .ok (.int Int64.maxValue) ∧
      (Value.text " -042" : Value Empty).toInt = .ok (-42) ∧
      (∃ n : Int64, evaluate ctx "042".toList = .ok (.int n) ∧ n.toInt = 42) ∧
      evaluate ctx "9223372036854775808".toList =
        .error (.evaluation "9223372036854775808" (.badNumber "9223372036854775808")) := by
  intro ctx
  have least : IsTextOf Int64.minValue "\u2003-9223372036854775808\n" :=
    ⟨['\u2003'], [], ['\n'], by decide, by decide, .inl rfl⟩
  have greatest : IsTextOf Int64.maxValue "+9223372036854775807" :=
    ⟨[], ['+'], [], by decide, by decide, .inr (by decide)⟩
  have small : ∀ c ∈ "042".toList, c.isDigit = true := by simp
  have large : ∀ c ∈ "9223372036854775808".toList, c.isDigit = true := by simp
  have signed : Numeral (trim " -042".toList) (-42 : Int64).toInt := .minus ⟨by decide, small⟩
  obtain ⟨written, arithmetic, decimal, spelled, digits⟩ := integers_through_text (α := Empty)
  exact ⟨least, (written _).2 _ least, arithmetic _ _ _ _ _ (.text least) (.text greatest),
    decimal ctx _ 3 (by decide), (spelled _ _).2 signed,
    (digits ctx _ (by decide) small).1 (by decide),
    (digits ctx _ (by decide) large).2 (by decide)⟩

end MicroTemplate.Expression
