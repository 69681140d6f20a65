import MicroTemplate.Proofs.Expression.Stacks

/-!
# Arithmetic on values is exact or refused

The four operations turn both operands into integers of 64 bits, the left one first, and compute
with these as if integers had no bounds. The result is given if it lies in range and the divisor is
not zero, and otherwise there is none. Which of the reasons is reported follows from the order in
which they are looked for.
-/

namespace MicroTemplate.Value

open Expression Number

/-- The integers of 64 bits. -/
def InRange (n : ℤ) : Prop := -2 ^ 63 ≤ n ∧ n ≤ 2 ^ 63 - 1

instance (n : ℤ) : Decidable (InRange n) := inferInstanceAs (Decidable (_ ∧ _))

/-- The operations of arithmetic. -/
inductive ArithmeticOperator where
  | add
  | sub
  | mul
  | div
  deriving DecidableEq

namespace ArithmeticOperator

variable {α : Type}

/-- The operation on values. -/
def apply : ArithmeticOperator → Value α → Value α → Except Cause (Value α)
  | add => Value.add
  | sub => Value.sub
  | mul => Value.mul
  | div => Value.div

/-- The operation on unbounded integers; a quotient is truncated toward zero. -/
def exact : ArithmeticOperator → ℤ → ℤ → ℤ
  | add, m, n => m + n
  | sub, m, n => m - n
  | mul, m, n => m * n
  | div, m, n => m.tdiv n

/-- Whether the operation has a result on unbounded integers: nothing is divided by zero. -/
def Defined (op : ArithmeticOperator) (n : ℤ) : Prop := op = .div → n ≠ 0

instance (op : ArithmeticOperator) (n : ℤ) : Decidable (op.Defined n) :=
  inferInstanceAs (Decidable (_ → _))

/-- What the operation gives for two integers of 64 bits. -/
def ofInts (op : ArithmeticOperator) (m n : Int64) : Except Cause (Value α) :=
  if op.Defined n.toInt then Value.exact (op.exact m.toInt n.toInt)
  else .error (.arithmetic .divisionByZero)

/-- Whether the operation on two values is one on integers. Only a product with a floating-point
operand is not. -/
def OnIntegers (op : ArithmeticOperator) (a b : Value α) : Prop :=
  op = .mul → a.isFloat = false ∧ b.isFloat = false

/-- Why an operation on two values has no result. The operands come first, the left one before the
right one, then the divisor, and the result last. -/
inductive Refuses (op : ArithmeticOperator) (a b : Value α) : Cause → Prop where
  /-- The left operand stands for no integer. -/
  | left {cause} (ha : a.toInt = .error cause) : Refuses op a b cause
  /-- The right operand stands for no integer. -/
  | right {m cause} (ha : a.toInt = .ok m) (hb : b.toInt = .error cause) : Refuses op a b cause
  /-- The divisor is zero. -/
  | divisionByZero {m n} (ha : a.toInt = .ok m) (hb : b.toInt = .ok n) (hz : ¬op.Defined n.toInt) :
    Refuses op a b (.arithmetic .divisionByZero)
  /-- The result is out of range. -/
  | overflow {m n} (ha : a.toInt = .ok m) (hb : b.toInt = .ok n) (hd : op.Defined n.toInt)
    (hr : ¬InRange (op.exact m.toInt n.toInt)) : Refuses op a b (.arithmetic .overflow)

end ArithmeticOperator

/-! ## Narrowing -/

theorem inRange_toInt (k : Int64) : InRange k.toInt := by
  have low := k.le_toInt
  have high := k.toInt_lt
  constructor <;> omega

theorem narrow?_eq_some_iff {n : ℤ} {k : Int64} : narrow? n = some k ↔ k.toInt = n := by
  refine ⟨toInt_of_narrow?, ?_⟩
  rintro rfl
  exact narrow?_toInt k

theorem narrow?_eq_none_iff {n : ℤ} : narrow? n = none ↔ ¬InRange n := by
  rw [narrow?, InRange]
  split <;> simp <;> omega

variable {α : Type}

theorem exact_of_inRange {n : ℤ} (h : InRange n) :
    ∃ k : Int64, (exact n : Except Cause (Value α)) = .ok (.int k) ∧ k.toInt = n := by
  cases hn : narrow? n with
  | none => exact absurd h (narrow?_eq_none_iff.1 hn)
  | some k =>
    refine ⟨k, ?_, narrow?_eq_some_iff.1 hn⟩
    rw [exact, hn]

theorem exact_of_not_inRange {n : ℤ} (h : ¬InRange n) :
    (exact n : Except Cause (Value α)) = .error (.arithmetic .overflow) := by
  rw [exact, narrow?_eq_none_iff.2 h]

/-! ## The operations -/

namespace ArithmeticOperator

variable {op : ArithmeticOperator} {a b : Value α} {m n : Int64}

/-- The four operations differ only in what they compute of two integers. -/
theorem apply_eq (h : op.OnIntegers a b) :
    op.apply a b = a.toInt >>= fun m => b.toInt >>= fun n => op.ofInts m n := by
  cases op with
  | add => simp [apply, Value.add, ofInts, Defined, exact]
  | sub => simp [apply, Value.sub, ofInts, Defined, exact]
  | mul =>
    obtain ⟨ha, hb⟩ := h rfl
    simp [apply, Value.mul, ofInts, Defined, exact, ha, hb]
  | div => simp [apply, Value.div, ofInts, Defined, exact]

/-- Two operands that stand for integers with a result in range have that result. -/
theorem apply_of_inRange (h : op.OnIntegers a b) (ha : a.toInt = .ok m) (hb : b.toInt = .ok n)
    (hd : op.Defined n.toInt) (hr : InRange (op.exact m.toInt n.toInt)) :
    ∃ k : Int64, op.apply a b = .ok (.int k) ∧ k.toInt = op.exact m.toInt n.toInt := by
  rw [apply_eq h, ha, hb, ok_bind, ok_bind, ofInts, if_pos hd]
  exact exact_of_inRange hr

/-- What is refused fails for the reason that comes first. -/
theorem Refuses.apply_eq_error (h : op.OnIntegers a b) {cause : Cause}
    (hc : op.Refuses a b cause) : op.apply a b = .error cause := by
  rw [apply_eq h]
  cases hc with
  | left ha => rw [ha, error_bind]
  | right ha hb => rw [ha, hb, ok_bind, error_bind]
  | divisionByZero ha hb hz => rw [ha, hb, ok_bind, ok_bind, ofInts, if_neg hz]
  | overflow ha hb hd hr =>
    rw [ha, hb, ok_bind, ok_bind, ofInts, if_pos hd, exact_of_not_inRange hr]

/-- Two integers without a result in range are refused as a failure of arithmetic. -/
theorem exists_fault_of_ofInts (h : ¬(op.Defined n.toInt ∧ InRange (op.exact m.toInt n.toInt))) :
    ∃ fault, op.apply (.int m : Value α) (.int n) = .error (.arithmetic fault) := by
  have onIntegers : op.OnIntegers (.int m : Value α) (.int n) := fun _ => ⟨rfl, rfl⟩
  by_cases hd : op.Defined n.toInt
  · have outside : ¬InRange (op.exact m.toInt n.toInt) := fun hr => h ⟨hd, hr⟩
    exact ⟨_, (Refuses.overflow rfl rfl hd outside).apply_eq_error onIntegers⟩
  · exact ⟨_, (Refuses.divisionByZero rfl rfl hd).apply_eq_error onIntegers⟩

/-- Any two values have a result in range or a reason why not. -/
theorem exists_result_or_refuses (op : ArithmeticOperator) (a b : Value α) :
    (∃ m n : Int64, a.toInt = .ok m ∧ b.toInt = .ok n ∧ op.Defined n.toInt ∧
        InRange (op.exact m.toInt n.toInt)) ∨
      ∃ cause, op.Refuses a b cause := by
  cases ha : a.toInt with
  | error cause => exact .inr ⟨cause, .left ha⟩
  | ok m =>
    cases hb : b.toInt with
    | error cause => exact .inr ⟨cause, .right ha hb⟩
    | ok n =>
      by_cases hd : op.Defined n.toInt
      · by_cases hr : InRange (op.exact m.toInt n.toInt)
        · exact .inl ⟨m, n, rfl, rfl, hd, hr⟩
        · exact .inr ⟨_, .overflow ha hb hd hr⟩
      · exact .inr ⟨_, .divisionByZero ha hb hd⟩

/-- An operation gives an integer exactly if both operands stand for integers, the divisor is not
zero and the exact result is that integer and in range. -/
theorem exists_apply_eq_ok_iff (h : op.OnIntegers a b) (r : ℤ) :
    (∃ k : Int64, op.apply a b = .ok (.int k) ∧ k.toInt = r) ↔
      ∃ m n : Int64, a.toInt = .ok m ∧ b.toInt = .ok n ∧ op.Defined n.toInt ∧
        op.exact m.toInt n.toInt = r ∧ InRange r := by
  constructor
  · rintro ⟨k, hk, rfl⟩
    rcases exists_result_or_refuses op a b with ⟨m, n, ha, hb, hd, hr⟩ | ⟨cause, hc⟩
    · obtain ⟨k', hk', value⟩ := apply_of_inRange h ha hb hd hr
      rw [hk] at hk'
      cases hk'
      exact ⟨m, n, ha, hb, hd, value.symm, inRange_toInt k⟩
    · rw [hc.apply_eq_error h] at hk
      cases hk
  · rintro ⟨m, n, ha, hb, hd, rfl, hr⟩
    exact apply_of_inRange h ha hb hd hr

/-- What an operation gives is an integer. -/
theorem eq_int_of_apply (h : op.OnIntegers a b) {v : Value α} (hv : op.apply a b = .ok v) :
    ∃ k, v = .int k := by
  rcases exists_result_or_refuses op a b with ⟨m, n, ha, hb, hd, hr⟩ | ⟨cause, hc⟩
  · obtain ⟨k, hk, _⟩ := apply_of_inRange h ha hb hd hr
    rw [hv] at hk
    cases hk
    exact ⟨k, rfl⟩
  · rw [hc.apply_eq_error h] at hv
    cases hv

/-- An operation fails exactly for the first reason that there is. -/
theorem apply_eq_error_iff (h : op.OnIntegers a b) {cause : Cause} :
    op.apply a b = .error cause ↔ op.Refuses a b cause := by
  refine ⟨fun he => ?_, (·.apply_eq_error h)⟩
  rcases exists_result_or_refuses op a b with ⟨m, n, ha, hb, hd, hr⟩ | ⟨cause', hc⟩
  · obtain ⟨k, hk, _⟩ := apply_of_inRange h ha hb hd hr
    rw [he] at hk
    cases hk
  · rw [hc.apply_eq_error h] at he
    cases he
    exact hc

end ArithmeticOperator

end MicroTemplate.Value
