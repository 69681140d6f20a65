import MicroTemplate.Value.Coercion

/-!
# Arithmetic on values

Sums, differences and quotients are integers whatever the operands are; only a product with a
floating-point operand is a floating-point number. Integer results are exact or refused.
-/

namespace MicroTemplate.Value

open Number

variable {α : Type}

/-- An exact result as a value, or an overflow if it does not fit. -/
def exact (n : Int) : Except Cause (Value α) :=
  match narrow? n with
  | some k => .ok (.int k)
  | none => .error (.arithmetic .overflow)

/-- The sum of two values as integers. -/
def add (a b : Value α) : Except Cause (Value α) := do
  let m ← a.toInt
  let n ← b.toInt
  exact (m.toInt + n.toInt)

/-- The difference of two values as integers. -/
def sub (a b : Value α) : Except Cause (Value α) := do
  let m ← a.toInt
  let n ← b.toInt
  exact (m.toInt - n.toInt)

/-- The product of two values, as floating-point numbers if one of them is such a number. -/
def mul (a b : Value α) : Except Cause (Value α) := do
  if a.isFloat || b.isFloat then
    let x ← a.toFloat
    let y ← b.toFloat
    return .float (x * y)
  let m ← a.toInt
  let n ← b.toInt
  exact (m.toInt * n.toInt)

/-- The quotient of two values as integers, truncated toward zero. -/
def div (a b : Value α) : Except Cause (Value α) := do
  let m ← a.toInt
  let n ← b.toInt
  if n.toInt = 0 then .error (.arithmetic .divisionByZero)
  else exact (m.toInt.tdiv n.toInt)

/-- An operation on the bits of two values as integers. -/
def bitwise (op : Int64 → Int64 → Int64) (a b : Value α) : Except Cause (Value α) := do
  let m ← a.toInt
  let n ← b.toInt
  return .int (op m n)

/-- The text forms of two values, one after the other. -/
def concat [HostObject α] (a b : Value α) : Value α := .text (a.write ++ b.write)

end MicroTemplate.Value
