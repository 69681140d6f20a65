import MicroTemplate.Value.Coercion

/-!
# The order of values

The relational operators share one comparison. Null and the empty text are equal and come after
everything else; a floating-point operand makes both floating-point; a text makes both texts. Pairs
without an order count as less.
-/

namespace MicroTemplate.Value

variable {α : Type} [HostObject α]

/-- The order of two floating-point numbers; less where there is none. -/
def compareFloats (x y : Float) : Ordering :=
  if x < y then .lt else if x == y then .eq else if y < x then .gt else .lt

/-- The order of two values, neither of which is blank, a floating-point number or a text. -/
def compareSolid : Value α → Value α → Ordering
  | int m, int n => Ord.compare m.toInt n.toInt
  | int m, bool c => Ord.compare m.toInt (if c then 1 else 0)
  | bool b, int n => Ord.compare (if b then 1 else 0) n.toInt
  | bool b, bool c => Ord.compare (if b then 1 else 0 : Int) (if c then 1 else 0)
  | dateTime s, dateTime t => s.compare t
  | duration s, duration t => s.compare t
  | object o, v => (HostObject.compare o v).getD .lt
  | v, object o => ((HostObject.compare o v).map Ordering.swap).getD .lt
  | _, _ => .lt

/-- The order of two values. -/
def compare (a b : Value α) : Except Cause Ordering :=
  match a.isBlank, b.isBlank with
  | true, true => .ok .eq
  | true, false => .ok .gt
  | false, true => .ok .lt
  | false, false =>
    if a.isFloat || b.isFloat then do
      let x ← a.toFloat
      let y ← b.toFloat
      return compareFloats x y
    else if a.isText || b.isText then .ok (Ord.compare a.write b.write)
    else .ok (compareSolid a b)

end MicroTemplate.Value
