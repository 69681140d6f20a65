import MicroTemplate.Value.Host

/-!
# Equality of values

Two values are equal when they are of one kind and hold the same. Maps are equal when they hold
equal values under the same names, whatever their order; objects when they are the same instance. A
floating-point number equals itself unless it is undefined.
-/

namespace MicroTemplate.Value

variable {α : Type} [HostObject α]

mutual

/-- Whether two values are equal. -/
def same : Value α → Value α → Bool
  | null, null => true
  | bool b, bool c => b == c
  | int m, int n => m == n
  | float x, float y => x == y
  | text s, text t => s == t
  | list vs, list ws => sameItems vs ws
  | map es, map fs => es.length == fs.length && sameEntries es fs
  | dateTime s, dateTime t => decide (s = t)
  | duration s, duration t => decide (s = t)
  | object o, object p => decide (o = p)
  | _, _ => false

/-- Whether two lists are equal member by member. -/
def sameItems : List (Value α) → List (Value α) → Bool
  | [], [] => true
  | v :: vs, w :: ws => v.same w && sameItems vs ws
  | _, _ => false

/-- Whether each entry has an equal value under its name among the others. -/
def sameEntries : List (String × Value α) → List (String × Value α) → Bool
  | [], _ => true
  | (name, v) :: es, fs =>
    (match fs.lookup name with
      | some w => v.same w
      | none => false) && sameEntries es fs

end

instance : BEq (Value α) := ⟨same⟩

end MicroTemplate.Value
