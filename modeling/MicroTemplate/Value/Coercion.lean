import MicroTemplate.Error
import MicroTemplate.Number.FloatReader
import MicroTemplate.Text.Case
import MicroTemplate.Text.Trim
import MicroTemplate.Value.Text

/-!
# Coercions

Every operator turns its operands into the kind it works on. Null counts as zero, false and empty;
texts are read; lists, maps, dates, spans of time and objects are never numbers.
-/

namespace MicroTemplate.Value

open Number Text

variable {α : Type}

/-- Whether a value counts as true. Null, zero, what is empty and the text `false` do not. -/
def truth : Value α → Bool
  | null => false
  | bool b => b
  | int n => n != 0
  | float x => x != 0.0
  | text s => !s.isEmpty && !equalsIgnoringAsciiCase s.toList "false".toList
  | list items => !items.isEmpty
  | map entries => !entries.isEmpty
  | dateTime _ | duration _ | object _ => true

/-- The 64-bit integer that a number stands for after rounding, from the middle to the even
neighbour. -/
def floatToInt (x : Float) : Except Cause Int64 :=
  match (roundToInt? .halfEven x).bind narrow? with
  | some n => .ok n
  | none => .error (.arithmetic .overflow)

/-- The integer that a value stands for. -/
def toInt : Value α → Except Cause Int64
  | null => .ok 0
  | bool b => .ok (if b then 1 else 0)
  | int n => .ok n
  | float x => floatToInt x
  | text s =>
    match read? (trim s.toList) with
    | some n => .ok n
    | none => .error (.cast .text .integer)
  | v => .error (.cast v.kind .integer)

/-- The floating-point number that a value stands for. -/
def toFloat : Value α → Except Cause Float
  | null => .ok 0.0
  | bool b => .ok (if b then 1.0 else 0.0)
  | int n => .ok (Float.ofInt n.toInt)
  | float x => .ok x
  | text s =>
    match readFloat? (trim s.toList) with
    | some x => .ok x
    | none => .error (.cast .text .float)
  | v => .error (.cast v.kind .float)

/-- The elements that a value is gone through by, if it has elements: the members of a list, the
entries of a map each as a map of `Key` and `Value`, the characters of a text, and what an object
offers. -/
def elements? [HostObject α] : Value α → Option (List (Value α))
  | list items => some items
  | map entries =>
    some (entries.map fun (name, v) => .map [("Key", .text name), ("Value", v)])
  | text s => some (s.toList.map fun c => .text (.singleton c))
  | object o => HostObject.items o
  | _ => none

end MicroTemplate.Value
