import MicroTemplate.Calendar.DurationText
import MicroTemplate.Number.Shortest
import MicroTemplate.Value.Host

/-!
# Text forms

Every value has a text form. Null has an empty one; a list joins the forms of its members, and a
map those of its entries in braces.
-/

namespace MicroTemplate

open Number

/-- Texts joined by a comma and a space. -/
def commaJoined (texts : List String) : String := ", ".intercalate texts

namespace Value

variable {α : Type} [HostObject α]

mutual

/-- The text form of a value. -/
def write : Value α → String
  | null => ""
  | bool b => if b then "true" else "false"
  | int n => .ofList (Number.write n.toInt)
  | float x => .ofList (writeFloat x)
  | text s => s
  | list items => commaJoined (writeItems items)
  | map entries => "\x7b" ++ commaJoined (writeEntries entries) ++ "\x7d"
  | dateTime t => .ofList t.write
  | duration d => .ofList d.write
  | object o => HostObject.text o

/-- The text forms of the members of a list. -/
def writeItems : List (Value α) → List String
  | [] => []
  | v :: vs => v.write :: writeItems vs

/-- The text forms of the entries of a map. -/
def writeEntries : List (String × Value α) → List String
  | [] => []
  | (name, v) :: es => (name ++ ": " ++ v.write) :: writeEntries es

end

theorem writeItems_eq_map (vs : List (Value α)) : writeItems vs = vs.map write := by
  induction vs with
  | nil => rfl
  | cons v vs ih => simp [writeItems, ih]

theorem writeEntries_eq_map (es : List (String × Value α)) :
    writeEntries es = es.map fun e => e.1 ++ ": " ++ e.2.write := by
  induction es with
  | nil => rfl
  | cons e es ih => simp [writeEntries, ih]

end Value

end MicroTemplate
