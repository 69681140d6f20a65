import MicroTemplate.Calendar.DateTime

/-!
# Values

The values that expressions compute with. They are loosely typed: each operation asks for the kind
it needs and says what it cannot convert. Objects of the application that renders a template are
values too; their type is a parameter, and nothing is known of them but what `HostObject` tells.

A map has each name once. The type does not say so: a condition on the names inside a value would
have to be stated while the type of values is being defined. It is `Value.Distinct`, and where a law
needs it of the maps inside a value, the law asks for it. The bindings of an environment stand
outside of this recursion, and their type carries it.
-/

namespace MicroTemplate

open Calendar

/-- The kinds of values. -/
inductive Kind where
  | null
  | boolean
  | integer
  | float
  | text
  | list
  | map
  | datetime
  | duration
  | object
  deriving DecidableEq, Repr

/-- The name of a kind, as error messages give it. -/
def Kind.name : Kind → String
  | null => "null"
  | boolean => "boolean"
  | integer => "integer"
  | float => "float"
  | text => "text"
  | list => "list"
  | map => "map"
  | datetime => "datetime"
  | duration => "duration"
  | object => "object"

/-- A value; `α` is the type of the application's objects. -/
inductive Value (α : Type) where
  /-- Nothing. -/
  | null
  /-- True or false. -/
  | bool (b : Bool)
  /-- An integer of 64 bits. -/
  | int (n : Int64)
  /-- A floating-point number. -/
  | float (x : Float)
  /-- A text. -/
  | text (s : String)
  /-- Values in order. -/
  | list (items : List (Value α))
  /-- Values by name, in the order of the names. -/
  | map (entries : List (String × Value α))
  /-- A date with a time. -/
  | dateTime (t : DateTime)
  /-- A span of time. -/
  | duration (d : Duration)
  /-- An object of the application. -/
  | object (o : α)

namespace Value

variable {α : Type}

/-- The empty text, which stands for what is not there. -/
def empty : Value α := .text ""

instance : Inhabited (Value α) := ⟨empty⟩

/-- The kind of a value. -/
def kind : Value α → Kind
  | null => .null
  | bool _ => .boolean
  | int _ => .integer
  | float _ => .float
  | text _ => .text
  | list _ => .list
  | map _ => .map
  | dateTime _ => .datetime
  | duration _ => .duration
  | object _ => .object

/-- Null and the empty text, which are the same to comparisons. -/
def isBlank : Value α → Bool
  | null => true
  | text s => s.isEmpty
  | _ => false

/-- Whether a value is a floating-point number. -/
def isFloat : Value α → Bool
  | float _ => true
  | _ => false

/-- Whether a value is a text. -/
def isText : Value α → Bool
  | text _ => true
  | _ => false

end Value

end MicroTemplate
