import MicroTemplate.Bindings
import MicroTemplate.Value.Host

/-!
# Registered fields and methods

Fields and methods that an application registers for the types of its objects. A registration takes
the place of an earlier one for the same type and name.
-/

namespace MicroTemplate

/-- A field: how its value is taken from an object. -/
abbrev Field (α : Type) := α → Value α

/-- A method: what it gives for an object and arguments, or the message with which it fails. -/
abbrev Method (α : Type) := α → List (Value α) → Except String (Value α)

/-- Members by type and by name. -/
abbrev Table (β : Type) := List (String × List (String × β))

/-- The fields and methods registered, each under its type and its name. -/
structure TypeRegistry (α : Type) where
  /-- The fields of each type. -/
  fields : Table (Field α)
  /-- The methods of each type. -/
  methods : Table (Method α)

namespace TypeRegistry

variable {α : Type}

/-- Nothing registered. -/
def empty : TypeRegistry α := ⟨[], []⟩

/-- Members by type and name with one more of them. -/
def enter {β : Type} (type name : String) (member : β) (table : Table β) : Table β :=
  Bindings.insert type (Bindings.insert name member ((table.lookup type).getD [])) table

/-- The member of a type and name, if there is one. -/
def member? {β : Type} (table : Table β) (type name : String) :
    Option β :=
  (table.lookup type).bind (·.lookup name)

/-- Registers a field. -/
def registerField (r : TypeRegistry α) (type name : String) (field : Field α) : TypeRegistry α :=
  { r with fields := enter type name field r.fields }

/-- Registers a method. -/
def registerMethod (r : TypeRegistry α) (type name : String) (method : Method α) :
    TypeRegistry α :=
  { r with methods := enter type name method r.methods }

/-- The value of a registered field of an object. -/
def field? [HostObject α] (r : TypeRegistry α) (o : α) (name : String) : Option (Value α) :=
  (member? r.fields (HostObject.typeName o) name).map (· o)

/-- The registered method of an object. -/
def method? [HostObject α] (r : TypeRegistry α) (o : α) (name : String) :
    Option (List (Value α) → Except String (Value α)) :=
  (member? r.methods (HostObject.typeName o) name).map (· o)

/-- The number of members in a table. -/
def count {β : Type} (table : Table β) : Nat := table.foldr (fun entry n => entry.2.length + n) 0

/-- The number of fields registered. -/
def fieldCount (r : TypeRegistry α) : Nat := count r.fields

/-- The number of methods registered. -/
def methodCount (r : TypeRegistry α) : Nat := count r.methods

/-- How many members are registered, in words. -/
def describe (r : TypeRegistry α) : String :=
  "TypeRegistry \x7b fields: " ++ Number.decimal r.fieldCount ++ ", methods: " ++
    Number.decimal r.methodCount ++ " \x7d"

theorem member?_enter_self {β : Type} (type name : String) (member : β)
    (table : Table β) :
    member? (enter type name member table) type name = some member := by
  simp [member?, enter, Bindings.lookup_insert_self]

theorem member?_enter_of_ne {β : Type} {type name type' name' : String}
    (h : ¬(type' = type ∧ name' = name)) (member : β)
    (table : Table β) :
    member? (enter type name member table) type' name' = member? table type' name' := by
  by_cases ht : type' = type
  · subst ht
    have hn : name' ≠ name := fun hn => h ⟨rfl, hn⟩
    simp only [member?, enter, Bindings.lookup_insert_self, Option.bind_some]
    rw [Bindings.lookup_insert_of_ne hn]
    cases table.lookup type' <;> simp
  · simp [member?, enter, Bindings.lookup_insert_of_ne ht]

end TypeRegistry

end MicroTemplate
