import MicroTemplate.Value.Basic

/-!
# Objects of the application

What an application tells about its own objects. Each of them has a text and a type; beyond that it
may offer an adapter with properties and methods, or a table of named values, or elements, or an
order against other values. An object with none of these is reached through the fields and methods
registered for its type.
-/

namespace MicroTemplate

/-- Named properties and methods of an object. -/
structure Adapter (α : Type) where
  /-- The value of a property, if there is one of that name. -/
  property : String → Option (Value α)
  /-- Calls a method. It may fail with a message, and there may be none of that name. -/
  invoke : String → List (Value α) → Except String (Option (Value α))

/-- What is known of the objects of an application. -/
class HostObject (α : Type) where
  /-- Two objects are equal when they are the same instance. -/
  sameInstance : DecidableEq α
  /-- The name of the type of an object, under which fields and methods are registered. -/
  typeName : α → String
  /-- The text of an object. -/
  text : α → String
  /-- The adapter of an object that has one. -/
  adapter : α → Option (Adapter α)
  /-- The table of an object that has one. -/
  lookup : α → Option (String → Option (Value α))
  /-- The elements of an object that has them. -/
  items : α → Option (List (Value α))
  /-- The order of an object against another value, when it has one. -/
  compare : α → Value α → Option Ordering

/-- Two objects are told apart by their instances. -/
instance (priority := low) {α : Type} [HostObject α] : DecidableEq α := HostObject.sameInstance

/-- An application without objects. -/
instance : HostObject Empty where
  sameInstance := fun a => a.elim
  typeName := Empty.elim
  text := Empty.elim
  adapter := Empty.elim
  lookup := Empty.elim
  items := Empty.elim
  compare := Empty.elim

end MicroTemplate
