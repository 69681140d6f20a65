import MicroTemplate.Environment
import MicroTemplate.Expression.Machine
import MicroTemplate.Function.Registry

/-!
# Engines

An engine holds the functions and the registered members that templates can use. It renders one
template at a time: while it does, it is marked, and a render started then is refused.
-/

namespace MicroTemplate

open Calendar

/-- What templates are rendered with. -/
structure Engine (α : Type) where
  /-- The functions that expressions can call. -/
  functions : Functions α
  /-- The fields and methods registered for types. -/
  types : TypeRegistry α
  /-- Whether a render is going on. -/
  rendering : Bool

namespace Engine

variable {α : Type} [HostObject α]

/-- An engine with those functions and members, not rendering anything. -/
def of (functions : Functions α) (types : TypeRegistry α) : Engine α := ⟨functions, types, false⟩

/-- The engine at another moment. -/
def withClock (engine : Engine α) (moment : DateTime) : Engine α :=
  { engine with functions := engine.functions.withClock moment }

/-- What expressions see: the variables, the functions and the registered members. -/
def context (engine : Engine α) (env : Environment α) : Expression.Context α where
  valueOf := env.get?
  call := engine.functions.invoke
  types := some engine.types

/-- Evaluates an expression outside of any render. -/
def evaluate (engine : Engine α) (env : Environment α) (text : String) :
    Except Error (Value α) :=
  Expression.evaluate (engine.context env) text.toList

end Engine

end MicroTemplate
