import MicroTemplate.Function.Builtin
import MicroTemplate.Text.Quoted

/-!
# Functions

The functions that expressions can call: those that the application has registered and, where it
wants them, the built-in ones. A registered function takes the place of a built-in one of the same
name, and a name that means nothing gives the empty text.

The clock stands still while functions are called: `clock` is the moment that `now` gives in all
calls of one evaluation, one render or one variables file. A clock that goes on is a matter of one
set of functions after the other, as `Functions.withClock` makes them; what has to hold from one
moment to the next is stated about two such sets.
-/

namespace MicroTemplate

open Calendar

/-- A function of the application: it gives a value or fails with a message. -/
abbrev NativeFunction (α : Type) := List (Value α) → Except String (Value α)

/-- The functions that can be called. -/
structure Functions (α : Type) where
  /-- The functions registered, under their names. -/
  registered : List (String × NativeFunction α)
  /-- Whether the built-in functions can be called. -/
  builtins : Bool
  /-- The present moment. It is read when the functions are put to use, and not again. -/
  clock : DateTime
  /-- How many values a list can have at most. -/
  capacity : Nat

namespace Functions

variable {α : Type} [HostObject α]

/-- No functions at all. -/
def none (clock : DateTime) (capacity : Nat) : Functions α := ⟨[], false, clock, capacity⟩

/-- The built-in functions. -/
def standard (clock : DateTime) (capacity : Nat) : Functions α := ⟨[], true, clock, capacity⟩

/-- The functions at another moment. -/
def withClock (fs : Functions α) (moment : DateTime) : Functions α :=
  { fs with clock := moment }

/-- Registers a function; an earlier one of that name is forgotten. -/
def register (fs : Functions α) (name : String) (f : NativeFunction α) : Functions α :=
  { fs with registered := Bindings.insert name f fs.registered }

/-- Whether a name means a function. -/
def contains (fs : Functions α) (name : String) : Bool :=
  (fs.registered.lookup name).isSome ||
    (fs.builtins && (Builtin.all.map Builtin.name).contains name)

/-- Calls the function of a name. -/
def call (fs : Functions α) (name : String) (args : List (Value α)) : Except String (Value α) :=
  match fs.registered.lookup name with
  | some f => f args
  | .none =>
    match if fs.builtins then Builtin.ofName? name else .none with
    | some f => f.call fs.clock args
    | .none => .ok Value.empty

/-- Whether a call asks for a list that there is no room for. -/
def outgrows (fs : Functions α) (name : String) (args : List (Value α)) : Bool :=
  match fs.registered.lookup name with
  | some _ => false
  | .none =>
    match if fs.builtins then Builtin.ofName? name else .none with
    | some f => f.outgrows fs.capacity args
    | .none => false

/-- Calls the function of a name from an expression. Where there is no room for the result, the
program is stopped. -/
def invoke (fs : Functions α) (name : String) (args : List (Value α)) :
    Except CallFault (Value α) :=
  if fs.outgrows name args then .error (.aborted .room)
  else (fs.call name args).mapError .refused

/-- The functions in words: the names registered, in order, and whether there are built-in ones. -/
def describe (fs : Functions α) : String :=
  let names := (fs.registered.map Prod.fst).mergeSort fun a b => decide (a ≤ b)
  "Functions \x7b registered: [" ++
    commaJoined (names.map fun n => .ofList (Text.quoted n.toList)) ++
    "], builtins: " ++ (if fs.builtins then "true" else "false") ++ " \x7d"

end Functions

end MicroTemplate
