import MicroTemplate.Bindings
import MicroTemplate.Value.Equality
import MicroTemplate.Value.Text

/-!
# Environments

The variables of a render: a value for each bound name, in the order in which the names were first
bound. No name is bound twice.
-/

namespace MicroTemplate

/-- The variables of a render. -/
@[ext]
structure Environment (α : Type) where
  /-- The bound names with their values, in order. -/
  bindings : List (String × Value α)
  /-- Each name is bound once. -/
  nodup : (bindings.map Prod.fst).Nodup

namespace Environment

variable {α : Type}

/-- No variables. -/
def empty : Environment α := ⟨[], .nil⟩

instance : Inhabited (Environment α) := ⟨empty⟩

/-- Binds a name. One that is bound keeps its place. -/
def set (env : Environment α) (name : String) (value : Value α) : Environment α :=
  ⟨Bindings.insert name value env.bindings, Bindings.nodup_insert env.nodup name value⟩

/-- The value of a name, if it is bound. -/
def get? (env : Environment α) (name : String) : Option (Value α) := env.bindings.lookup name

/-- Removes a binding. The others keep their order. -/
def unset (env : Environment α) (name : String) : Environment α :=
  ⟨Bindings.erase name env.bindings, Bindings.nodup_erase env.nodup name⟩

/-- Removes a binding and tells its value, if the name was bound. -/
def remove (env : Environment α) (name : String) : Option (Value α) × Environment α :=
  let taken := Bindings.extract name env.bindings
  have rest : taken.2 = Bindings.erase name env.bindings :=
    congrArg Prod.snd (Bindings.extract_eq name env.bindings)
  (taken.1, ⟨taken.2, rest ▸ Bindings.nodup_erase env.nodup name⟩)

/-- Whether a name is bound. -/
def contains (env : Environment α) (name : String) : Bool := (env.get? name).isSome

/-- Binds names one after the other. -/
def extend (env : Environment α) (pairs : List (String × Value α)) : Environment α :=
  ⟨Bindings.insertAll env.bindings pairs, Bindings.nodup_insertAll env.nodup pairs⟩

/-- The environment of some bindings, made one after the other. -/
def ofList (pairs : List (String × Value α)) : Environment α := empty.extend pairs

/-- The number of bound names. -/
def size (env : Environment α) : Nat := env.bindings.length

/-- Whether no name is bound. -/
def isEmpty (env : Environment α) : Bool := env.bindings.isEmpty

theorem get?_set_self (env : Environment α) (name : String) (value : Value α) :
    (env.set name value).get? name = some value :=
  Bindings.lookup_insert_self name value env.bindings

theorem get?_set_of_ne {name other : String} (h : other ≠ name) (env : Environment α)
    (value : Value α) : (env.set name value).get? other = env.get? other :=
  Bindings.lookup_insert_of_ne h value env.bindings

variable [HostObject α]

/-- Every name with its value, in order. -/
def list (env : Environment α) : String :=
  commaJoined (env.bindings.map fun (name, value) => name ++ ": " ++ value.write)

/-- Whether two environments bind the same names to equal values, in whatever order. -/
def same (a b : Environment α) : Bool :=
  a.bindings.length == b.bindings.length && Value.sameEntries a.bindings b.bindings

instance : BEq (Environment α) := ⟨same⟩

end Environment

end MicroTemplate
