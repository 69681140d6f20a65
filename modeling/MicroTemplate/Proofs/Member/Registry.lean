import MicroTemplate.Member.Method
import MicroTemplate.Proofs.Environment.Bindings

/-!
# Registered members as the last resort

What an application registers for the types of its objects is asked for only where nothing else
answers: a property of an object that has neither an adapter nor a table, and a method of an object
that has no adapter. Even there nothing counts but the member registered last for the type of the
object under that very name.
-/

namespace MicroTemplate

/-! ## Registrations -/

namespace TypeRegistry

variable {α : Type}

/-- What an application registers. -/
inductive Registration (α : Type) where
  /-- A field of a type. -/
  | field (type name : String) (field : Field α)
  /-- A method of a type. -/
  | method (type name : String) (method : Method α)

/-- The registry with one more registration. -/
def register (r : TypeRegistry α) : Registration α → TypeRegistry α
  | .field type name field => r.registerField type name field
  | .method type name method => r.registerMethod type name method

/-- The registry after some registrations. -/
def ofRegistrations (registrations : List (Registration α)) : TypeRegistry α :=
  registrations.foldl register empty

/-- The field that is registered, under its type and name. -/
def Registration.field? : Registration α → Option ((String × String) × Field α)
  | field type name f => some ((type, name), f)
  | method _ _ _ => none

/-- The method that is registered, under its type and name. -/
def Registration.method? : Registration α → Option ((String × String) × Method α)
  | field _ _ _ => none
  | method type name m => some ((type, name), m)

/-- The field registered last for a type under a name. -/
def lastField? (registrations : List (Registration α)) (type name : String) : Option (Field α) :=
  latest? (type, name) (registrations.filterMap Registration.field?)

/-- The method registered last for a type under a name. -/
def lastMethod? (registrations : List (Registration α)) (type name : String) :
    Option (Method α) :=
  latest? (type, name) (registrations.filterMap Registration.method?)

/-- One more member is the last one of its type and name. -/
theorem member?_enter {β : Type} {table : Table β} {entries : List ((String × String) × β)}
    (h : ∀ type name, member? table type name = latest? (type, name) entries)
    (type name : String) (member : β) (type' name' : String) :
    member? (enter type name member table) type' name' =
      latest? (type', name') (entries ++ [((type, name), member)]) := by
  by_cases he : type' = type ∧ name' = name
  · obtain ⟨rfl, rfl⟩ := he
    rw [member?_enter_self, latest?_append_self]
  · rw [member?_enter_of_ne he, latest?_append_of_ne, h]
    exact fun hk => he (Prod.mk.inj hk)

/-- A registry holds the members registered last. -/
theorem member?_ofRegistrations (registrations : List (Registration α)) (type name : String) :
    member? (ofRegistrations registrations).fields type name =
        lastField? registrations type name ∧
      member? (ofRegistrations registrations).methods type name =
        lastMethod? registrations type name := by
  induction registrations using List.reverseRecOn generalizing type name with
  | nil => exact ⟨rfl, rfl⟩
  | append_singleton registrations r ih =>
    rw [ofRegistrations, List.foldl_concat, lastField?, lastMethod?, List.filterMap_append,
      List.filterMap_append]
    cases r with
    | field t n f =>
      have others : [Registration.field t n f].filterMap Registration.method? = [] := rfl
      rw [others, List.append_nil]
      exact ⟨member?_enter (fun type name => (ih type name).1) t n f type name, (ih type name).2⟩
    | method t n m =>
      have others : [Registration.method t n m].filterMap Registration.field? = [] := rfl
      rw [others, List.append_nil]
      exact ⟨(ih type name).1, member?_enter (fun type name => (ih type name).2) t n m type name⟩

end TypeRegistry

/-! ## What is asked for in a registry -/

namespace Value

open TypeRegistry

variable {α : Type} [HostObject α] {o : α}

/-- An object with neither an adapter nor a table has the field registered last for its type. -/
theorem property_object (adapter : HostObject.adapter o = none)
    (table : HostObject.lookup o = none) (registrations : List (Registration α)) (name : String) :
    (Value.object o).property (some (ofRegistrations registrations)) name =
      match lastField? registrations (HostObject.typeName o) name with
      | some field => field o
      | none => empty := by
  rw [property, adapter, table, Option.bind_some, field?, (member?_ofRegistrations _ _ _).1]
  cases lastField? registrations (HostObject.typeName o) name <;> rfl

/-- An object without an adapter has the method registered last for its type. -/
theorem call_object (adapter : HostObject.adapter o = none)
    (registrations : List (Registration α)) (name : String) (args : List (Value α)) :
    (Value.object o).call (some (ofRegistrations registrations)) name args =
      match lastMethod? registrations (HostObject.typeName o) name with
      | some method => method o args
      | none => .ok empty := by
  rw [call, adapter, Option.bind_some, method?, (member?_ofRegistrations _ _ _).2]
  cases lastMethod? registrations (HostObject.typeName o) name <;> rfl

variable {v : Value α} {registrations registrations' : List (Registration α)} {name : String}

/-- Registries in which the same field was registered last give the same property, and nothing needs
to be the same where none of them is asked. -/
theorem property_congr
    (same : ∀ o, v = .object o → HostObject.adapter o = none → HostObject.lookup o = none →
      lastField? registrations (HostObject.typeName o) name =
        lastField? registrations' (HostObject.typeName o) name) :
    v.property (some (ofRegistrations registrations)) name =
      v.property (some (ofRegistrations registrations')) name := by
  cases v with
  | object o =>
    cases adapter : HostObject.adapter o with
    | some _ => simp only [property, adapter]
    | none =>
      cases table : HostObject.lookup o with
      | some _ => simp only [property, adapter, table]
      | none =>
        rw [property_object adapter table, property_object adapter table,
          same o rfl adapter table]
  | _ => rfl

/-- So do registries in which the same method was registered last, for the result of the method. -/
theorem call_congr
    (same : ∀ o, v = .object o → HostObject.adapter o = none →
      lastMethod? registrations (HostObject.typeName o) name =
        lastMethod? registrations' (HostObject.typeName o) name)
    (args : List (Value α)) :
    v.call (some (ofRegistrations registrations)) name args =
      v.call (some (ofRegistrations registrations')) name args := by
  cases v with
  | object o =>
    cases adapter : HostObject.adapter o with
    | some _ => simp only [call, adapter]
    | none => rw [call_object adapter, call_object adapter, same o rfl adapter]
  | _ => rfl

/-- A registry is the last resort. Two of them give different properties only of an object that has
neither an adapter nor a table, and different results of a method only of an object that has no
adapter, and only if the members differ that were registered last for exactly its type and name.
Where a registry is asked, the answer is that of the member registered last, or the empty text if
there is none. -/
theorem registry_last_resort (registrations registrations' : List (Registration α)) (v : Value α)
    (name : String) (args : List (Value α)) :
    let types := some (ofRegistrations registrations)
    let types' := some (ofRegistrations registrations')
    (v.property types name ≠ v.property types' name →
        ∃ o, v = .object o ∧ HostObject.adapter o = none ∧ HostObject.lookup o = none ∧
          lastField? registrations (HostObject.typeName o) name ≠
            lastField? registrations' (HostObject.typeName o) name) ∧
      (∀ o, v = .object o → HostObject.adapter o = none → HostObject.lookup o = none →
        v.property types name =
          match lastField? registrations (HostObject.typeName o) name with
          | some field => field o
          | none => empty) ∧
      (v.call types name args ≠ v.call types' name args →
        ∃ o, v = .object o ∧ HostObject.adapter o = none ∧
          lastMethod? registrations (HostObject.typeName o) name ≠
            lastMethod? registrations' (HostObject.typeName o) name) ∧
      ∀ o, v = .object o → HostObject.adapter o = none →
        v.call types name args =
          match lastMethod? registrations (HostObject.typeName o) name with
          | some method => method o args
          | none => .ok empty := by
  intro types types'
  refine ⟨fun differ => ?_, ?_, fun differ => ?_, ?_⟩
  · by_contra same
    push Not at same
    exact differ (property_congr same)
  · rintro o rfl adapter table
    exact property_object adapter table registrations name
  · by_contra same
    push Not at same
    exact differ (call_congr same args)
  · rintro o rfl adapter
    exact call_object adapter registrations name args

/-- Two objects without an adapter, of which the second has a table, an empty one. -/
inductive Sample where
  | plain
  | tabled
  deriving DecidableEq

instance : HostObject Sample where
  sameInstance := inferInstance
  typeName
    | .plain => "plain"
    | .tabled => "tabled"
  text _ := "sample"
  adapter _ := none
  lookup
    | .plain => none
    | .tabled => some fun _ => none
  items _ := none
  compare _ _ := none

/-- A field is registered again; one is registered for an object with a table and never asked for,
but the method of that object is. -/
theorem registry_last_resort_table :
    let one : Field Sample := fun _ => .int 1
    let two : Field Sample := fun _ => .int 2
    let fails : Method Sample := fun _ _ => .error "no"
    let registrations : List (Registration Sample) :=
      [.field "plain" "Size" one, .field "tabled" "Size" one, .method "tabled" "Go" fails,
        .field "plain" "Size" two]
    let types := some (ofRegistrations registrations)
    let types' := some (ofRegistrations ([] : List (Registration Sample)))
    ((Value.object Sample.plain).property types "Size" = .int 2 ∧
        (Value.object Sample.plain).property types' "Size" = .text "" ∧
        lastField? registrations "plain" "Size" ≠ none) ∧
      (Value.object Sample.tabled).property types "Size" = .null ∧
      (Value.object Sample.tabled).call types "Go" [] = .error "no" ∧
        (Value.object Sample.tabled).call types' "Go" [] = .ok (.text "") ∧
        lastMethod? registrations "tabled" "Go" ≠ none := by
  intro one two fails registrations types types'
  obtain ⟨fieldDiffers, field, _, _⟩ :=
    registry_last_resort registrations [] (.object Sample.plain) "Size" []
  obtain ⟨_, _, methodDiffers, method⟩ :=
    registry_last_resort registrations [] (.object Sample.tabled) "Go" []
  have none : (Value.object Sample.plain).property types' "Size" = .text "" := rfl
  have size : (Value.object Sample.plain).property types "Size" = .int 2 := field _ rfl rfl rfl
  have nothing : (Value.object Sample.tabled).call types' "Go" [] = .ok (.text "") := rfl
  have go : (Value.object Sample.tabled).call types "Go" [] = .error "no" := method _ rfl rfl
  obtain ⟨_, ⟨⟩, _, _, fields⟩ := fieldDiffers (by rw [size, none]; nofun)
  obtain ⟨_, ⟨⟩, _, methods⟩ := methodDiffers (by rw [go, nothing]; nofun)
  exact ⟨⟨size, none, fields⟩, rfl, go, nothing, methods⟩

end Value

end MicroTemplate
