import MicroTemplate.Function.Registry
import MicroTemplate.Proofs.Environment.Bindings

/-!
# What the name of a function means

Whether a name means a function is looked up in the functions registered and in the list of built-in
names; what it calls is found in the functions registered and by the name of each built-in function.
Both ways agree, whatever was registered and in whatever order: a name means the function registered
under it last, or else a built-in function, and exactly the names that mean neither are unknown.
-/

namespace MicroTemplate

open Calendar

/-! ## Built-in functions -/

namespace Builtin

theorem mem_all (f : Builtin) : f ∈ all := by
  cases f <;> decide

theorem ofName?_eq_some_iff {name : String} {f : Builtin} :
    ofName? name = some f ↔ f.name = name := by
  constructor
  · intro h
    unfold ofName? at h
    split at h <;> cases h <;> rfl
  · rintro rfl
    cases f <;> rfl

/-- The names listed are those of functions that can be called. -/
theorem contains_names (name : String) :
    (all.map Builtin.name).contains name = (ofName? name).isSome := by
  rw [Bool.eq_iff_iff, List.contains_iff_mem, List.mem_map, Option.isSome_iff_exists]
  simp only [mem_all, true_and, ofName?_eq_some_iff]

variable {α : Type} [HostObject α]

/-- Whether there is a function of a name does not depend on the arguments. -/
theorem call?_eq_none_iff {clock : DateTime} {name : String} {args : List (Value α)} :
    call? clock name args = none ↔ (ofName? name).isSome = false := by
  rw [call?, Option.map_eq_none_iff, Option.isSome_eq_false_iff, Option.isNone_iff_eq_none]

omit [HostObject α] in
/-- Only `range` can ask for more room than there is. -/
theorem eq_range_of_outgrows {capacity : Nat} {f : Builtin} {args : List (Value α)}
    (h : f.outgrows capacity args = true) : f = range := by
  unfold outgrows at h
  split at h
  · rfl
  · cases h

end Builtin

/-! ## Functions registered -/

namespace Functions

variable {α : Type}

/-- Registers functions one after the other. -/
def registerAll (fs : Functions α) (registrations : List (String × NativeFunction α)) :
    Functions α :=
  registrations.foldl (fun fs r => fs.register r.1 r.2) fs

theorem registerAll_eq (fs : Functions α) (registrations : List (String × NativeFunction α)) :
    fs.registerAll registrations =
      { fs with registered := Bindings.insertAll fs.registered registrations } := by
  induction registrations generalizing fs with
  | nil => rfl
  | cons r registrations ih => exact ih (fs.register r.1 r.2)

section

variable {clock : DateTime} {capacity : Nat} {start : Functions α}
  (hstart : start = .none clock capacity ∨ start = .standard clock capacity)
  (registrations : List (String × NativeFunction α)) (name : String)

include hstart

/-- The function registered last under a name is found. -/
theorem lookup_registerAll :
    (start.registerAll registrations).registered.lookup name = latest? name registrations := by
  have nothing : start.registered = [] := by rcases hstart with rfl | rfl <;> rfl
  rw [registerAll_eq, Bindings.lookup_insertAll, nothing, List.lookup_nil, Option.or_none]

/-- A name is known if it was registered or is that of a built-in function that can be called. -/
theorem contains_registerAll : (start.registerAll registrations).contains name =
    ((latest? name registrations).isSome ||
      start.builtins && (Builtin.ofName? name).isSome) := by
  rw [contains, lookup_registerAll hstart, registerAll_eq, Builtin.contains_names]

variable [HostObject α]

/-- The function registered last under a name is called. -/
theorem call_registerAll {f : NativeFunction α} (h : latest? name registrations = some f)
    (args : List (Value α)) : (start.registerAll registrations).call name args = f args := by
  rw [call, lookup_registerAll hstart, h]

/-- A name that was not registered means a built-in function, if these can be called. -/
theorem call_registerAll_of_not_mem (h : name ∉ registrations.map Prod.fst)
    (args : List (Value α)) : (start.registerAll registrations).call name args =
      ((if start.builtins then Builtin.call? clock name args else .none).getD
        (.ok Value.empty)) := by
  have clock_eq : start.clock = clock := by rcases hstart with rfl | rfl <;> rfl
  rw [call, lookup_registerAll hstart, latest?_eq_none_iff.2 h, registerAll_eq, clock_eq,
    Builtin.call?]
  cases start.builtins with
  | false => rfl
  | true => cases Builtin.ofName? name <;> rfl

/-- Any arguments tell whether a name is unknown. -/
theorem contains_registerAll_eq_false_iff (args : List (Value α)) :
    (start.registerAll registrations).contains name = false ↔
      name ∉ registrations.map Prod.fst ∧
        (start.builtins = true → Builtin.call? clock name args = .none) := by
  rw [contains_registerAll hstart, Bool.or_eq_false_iff, Option.isSome_eq_false_iff,
    Option.isNone_iff_eq_none, latest?_eq_none_iff, Builtin.call?_eq_none_iff]
  cases start.builtins <;> simp

end

variable [HostObject α]

/-- A call from an expression that is stopped is one of the built-in `range`, for which there is no
room. -/
theorem of_invoke_aborted {fs : Functions α} {name : String} {args : List (Value α)}
    {reason : Abort} (h : fs.invoke name args = .error (.aborted reason)) :
    reason = .room ∧ name = "range" ∧ fs.outgrows name args = true := by
  rw [invoke] at h
  split at h
  · next full =>
    cases h
    refine ⟨rfl, ?_, full⟩
    rw [outgrows] at full
    split at full
    · cases full
    · split at full
      · next f found =>
        obtain rfl := Builtin.eq_range_of_outgrows full
        split at found
        · exact (Builtin.ofName?_eq_some_iff.1 found).symm
        · cases found
      · cases full
  · cases called : fs.call name args <;> rw [called] at h <;> cases h

/-- What a name means after any registrations. The function registered under it last is called, even
if it has the name of a built-in one. A name that was not registered calls the built-in function of
that name, if there are built-in functions. One that means neither is unknown, gives the empty text,
and would be unknown with any other arguments. -/
theorem contains_iff_call {clock : DateTime} {capacity : Nat} {start : Functions α}
    (hstart : start = .none clock capacity ∨ start = .standard clock capacity)
    (registrations : List (String × NativeFunction α)) (name : String) :
    let fs := start.registerAll registrations
    (∀ front f back, registrations = front ++ (name, f) :: back → name ∉ back.map Prod.fst →
        fs.contains name = true ∧ ∀ args, fs.call name args = f args) ∧
      (name ∉ registrations.map Prod.fst → ∀ args : List (Value α),
        (∀ result, start.builtins = true → Builtin.call? clock name args = some result →
          fs.contains name = true ∧ fs.call name args = result) ∧
        ((start.builtins = true → Builtin.call? clock name args = .none) →
          fs.contains name = false ∧
            (start.builtins = true → ∀ others : List (Value α),
              Builtin.call? clock name others = .none) ∧
            ∀ others, fs.call name others = .ok Value.empty)) ∧
      (fs.contains name = false ↔ name ∉ registrations.map Prod.fst ∧
        (start.builtins = true → ∀ args : List (Value α),
          Builtin.call? clock name args = .none)) := by
  intro fs
  have unknown_iff := contains_registerAll_eq_false_iff hstart registrations name
  refine ⟨fun front f back place last => ?_, fun h args => ⟨fun result builtins found => ?_,
    fun missing => ?_⟩, fun unknown => ?_, fun h => ?_⟩
  · have latest := latest?_eq_some_iff.2 ⟨front, back, place, last⟩
    rw [contains_registerAll hstart, latest]
    exact ⟨rfl, call_registerAll hstart registrations name latest⟩
  · rw [call_registerAll_of_not_mem hstart registrations name h, if_pos builtins, found]
    refine ⟨?_, rfl⟩
    by_contra unknown
    have missing := ((unknown_iff args).1 (Bool.eq_false_of_not_eq_true unknown)).2 builtins
    cases found.symm.trans missing
  · have unknown := (unknown_iff args).2 ⟨h, missing⟩
    have all (others : List (Value α)) := ((unknown_iff others).1 unknown).2
    refine ⟨unknown, fun builtins others => all others builtins, fun others => ?_⟩
    rw [call_registerAll_of_not_mem hstart registrations name h]
    split
    · next builtins => rw [all others builtins, Option.getD_none]
    · rfl
  · exact ⟨((unknown_iff []).1 unknown).1,
      fun builtins args => ((unknown_iff args).1 unknown).2 builtins⟩
  · exact (unknown_iff []).2 ⟨h.1, fun builtins => h.2 builtins []⟩

/-- A function takes the place of a built-in one and is replaced in its turn; another built-in one
can still be called; and one name is unknown. -/
theorem contains_iff_call_replaced :
    let day : Date := ⟨1, 1, 1, by decide, by decide, by decide⟩
    let clock : DateTime := ⟨day, 0, 0, by decide, by decide⟩
    let one : NativeFunction Empty := fun _ => .ok (.int 1)
    let failing : NativeFunction Empty := fun _ => .error "no"
    let registrations := [("strlen", one), ("strlen", failing), ("one", one)]
    let start : Functions Empty := .standard clock 0
    let fs := start.registerAll registrations
    (fs.contains "strlen" = true ∧ fs.call "strlen" [.null] = .error "no") ∧
      (Builtin.call? clock "abs" [(.int (-2) : Value Empty)] = some (.ok (.int 2)) ∧
        fs.contains "abs" = true ∧ fs.call "abs" [.int (-2)] = .ok (.int 2)) ∧
      Builtin.call? clock "size" ([] : List (Value Empty)) = .none ∧ fs.contains "size" = false ∧
        fs.call "size" [.null] = .ok (.text "") := by
  intro day clock one failing registrations start fs
  have standard : start = .none clock 0 ∨ start = .standard clock 0 := .inr rfl
  have builtin : Builtin.call? clock "abs" [(.int (-2) : Value Empty)] = some (.ok (.int 2)) := rfl
  have missing : Builtin.call? clock "size" ([] : List (Value Empty)) = .none := rfl
  obtain ⟨registered, _⟩ := contains_iff_call standard registrations "strlen"
  obtain ⟨_, others, _⟩ := contains_iff_call standard registrations "abs"
  obtain ⟨_, unknown, _⟩ := contains_iff_call standard registrations "size"
  have strlen := registered [("strlen", one)] failing [("one", one)] rfl (by decide)
  have abs := (others (by simp [registrations]) _).1 _ rfl builtin
  have size := (unknown (by simp [registrations]) []).2 fun _ => missing
  exact ⟨⟨strlen.1, strlen.2 _⟩, ⟨builtin, abs.1, abs.2⟩, missing, size.1, size.2.2 _⟩

end Functions

end MicroTemplate
