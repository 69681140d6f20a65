/-!
# Ordered bindings

Values by name in the order in which the names were first bound. Binding a name again changes its
value and leaves its place; removing one leaves the order of the others.
-/

namespace MicroTemplate.Bindings

variable {β : Type}

/-- The bindings with `name` bound to `value`: in its place if it was bound, at the end if not. -/
def insert (name : String) (value : β) : List (String × β) → List (String × β)
  | [] => [(name, value)]
  | (n, v) :: rest =>
    if n = name then (n, value) :: rest else (n, v) :: insert name value rest

/-- The bindings without that of `name`. -/
def erase (name : String) : List (String × β) → List (String × β)
  | [] => []
  | (n, v) :: rest => if n = name then rest else (n, v) :: erase name rest

/-- The value of `name`, if it is bound, and the bindings without it. -/
def extract (name : String) : List (String × β) → Option β × List (String × β)
  | [] => (none, [])
  | (n, v) :: rest =>
    if n = name then (some v, rest)
    else
      let (found, others) := extract name rest
      (found, (n, v) :: others)

/-- The bindings made one after the other over some others. -/
def insertAll (bindings : List (String × β)) (pairs : List (String × β)) : List (String × β) :=
  pairs.foldl (fun bs p => insert p.1 p.2 bs) bindings

theorem lookup_insert_self (name : String) (value : β) (bs : List (String × β)) :
    (insert name value bs).lookup name = some value := by
  induction bs with
  | nil => simp [insert]
  | cons b bs ih =>
    obtain ⟨n, v⟩ := b
    by_cases h : n = name
    · simp [insert, h]
    · have h' : (name == n) = false := by simpa using Ne.symm h
      simp [insert, h, List.lookup_cons, h', ih]

theorem lookup_insert_of_ne {name other : String} (h : other ≠ name) (value : β)
    (bs : List (String × β)) : (insert name value bs).lookup other = bs.lookup other := by
  induction bs with
  | nil =>
    have h' : (other == name) = false := by simpa using h
    simp [insert, List.lookup_cons, h']
  | cons b bs ih =>
    obtain ⟨n, v⟩ := b
    by_cases hn : n = name
    · subst hn
      have h' : (other == n) = false := by simpa using h
      simp [insert, List.lookup_cons, h']
    · simp only [insert, if_neg hn, List.lookup_cons, ih]

/-- Binding a name keeps the names that were bound, and adds at most itself, at the end. -/
theorem map_fst_insert (name : String) (value : β) (bs : List (String × β)) :
    (insert name value bs).map Prod.fst =
      if name ∈ bs.map Prod.fst then bs.map Prod.fst else bs.map Prod.fst ++ [name] := by
  induction bs with
  | nil => simp [insert]
  | cons b bs ih =>
    obtain ⟨n, v⟩ := b
    by_cases h : n = name
    · simp [insert, h]
    · have h' : name ≠ n := Ne.symm h
      simp only [insert, if_neg h, List.map_cons, ih, List.mem_cons, h', false_or]
      split <;> simp

/-- Removing a binding adds none and leaves the order of the others. -/
theorem erase_sublist (name : String) (bs : List (String × β)) : (erase name bs).Sublist bs := by
  induction bs with
  | nil => exact .slnil
  | cons b bs ih =>
    rw [erase]
    split
    · exact List.sublist_cons_self _ _
    · exact ih.cons_cons _

/-- What is taken out is the value of the name, and the other bindings stay. -/
theorem extract_eq (name : String) (bs : List (String × β)) :
    extract name bs = (bs.lookup name, erase name bs) := by
  induction bs with
  | nil => rfl
  | cons b bs ih =>
    obtain ⟨n, v⟩ := b
    by_cases h : n = name
    · simp [extract, erase, h]
    · have apart : (name == n) = false := by simpa using Ne.symm h
      simp [extract, erase, h, ih, List.lookup_cons, apart]

/-! ## Each name once -/

section

variable {bs : List (String × β)} (h : (bs.map Prod.fst).Nodup)

include h

/-- Binding a name keeps the names apart. -/
theorem nodup_insert (name : String) (value : β) :
    ((insert name value bs).map Prod.fst).Nodup := by
  rw [map_fst_insert]
  split
  · exact h
  · next fresh =>
    have apart : ∀ n ∈ bs.map Prod.fst, ∀ m ∈ [name], n ≠ m := by
      rintro n hm _ hs rfl
      exact fresh (List.mem_singleton.1 hs ▸ hm)
    exact List.nodup_append.2 ⟨h, List.nodup_cons.2 ⟨List.not_mem_nil, .nil⟩, apart⟩

/-- Removing a binding keeps the names apart. -/
theorem nodup_erase (name : String) : ((erase name bs).map Prod.fst).Nodup :=
  ((erase_sublist name bs).map Prod.fst).nodup h

/-- Binding names one after the other keeps them apart. -/
theorem nodup_insertAll (pairs : List (String × β)) :
    ((insertAll bs pairs).map Prod.fst).Nodup := by
  induction pairs generalizing bs with
  | nil => exact h
  | cons p pairs ih => exact ih (nodup_insert h p.1 p.2)

end

end MicroTemplate.Bindings
