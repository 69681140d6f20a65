import Mathlib
import MicroTemplate.Environment
import MicroTemplate.Proofs.Value.Equality

/-!
# What each operation does to ordered bindings

Where each name is bound once, binding a name again changes one value in place, binding a new one
puts it at the end, and removing a name leaves the other bindings in their order. Of bindings made
one after the other it is the last one under a name that is found.
-/

namespace MicroTemplate

/-! ## The last of some entries -/

/-- What stands last under a key in a list of entries. -/
def latest? {κ β : Type} [BEq κ] (key : κ) (entries : List (κ × β)) : Option β :=
  entries.reverse.lookup key

section

variable {κ β : Type} [BEq κ] [LawfulBEq κ] {key : κ} {entries : List (κ × β)}

/-- An entry at the end is the last one under its key. -/
theorem latest?_append_self (b : β) : latest? key (entries ++ [(key, b)]) = some b := by
  rw [latest?, List.reverse_concat, List.lookup_cons_self]

theorem latest?_append_of_ne {e : κ × β} (h : key ≠ e.1) :
    latest? key (entries ++ [e]) = latest? key entries := by
  rw [latest?, List.reverse_concat, List.lookup_cons, beq_false_of_ne h]
  rfl

theorem forall_bne_iff : (∀ e ∈ entries, (key != e.1) = true) ↔ key ∉ entries.map Prod.fst := by
  constructor
  · intro h hm
    obtain ⟨e, he, rfl⟩ := List.mem_map.1 hm
    exact bne_iff_ne.1 (h e he) rfl
  · exact fun h e he => bne_iff_ne.2 fun hk => h (List.mem_map.2 ⟨e, he, hk.symm⟩)

theorem latest?_eq_some_iff {b : β} :
    latest? key entries = some b ↔
      ∃ front back, entries = front ++ (key, b) :: back ∧ key ∉ back.map Prod.fst := by
  rw [latest?, List.lookup_eq_some_iff]
  constructor
  · rintro ⟨back, front, he, hb⟩
    refine ⟨front.reverse, back.reverse, by simpa using congrArg List.reverse he, ?_⟩
    rw [List.map_reverse, List.mem_reverse]
    exact forall_bne_iff.1 hb
  · rintro ⟨front, back, rfl, hb⟩
    refine ⟨back.reverse, front.reverse, by simp, forall_bne_iff.2 ?_⟩
    rwa [List.map_reverse, List.mem_reverse]

theorem latest?_eq_none_iff : latest? key entries = none ↔ key ∉ entries.map Prod.fst := by
  rw [latest?, List.lookup_eq_none_iff, forall_bne_iff, List.map_reverse, List.mem_reverse]

end

namespace Bindings

variable {β : Type} {name : String} {value : β} {bs : List (String × β)}

/-- Of bindings made one after the other the last one of a name is found. -/
theorem lookup_insertAll (name : String) (pairs bs : List (String × β)) :
    (insertAll bs pairs).lookup name = (latest? name pairs).or (bs.lookup name) := by
  induction pairs using List.reverseRecOn with
  | nil => rfl
  | append_singleton pairs p ih =>
    obtain ⟨n, v⟩ := p
    rw [insertAll, List.foldl_concat]
    by_cases h : name = n
    · subst h
      rw [lookup_insert_self, latest?_append_self, Option.some_or]
    · rw [lookup_insert_of_ne h, latest?_append_of_ne h]
      exact ih

/-- A name is among those bound if it has a value. -/
theorem mem_map_fst_iff : name ∈ bs.map Prod.fst ↔ ∃ v, bs.lookup name = some v := by
  rw [← Option.isSome_iff_exists, List.lookup_isSome_iff, List.mem_map]
  exact exists_congr fun b => and_congr_right fun _ => by rw [beq_iff_eq, eq_comm]

/-- A name that is not bound is bound at the end. -/
theorem insert_eq_append (h : name ∉ bs.map Prod.fst) :
    insert name value bs = bs ++ [(name, value)] := by
  induction bs with
  | nil => rfl
  | cons b bs ih =>
    obtain ⟨n, v⟩ := b
    rw [List.map_cons, List.mem_cons, not_or] at h
    rw [insert, if_neg (Ne.symm h.1), ih h.2, List.cons_append]

section

variable (hn : (bs.map Prod.fst).Nodup)

include hn

/-- A name that is bound keeps its place, and nothing but its value changes. -/
theorem insert_eq_map (h : name ∈ bs.map Prod.fst) :
    insert name value bs = bs.map fun b => if b.1 = name then (name, value) else b := by
  induction bs with
  | nil => cases h
  | cons b bs ih =>
    obtain ⟨n, v⟩ := b
    obtain ⟨apart, hn⟩ := List.nodup_cons.1 hn
    rw [insert, List.map_cons]
    by_cases hname : n = name
    · subst hname
      rw [if_pos rfl, if_pos rfl]
      have others : ∀ b ∈ bs, (if b.1 = n then (n, value) else b) = b := fun b hb =>
        if_neg fun he => apart (List.mem_map.2 ⟨b, hb, he⟩)
      rw [List.map_congr_left others, List.map_id']
    · rw [if_neg hname, if_neg hname, ih hn]
      exact (List.mem_cons.1 h).resolve_left (Ne.symm hname)

/-- Without a name the others keep their order. -/
theorem erase_eq_filter : erase name bs = bs.filter fun b => b.1 ≠ name := by
  induction bs with
  | nil => rfl
  | cons b bs ih =>
    obtain ⟨n, v⟩ := b
    obtain ⟨apart, hn⟩ := List.nodup_cons.1 hn
    by_cases hname : n = name
    · subst hname
      have others : ∀ b ∈ bs, decide (b.1 ≠ n) = true := fun b hb =>
        decide_eq_true fun he => apart (List.mem_map.2 ⟨b, hb, he⟩)
      rw [erase, if_pos rfl, List.filter_cons_of_neg (by simp), List.filter_eq_self.2 others]
    · rw [erase, if_neg hname, List.filter_cons_of_pos (by simpa using hname), ih hn]

theorem map_fst_erase : (erase name bs).map Prod.fst = (bs.map Prod.fst).filter (· ≠ name) := by
  rw [erase_eq_filter hn, List.filter_map]
  rfl

/-- A name that was removed has no value, and the others have the same as before. -/
theorem lookup_erase (other : String) :
    (erase name bs).lookup other = if other = name then none else bs.lookup other := by
  induction bs with
  | nil => simp [erase]
  | cons b bs ih =>
    obtain ⟨n, v⟩ := b
    obtain ⟨apart, hn⟩ := List.nodup_cons.1 hn
    by_cases hname : n = name
    · subst hname
      rw [erase, if_pos rfl]
      split
      · next he =>
        subst he
        exact Option.eq_none_iff_forall_ne_some.2 fun w hw =>
          apart (mem_map_fst_iff.2 ⟨w, hw⟩)
      · next he =>
        have other : (other == n) = false := by simpa using he
        rw [List.lookup_cons, other]
    · rw [erase, if_neg hname, List.lookup_cons, List.lookup_cons, ih hn]
      split
      · next he =>
        obtain rfl := eq_of_beq he
        rw [if_neg hname]
      · rfl

end

end Bindings

end MicroTemplate
