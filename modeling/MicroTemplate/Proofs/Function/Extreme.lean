import MicroTemplate.Function.Builtin
import MicroTemplate.Proofs.Value.Order

/-!
# Least and greatest arguments

The functions `min` and `max` go through their arguments once and compare each with the best one so
far. Where comparison is a total preorder this finds an argument that is as good as all others, and
of these the first: an argument takes the place of the best one only if it is better. Blanks come
last in the order, so the least argument is blank only among blanks, and one blank is enough to make
the greatest argument blank.
-/

namespace MicroTemplate.Builtin

open Calendar Value

variable {α : Type} [HostObject α]

/-- Whether the order of a value against each of some others is never the one to be avoided. -/
def IsExtreme (avoided : Ordering) (m : Value α) (args : List (Value α)) : Prop :=
  ∀ x ∈ args, ∃ o, m.compare x = .ok o ∧ o ≠ avoided

/-- Whether a value is the first member of a list that is extreme in it. -/
def IsFirstExtreme (avoided : Ordering) (m : Value α) (args : List (Value α)) : Prop :=
  IsExtreme avoided m args ∧
    ∃ front back, args = front ++ m :: back ∧ ∀ y ∈ front, ¬IsExtreme avoided y args

/-! ## Orders in which less is better -/

/-- Whether two values are compared as in some order, with the wanted answer for what is less and
its opposite for what is greater. -/
def Prefers (cmp : Value α → Value α → Ordering) (wanted : Ordering) (v w : Value α) : Prop :=
  ∃ o, v.compare w = .ok o ∧ (o = wanted ↔ cmp v w = .lt) ∧ (o = wanted.swap ↔ cmp v w = .gt)

/-- Among blanks and the values of one family comparison is a total preorder, and so is its
reverse. -/
theorem exists_prefers (family : Family) {wanted : Ordering} (hw : wanted ≠ .eq) :
    ∃ cmp : Value α → Value α → Ordering, Std.TransCmp cmp ∧
      ∀ v w, family.Admits v → family.Admits w → Prefers cmp wanted v w := by
  cases wanted with
  | eq => exact absurd rfl hw
  | lt =>
    exact ⟨blanksLast, inferInstance, fun v w hv hw =>
      ⟨_, compare_of_admits hv hw, Iff.rfl, Iff.rfl⟩⟩
  | gt =>
    exact ⟨fun v w => blanksLast w v, inferInstance, fun v w hv hw =>
      ⟨_, compare_of_admits hv hw, Std.OrientedCmp.gt_iff_lt, Std.OrientedCmp.gt_iff_lt.symm⟩⟩

section

variable {cmp : Value α → Value α → Ordering} {wanted : Ordering}

theorem Prefers.compare_eq {v w : Value α} (h : Prefers cmp wanted v w) (hw : wanted ≠ .eq)
    (equal : cmp v w = .eq) : v.compare w = .ok .eq := by
  obtain ⟨o, ho, less, greater⟩ := h
  rw [equal] at less greater
  cases o <;> cases wanted <;> simp_all

variable [Std.TransCmp cmp]

/-- Going through the arguments finds one that nothing comes before, and which comes before all
arguments to its left. -/
theorem exists_extreme (f : Builtin) {best : Value α} {vs : List (Value α)}
    (h : ∀ v ∈ best :: vs, ∀ w ∈ best :: vs, Prefers cmp wanted v w) :
    ∃ m front back, f.extreme wanted best vs = .ok m ∧ best :: vs = front ++ m :: back ∧
      (∀ x ∈ best :: vs, (cmp m x).isLE = true) ∧ ∀ y ∈ front, cmp m y = .lt := by
  induction vs generalizing best with
  | nil =>
    refine ⟨best, [], [], rfl, rfl, fun x hx => ?_, nofun⟩
    rw [List.mem_singleton.1 hx]
    exact Std.ReflCmp.isLE_rfl
  | cons v vs ih =>
    obtain ⟨o, ho, better, _⟩ := h v (List.mem_cons_of_mem _ List.mem_cons_self) best
      List.mem_cons_self
    rw [extreme, ho]
    dsimp only
    by_cases hw : o = wanted
    · -- The argument is better than the best one so far and takes its place.
      rw [if_pos hw]
      have less : cmp v best = .lt := better.1 hw
      obtain ⟨m, front, back, found, place, least, first⟩ := ih fun x hx y hy =>
        h x (List.mem_cons_of_mem _ hx) y (List.mem_cons_of_mem _ hy)
      have ahead : cmp m best = .lt :=
        Std.TransCmp.lt_of_isLE_of_lt (least v List.mem_cons_self) less
      refine ⟨m, best :: front, back, found, by rw [place]; rfl, ?_, ?_⟩
      · exact List.forall_mem_cons.2 ⟨Ordering.isLE_of_eq_lt ahead, least⟩
      · exact List.forall_mem_cons.2 ⟨ahead, first⟩
    · -- The argument is passed over, and does not come before the best one so far.
      rw [if_neg hw]
      have behind : (cmp best v).isLE = true := by
        have swap : cmp best v = (cmp v best).swap := Std.OrientedCmp.eq_swap
        rw [swap, Ordering.isLE_iff_ne_gt, Ordering.swap_eq_gt]
        exact fun less => hw (better.2 less)
      have subset : best :: vs ⊆ best :: v :: vs :=
        List.cons_subset_cons best (List.subset_cons_self v vs)
      obtain ⟨m, front, back, found, place, least, first⟩ := ih fun x hx y hy =>
        h x (subset hx) y (subset hy)
      rw [List.forall_mem_cons] at least
      cases front with
      | nil =>
        cases place
        exact ⟨best, [], v :: vs, found, rfl, List.forall_mem_cons.2
          ⟨least.1, List.forall_mem_cons.2 ⟨behind, least.2⟩⟩, nofun⟩
      | cons _ front =>
        cases place
        obtain ⟨ahead, first⟩ := List.forall_mem_cons.1 first
        have between : cmp m v = .lt := Std.TransCmp.lt_of_lt_of_isLE ahead behind
        refine ⟨m, best :: v :: front, back, found, rfl, ?_, ?_⟩
        · exact List.forall_mem_cons.2
            ⟨least.1, List.forall_mem_cons.2 ⟨Ordering.isLE_of_eq_lt between, least.2⟩⟩
        · exact List.forall_mem_cons.2 ⟨ahead, List.forall_mem_cons.2 ⟨between, first⟩⟩

/-- What comes before all arguments to its left, and after none, is the first extreme one. -/
theorem isFirstExtreme_of {args front back : List (Value α)} {m : Value α}
    (h : ∀ v ∈ args, ∀ w ∈ args, Prefers cmp wanted v w) (place : args = front ++ m :: back)
    (least : ∀ x ∈ args, (cmp m x).isLE = true) (first : ∀ y ∈ front, cmp m y = .lt) :
    IsFirstExtreme wanted.swap m args := by
  have hm : m ∈ args := by simp [place]
  refine ⟨fun x hx => ?_, front, back, place, fun y hy extreme => ?_⟩
  · obtain ⟨o, ho, _, greater⟩ := h m hm x hx
    exact ⟨o, ho, fun avoided => Ordering.isLE_iff_ne_gt.1 (least x hx) (greater.1 avoided)⟩
  · have hya : y ∈ args := by simp [place, hy]
    obtain ⟨o, ho, _, greater⟩ := h y hya m hm
    obtain ⟨o', ho', ne⟩ := extreme m hm
    cases ho.symm.trans ho'
    exact ne (greater.2 (Std.OrientedCmp.gt_iff_lt.2 (first y hy)))

end

/-! ## The functions -/

/-- What is found among blanks and the values of one family is the first that is extreme, and in
another order of the arguments an equal value is found. -/
theorem exists_extremeOf (f : Builtin) (wanted : Ordering) (hw : wanted ≠ .eq) {family : Family}
    {args : List (Value α)} (hne : args ≠ []) (h : ∀ v ∈ args, family.Admits v) :
    ∃ m, f.extremeOf wanted args = .ok m ∧ IsFirstExtreme wanted.swap m args ∧
      ∀ others, args.Perm others →
        ∃ n, f.extremeOf wanted others = .ok n ∧ m.compare n = .ok .eq := by
  obtain ⟨cmp, _, prefers⟩ := exists_prefers (α := α) family hw
  have find {args : List (Value α)} (hne : args ≠ []) (h : ∀ v ∈ args, family.Admits v) :
      ∃ m front back, f.extremeOf wanted args = .ok m ∧ args = front ++ m :: back ∧
        (∀ x ∈ args, (cmp m x).isLE = true) ∧ ∀ y ∈ front, cmp m y = .lt := by
    obtain ⟨best, vs, rfl⟩ := List.exists_cons_of_ne_nil hne
    exact exists_extreme f fun v hv w hw => prefers v w (h v hv) (h w hw)
  obtain ⟨m, front, back, found, place, least, first⟩ := find hne h
  refine ⟨m, found, isFirstExtreme_of (fun v hv w hw => prefers v w (h v hv) (h w hw)) place least
    first, fun others perm => ?_⟩
  have hm : m ∈ args := by simp [place]
  have h' : ∀ v ∈ others, family.Admits v := fun v hv => h v (perm.mem_iff.2 hv)
  obtain ⟨n, front', back', found', place', least', _⟩ :=
    find (List.ne_nil_of_mem (perm.mem_iff.1 hm)) h'
  have hn : n ∈ others := by simp [place']
  have equal : cmp m n = .eq := Std.OrientedCmp.isLE_antisymm
    (least n (perm.mem_iff.2 hn)) (least' m (perm.mem_iff.1 hm))
  exact ⟨n, found', (prefers m n (h m hm) (h' n hn)).compare_eq hw equal⟩

/-- Among blanks and values of one family, `min` gives the first argument that is greater than no
argument and `max` the first that is less than none. Another order of the arguments gives an equal
value. A least argument is blank only if all are, and a greatest one is if any is. -/
theorem call_min_max (clock : DateTime) {family : Family} {args : List (Value α)} (hne : args ≠ [])
    (h : ∀ v ∈ args, family.Admits v) :
    (∃ m, Builtin.min.call clock args = .ok m ∧ IsFirstExtreme .gt m args ∧
      (m.isBlank = true → ∀ v ∈ args, v.isBlank = true) ∧
      ∀ others, args.Perm others →
        ∃ n, Builtin.min.call clock others = .ok n ∧ m.compare n = .ok .eq) ∧
      ∃ m, Builtin.max.call clock args = .ok m ∧ IsFirstExtreme .lt m args ∧
        ((∃ v ∈ args, v.isBlank = true) → m.isBlank = true) ∧
        ∀ others, args.Perm others →
          ∃ n, Builtin.max.call clock others = .ok n ∧ m.compare n = .ok .eq := by
  obtain ⟨least, foundMin, firstMin, anyOrderMin⟩ := exists_extremeOf .min .lt (by decide) hne h
  obtain ⟨greatest, foundMax, firstMax, anyOrderMax⟩ := exists_extremeOf .max .gt (by decide) hne h
  refine ⟨⟨least, foundMin, firstMin, fun blank v hv => ?_, anyOrderMin⟩,
    greatest, foundMax, firstMax, ?_, anyOrderMax⟩
  · obtain ⟨o, ho, ne⟩ := firstMin.1 v hv
    by_contra solid
    have late := (compare_of_isBlank blank (Bool.eq_false_of_not_eq_true solid)).1
    exact ne (Except.ok.inj (ho.symm.trans late))
  · rintro ⟨v, hv, blank⟩
    obtain ⟨o, ho, ne⟩ := firstMax.1 v hv
    by_contra solid
    have early := (compare_of_isBlank blank (Bool.eq_false_of_not_eq_true solid)).2
    exact ne (Except.ok.inj (ho.symm.trans early))

/-- Of two equal arguments the first is the least one, and a blank is the greatest. -/
theorem call_min_max_ties :
    let day : Date := ⟨1, 1, 1, by decide, by decide, by decide⟩
    let clock : DateTime := ⟨day, 0, 0, by decide, by decide⟩
    let args : List (Value Empty) := [.int 4, .bool true, .null, .int 1, .text ""]
    (Builtin.min.call clock args = .ok (.bool true) ∧ IsFirstExtreme .gt (.bool true) args) ∧
      (Builtin.max.call clock args = .ok .null ∧ IsFirstExtreme .lt .null args) ∧
      ∃ n, Builtin.min.call clock args.reverse = .ok n ∧
        (Value.bool true).compare n = .ok .eq := by
  intro day clock args
  have admits : ∀ v ∈ args, Family.whole.Admits v := by
    simp only [args, Family.Admits, List.forall_mem_cons]
    decide
  obtain ⟨⟨least, foundMin, firstMin, _, anyOrder⟩, greatest, foundMax, firstMax, _⟩ :=
    call_min_max clock (List.cons_ne_nil _ _) admits
  have isTrue : Builtin.min.call clock args = .ok (.bool true) := rfl
  have isNull : Builtin.max.call clock args = .ok .null := rfl
  cases foundMin.symm.trans isTrue
  cases foundMax.symm.trans isNull
  exact ⟨⟨isTrue, firstMin⟩, ⟨isNull, firstMax⟩, anyOrder _ (List.reverse_perm args).symm⟩

end MicroTemplate.Builtin
