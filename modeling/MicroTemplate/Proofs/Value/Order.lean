import MicroTemplate.Proofs.Expression.Stacks
import MicroTemplate.Proofs.Number.FloatOrder

/-!
# Comparison in both directions

A comparison of two values finds their order, finds that they have none, or fails. `order?` keeps
the three apart, where the relational operators count what has no order as less. Swapping the values
turns the order around and changes nothing else, as long as at most one of them is an object of the
application. Among the values of one family, such as integers with truth values, everything has an
order and the order is a total one, in which what is blank comes last.
-/

namespace MicroTemplate.Value

open Calendar Number Expression

variable {α : Type}

/-! ## Families of values -/

/-- The families of values that have an order among themselves. -/
inductive Family where
  /-- Integers and truth values. -/
  | whole
  /-- Texts. -/
  | texts
  /-- Dates with a time. -/
  | moments
  /-- Spans of time. -/
  | spans
  deriving DecidableEq

/-- The kinds of the values of a family. -/
def Family.kinds : Family → List Kind
  | whole => [.integer, .boolean]
  | texts => [.text]
  | moments => [.datetime]
  | spans => [.duration]

/-- Whether a value is blank or of a family. -/
def Family.Admits (f : Family) (v : Value α) : Prop := v.isBlank = true ∨ v.kind ∈ f.kinds

/-- Whether one of two values is an object that knows its order against the other. -/
def Answers [HostObject α] (a b : Value α) : Prop :=
  (∃ o, a = .object o ∧ (HostObject.compare o b).isSome) ∨
    ∃ o, b = .object o ∧ (HostObject.compare o a).isSome

/-- Whether two values that can be compared have no order: they are compared as floating-point
numbers of which one is undefined, or they are neither such numbers nor texts, of no common family,
and no object among them knows better. What is blank has an order against everything. -/
def Unordered [HostObject α] (a b : Value α) : Prop :=
  a.isBlank = false ∧ b.isBlank = false ∧
    ((∃ x y, (a.isFloat = true ∨ b.isFloat = true) ∧ a.toFloat = .ok x ∧ b.toFloat = .ok y ∧
        (x.isNaN = true ∨ y.isNaN = true)) ∨
      (a.isFloat = false ∧ b.isFloat = false ∧ a.isText = false ∧ b.isText = false ∧
        (∀ f : Family, ¬(a.kind ∈ f.kinds ∧ b.kind ∈ f.kinds)) ∧ ¬a.Answers b))

/-! ## The order, if there is one -/

section

variable [HostObject α]

/-- The order of two values that are neither blank nor floating-point numbers nor texts, if they
have one. -/
def solidOrder? : Value α → Value α → Option Ordering
  | int m, int n => some (Ord.compare m.toInt n.toInt)
  | int m, bool c => some (Ord.compare m.toInt (if c then 1 else 0))
  | bool b, int n => some (Ord.compare (if b then 1 else 0) n.toInt)
  | bool b, bool c => some (Ord.compare (if b then 1 else 0 : Int) (if c then 1 else 0))
  | dateTime s, dateTime t => some (s.compare t)
  | duration s, duration t => some (s.compare t)
  | object o, v => HostObject.compare o v
  | v, object o => (HostObject.compare o v).map Ordering.swap
  | _, _ => none

/-- The order of two values, if they have one. -/
def order? (a b : Value α) : Except Cause (Option Ordering) :=
  match a.isBlank, b.isBlank with
  | true, true => .ok (some .eq)
  | true, false => .ok (some .gt)
  | false, true => .ok (some .lt)
  | false, false =>
    if a.isFloat || b.isFloat then do
      let x ← a.toFloat
      let y ← b.toFloat
      return floatOrder? x y
    else if a.isText || b.isText then .ok (some (Ord.compare a.write b.write))
    else .ok (a.solidOrder? b)

/-- Values without an order among them count as if the first were less. -/
theorem compareSolid_eq (a b : Value α) : a.compareSolid b = (a.solidOrder? b).getD .lt := by
  cases a <;> cases b <;> rfl

/-- The relational operators count what has no order as less. -/
theorem compare_eq (a b : Value α) : a.compare b = (a.order? b).map (·.getD .lt) := by
  rw [compare, order?]
  cases a.isBlank <;> cases b.isBlank
  · dsimp only
    split
    · cases a.toFloat <;> cases b.toFloat <;> simp only [error_bind, ok_bind, compareFloats_eq] <;>
        rfl
    · split
      · rfl
      · rw [compareSolid_eq]
        rfl
  all_goals rfl

end

/-! ## Swapping the values -/

/-- The numbers by which a moment is compared, the most significant one first. -/
def momentNumbers (t : DateTime) : List ℤ :=
  [t.date.year, t.date.month, t.date.day, t.second, t.nanosecond]

theorem compare_natCast (m n : ℕ) : Ord.compare (m : ℤ) n = Ord.compare m n := by
  rw [← cmp_eq_compare, ← cmp_eq_compare, Nat.strictMono_cast.cmp_map_eq]

/-- Moments are ordered by their numbers, from the year to the nanosecond. -/
theorem compare_eq_momentNumbers (s t : DateTime) :
    s.compare t = Ord.compare (momentNumbers s) (momentNumbers t) := by
  simp [DateTime.compare, Date.compare, momentNumbers, compare_natCast, Ordering.then_assoc]

section

variable [HostObject α]

/-- Only between two objects the left one alone is asked. -/
theorem solidOrder?_swap {a b : Value α} (h : a.kind ≠ .object ∨ b.kind ≠ .object) :
    b.solidOrder? a = (a.solidOrder? b).map Ordering.swap := by
  have turn (m n : ℤ) : Ord.compare n m = (Ord.compare m n).swap := Std.OrientedOrd.eq_swap
  have moments (s t : DateTime) : t.compare s = (s.compare t).swap := by
    rw [compare_eq_momentNumbers, compare_eq_momentNumbers]
    exact Std.OrientedOrd.eq_swap
  have twice (o : Option Ordering) : o = (o.map Ordering.swap).map Ordering.swap := by
    cases o <;> simp
  cases a with
  | int m =>
    cases b with
    | int n => exact congrArg some (turn _ _)
    | bool c => exact congrArg some (turn _ _)
    | object o => exact twice _
    | _ => rfl
  | bool c =>
    cases b with
    | int n => exact congrArg some (turn _ _)
    | bool d => exact congrArg some (turn _ _)
    | object o => exact twice _
    | _ => rfl
  | dateTime s =>
    cases b with
    | dateTime t => exact congrArg some (moments s t)
    | object o => exact twice _
    | _ => rfl
  | duration s =>
    cases b with
    | duration t => exact congrArg some (turn _ _)
    | object o => exact twice _
    | _ => rfl
  | object o =>
    cases b with
    | object p => exact absurd rfl (h.elim id id)
    | _ => rfl
  | _ =>
    cases b with
    | object o => exact twice _
    | _ => rfl

/-- What holds of each family holds of the four. -/
theorem forall_family {P : Family → Prop} :
    (∀ f, P f) ↔ P .whole ∧ P .texts ∧ P .moments ∧ P .spans :=
  ⟨fun h => ⟨h _, h _, h _, h _⟩, fun ⟨hw, ht, hm, hs⟩ f => by cases f <;> assumption⟩

/-- There is no order exactly between values of no common family that no host object compares. -/
theorem solidOrder?_eq_none_iff {a b : Value α} (h : a.kind ≠ .object ∨ b.kind ≠ .object)
    (ha : a.isText = false) :
    a.solidOrder? b = none ↔
      (∀ f : Family, ¬(a.kind ∈ f.kinds ∧ b.kind ∈ f.kinds)) ∧ ¬a.Answers b := by
  cases a <;> cases b <;> simp_all [solidOrder?, kind, forall_family, Family.kinds, Answers, isText]

omit [HostObject α] in
/-- Of two values of which one is a floating-point number at most the other fails to be one. -/
theorem toFloat_swap {a b : Value α} (h : (a.isFloat || b.isFloat) = true) :
    (do return floatOrder? (← b.toFloat) (← a.toFloat)) =
      (do return floatOrder? (← a.toFloat) (← b.toFloat) : Except Cause (Option Ordering)).map
        (Option.map Ordering.swap) := by
  have float {v : Value α} (hv : v.isFloat = true) : ∃ x, v.toFloat = .ok x := by
    cases v with
    | float x => exact ⟨x, rfl⟩
    | _ => cases hv
  rcases Bool.or_eq_true_iff.1 h with ha | hb
  · obtain ⟨x, hx⟩ := float ha
    rw [hx]
    cases b.toFloat with
    | error e => rfl
    | ok y => exact congrArg Except.ok (floatOrder?_swap x y)
  · obtain ⟨y, hy⟩ := float hb
    rw [hy]
    cases a.toFloat with
    | error e => rfl
    | ok x => exact congrArg Except.ok (floatOrder?_swap x y)

/-- Swapping two values turns their order around, keeps that they have none, and keeps the failure
of a comparison. -/
theorem order?_swap {a b : Value α} (h : a.kind ≠ .object ∨ b.kind ≠ .object) :
    b.order? a = (a.order? b).map (Option.map Ordering.swap) := by
  rw [order?, order?]
  cases a.isBlank <;> cases b.isBlank
  · dsimp only
    rw [Bool.or_comm b.isFloat, Bool.or_comm b.isText]
    split
    · next hf => exact toFloat_swap hf
    · split
      · exact congrArg (Except.ok ∘ some) Std.OrientedOrd.eq_swap
      · exact congrArg Except.ok (solidOrder?_swap h)
  all_goals rfl

/-- What can be compared and has no order. -/
theorem order?_eq_none_iff {a b : Value α} (h : a.kind ≠ .object ∨ b.kind ≠ .object) :
    a.order? b = .ok none ↔ a.Unordered b := by
  rw [order?, Unordered]
  cases a.isBlank <;> cases b.isBlank
  · dsimp only
    simp only [true_and]
    split
    · next hf =>
      have one := Bool.or_eq_true_iff.1 hf
      constructor
      · intro none
        obtain ⟨x, hx, rest⟩ := bind_eq_ok none
        obtain ⟨y, hy, order⟩ := bind_eq_ok rest
        exact .inl ⟨x, y, one, hx, hy, floatOrder?_eq_none_iff.1 (Except.ok.inj order)⟩
      · rintro (⟨x, y, _, hx, hy, nan⟩ | ⟨ha, hb, _⟩)
        · rw [hx, hy]
          exact congrArg Except.ok (floatOrder?_eq_none_iff.2 nan)
        · rw [ha, hb] at hf
          cases hf
    · next hf =>
      obtain ⟨ha, hb⟩ : a.isFloat = false ∧ b.isFloat = false := by simpa using hf
      simp only [ha, hb, Bool.false_eq_true, or_self, false_and, exists_false, false_or, true_and]
      split
      · next ht =>
        refine iff_of_false nofun ?_
        rintro ⟨hta, htb, _⟩
        rw [hta, htb] at ht
        cases ht
      · next ht =>
        obtain ⟨hta, htb⟩ : a.isText = false ∧ b.isText = false := by simpa using ht
        simp only [hta, htb, true_and, Except.ok.injEq]
        exact solidOrder?_eq_none_iff h hta
  all_goals simp

end

/-! ## The order of a family -/

/-- The numbers by which values other than texts are compared. -/
def numbers : Value α → List ℤ
  | int n => [n.toInt]
  | bool b => [if b then 1 else 0]
  | dateTime t => momentNumbers t
  | duration d => [d.nanoseconds]
  | _ => []

/-- The text by which a text is compared. -/
def characters : Value α → String
  | text s => s
  | _ => ""

/-- An order of all values which puts blanks last and compares the others by their numbers and
texts. -/
def blanksLast : Value α → Value α → Ordering :=
  compareLex (compareOn isBlank) (compareLex (compareOn numbers) (compareOn characters))

instance : Std.TransCmp (blanksLast : Value α → Value α → Ordering) :=
  inferInstanceAs (Std.TransCmp
    (compareLex (compareOn isBlank) (compareLex (compareOn numbers) (compareOn characters))))

/-- The order of two values the other way round is the opposite one. -/
theorem blanksLast_swap (a b : Value α) : blanksLast b a = (blanksLast a b).swap :=
  Std.OrientedCmp.eq_swap

theorem blanksLast_eq (a b : Value α) :
    blanksLast a b = (Ord.compare a.isBlank b.isBlank).then
      ((Ord.compare a.numbers b.numbers).then (Ord.compare a.characters b.characters)) := rfl

/-- The values of a family by their constructors. -/
theorem Family.values {f : Family} {v : Value α} (h : v.kind ∈ f.kinds) :
    match f with
    | .whole => (∃ n, v = .int n) ∨ ∃ b, v = .bool b
    | .texts => ∃ s, v = .text s
    | .moments => ∃ t, v = .dateTime t
    | .spans => ∃ d, v = .duration d := by
  cases f with
  | whole =>
    cases v with
    | int n => exact .inl ⟨n, rfl⟩
    | bool b => exact .inr ⟨b, rfl⟩
    | _ => simp [kinds, kind] at h
  | texts =>
    cases v with
    | text s => exact ⟨s, rfl⟩
    | _ => simp [kinds, kind] at h
  | moments =>
    cases v with
    | dateTime t => exact ⟨t, rfl⟩
    | _ => simp [kinds, kind] at h
  | spans =>
    cases v with
    | duration d => exact ⟨d, rfl⟩
    | _ => simp [kinds, kind] at h

/-- All blanks have the same key. -/
theorem numbers_of_isBlank {v : Value α} (h : v.isBlank = true) :
    v.numbers = [] ∧ v.characters = "" := by
  cases v with
  | null => exact ⟨rfl, rfl⟩
  | text s => exact ⟨rfl, String.isEmpty_iff.1 h⟩
  | _ => cases h

variable [HostObject α]

/-- What is blank comes after everything else. -/
theorem compare_of_isBlank {a b : Value α} (ha : a.isBlank = true) (hb : b.isBlank = false) :
    a.compare b = .ok .gt ∧ b.compare a = .ok .lt := by
  rw [compare, compare, ha, hb]
  exact ⟨rfl, rfl⟩

/-- Values of one family have the order of their numbers and texts. -/
theorem compare_of_kinds {f : Family} {a b : Value α} (ha : a.kind ∈ f.kinds)
    (hb : b.kind ∈ f.kinds) (na : a.isBlank = false) (nb : b.isBlank = false) :
    a.compare b = .ok (blanksLast a b) := by
  rw [compare, blanksLast_eq, na, nb]
  cases f with
  | whole =>
    rcases Family.values ha with ⟨m, rfl⟩ | ⟨b, rfl⟩ <;>
      rcases Family.values hb with ⟨n, rfl⟩ | ⟨c, rfl⟩ <;>
      simp [isFloat, isText, compareSolid, numbers, characters]
  | texts =>
    obtain ⟨s, rfl⟩ := Family.values ha
    obtain ⟨t, rfl⟩ := Family.values hb
    simp [isFloat, isText, write, numbers, characters]
  | moments =>
    obtain ⟨s, rfl⟩ := Family.values ha
    obtain ⟨t, rfl⟩ := Family.values hb
    simp [isFloat, isText, compareSolid, compare_eq_momentNumbers, numbers, characters]
  | spans =>
    obtain ⟨s, rfl⟩ := Family.values ha
    obtain ⟨t, rfl⟩ := Family.values hb
    simp [isFloat, isText, compareSolid, Duration.compare, numbers, characters]

/-- Among blanks and the values of one family, every comparison succeeds and gives the order that
puts blanks last. -/
theorem compare_of_admits {f : Family} {a b : Value α} (ha : f.Admits a) (hb : f.Admits b) :
    a.compare b = .ok (blanksLast a b) := by
  cases na : a.isBlank with
  | false =>
    cases nb : b.isBlank with
    | false =>
      have ka : a.kind ∈ f.kinds := ha.resolve_left (by simp [na])
      have kb : b.kind ∈ f.kinds := hb.resolve_left (by simp [nb])
      exact compare_of_kinds ka kb na nb
    | true =>
      rw [(compare_of_isBlank nb na).2, blanksLast_eq, na, nb]
      rfl
  | true =>
    cases nb : b.isBlank with
    | false =>
      rw [(compare_of_isBlank na nb).1, blanksLast_eq, na, nb]
      rfl
    | true =>
      obtain ⟨ea, ta⟩ := numbers_of_isBlank na
      obtain ⟨eb, tb⟩ := numbers_of_isBlank nb
      rw [compare, blanksLast_eq, na, nb, ea, eb, ta, tb]
      rfl

/-! ## Total preorders -/

/-- Whether a comparison finds that a value comes no later than another one. -/
def UpTo (a b : Value α) : Prop := ∃ o, a.compare b = .ok o ∧ o ≠ .gt

/-- Whether comparison is a total preorder of the values with some property, in which blanks are
equal to each other and greater than everything else. -/
structure RanksTotally (P : Value α → Prop) : Prop where
  /-- Comparisons succeed, and swapping the values turns their order around. -/
  succeeds {u v : Value α} : P u → P v → ∃ o, u.compare v = .ok o ∧ v.compare u = .ok o.swap
  /-- Every value is equal to itself. -/
  equal_self {u : Value α} : P u → u.compare u = .ok .eq
  /-- Of two values one comes no later than the other. -/
  total {u v : Value α} : P u → P v → u.UpTo v ∨ v.UpTo u
  /-- What comes no later than a value comes no later than what that value comes no later than. -/
  trans {u v w : Value α} : P u → P v → P w → u.UpTo v → v.UpTo w → u.UpTo w
  /-- Two values are equal if neither comes later. -/
  equal_iff {u v : Value α} : P u → P v → (u.compare v = .ok .eq ↔ u.UpTo v ∧ v.UpTo u)
  /-- Blanks are equal. -/
  blank {u v : Value α} : P u → P v → u.isBlank = true → v.isBlank = true → u.compare v = .ok .eq
  /-- Blanks are greater than everything else. -/
  blank_last {u v : Value α} : P u → P v → u.isBlank = true → v.isBlank = false →
    u.compare v = .ok .gt

/-- Within a family, one value comes up to another by their keys. -/
theorem upTo_iff {f : Family} {a b : Value α} (ha : f.Admits a) (hb : f.Admits b) :
    a.UpTo b ↔ (blanksLast a b).isLE = true := by
  rw [UpTo, compare_of_admits ha hb, Ordering.isLE_iff_ne_gt]
  simp

/-- So each family is ranked totally. -/
theorem Family.ranksTotally (f : Family) : RanksTotally (f.Admits : Value α → Prop) where
  succeeds {u v} hu hv :=
    ⟨_, compare_of_admits hu hv, (compare_of_admits hv hu).trans (congrArg _ (blanksLast_swap u v))⟩
  equal_self hu := (compare_of_admits hu hu).trans (congrArg _ Std.ReflCmp.compare_self)
  total {u v} hu hv := by
    rw [upTo_iff hu hv, upTo_iff hv hu, blanksLast_swap u v]
    cases blanksLast u v <;> simp
  trans hu hv hw huv hvw := by
    rw [upTo_iff hu hv] at huv
    rw [upTo_iff hv hw] at hvw
    exact (upTo_iff hu hw).2 (Std.TransCmp.isLE_trans huv hvw)
  equal_iff {u v} hu hv := by
    rw [upTo_iff hu hv, upTo_iff hv hu, compare_of_admits hu hv, blanksLast_swap u v]
    cases blanksLast u v <;> simp
  blank _ _ nu nv := by rw [compare, nu, nv]
  blank_last _ _ nu nv := (compare_of_isBlank nu nv).1

/-- Comparing two values, of which at most one is an object, in both directions: both comparisons
fail, and for the same reason, or the one is the other turned around, or both say less. The last is
so exactly for values without an order. Among blanks and the values of one family, comparison is a
total preorder with the blanks at its end. -/
theorem compare_both_ways :
    (∀ a b : Value α, a.kind ≠ .object ∨ b.kind ≠ .object →
      (∀ e, a.compare b = .error e ↔ b.compare a = .error e) ∧
        (∀ o p, a.compare b = .ok o → b.compare a = .ok p → p = o.swap ∨ o = .lt ∧ p = .lt) ∧
        (a.compare b = .ok .lt ∧ b.compare a = .ok .lt ↔ a.Unordered b)) ∧
      ∀ f : Family, RanksTotally (f.Admits : Value α → Prop) := by
  refine ⟨fun a b h => ?_, Family.ranksTotally⟩
  have turned := order?_swap h
  have unordered := order?_eq_none_iff h
  rw [compare_eq a b, compare_eq b a, turned, ← unordered]
  cases a.order? b with
  | error e => exact ⟨fun _ => Iff.rfl, nofun, by simp [Except.map]⟩
  | ok order =>
    refine ⟨fun e => iff_of_false nofun nofun, ?_, ?_⟩
    · rintro o p ⟨⟩ ⟨⟩
      cases order with
      | none => exact .inr ⟨rfl, rfl⟩
      | some o => exact .inl rfl
    · cases order with
      | none => simp [Except.map]
      | some o => cases o <;> simp [Except.map]

/-- The undefined number against an integer and against a list, and blanks among integers. -/
theorem compare_both_ways_undefined :
    let undefined : Value Empty := .float (0.0 / 0.0)
    (undefined.compare (.int 3) = .ok .lt ∧ (int 3).compare undefined = .ok .lt) ∧
      (list []).compare undefined = .error (.cast .list .float) ∧
      (null : Value Empty).compare (.int 3) = .ok .gt ∧
      (bool true : Value Empty).UpTo (text "") := by
  intro undefined
  obtain ⟨pairs, families⟩ := compare_both_ways (α := Empty)
  have whole := families .whole
  have number : Family.whole.Admits (int 3 : Value Empty) := .inr (by decide)
  have truth : Family.whole.Admits (bool true : Value Empty) := .inr (by decide)
  have blank : Family.whole.Admits (null : Value Empty) := .inl rfl
  have empty : Family.whole.Admits (text "" : Value Empty) := .inl rfl
  have unordered : undefined.Unordered (int 3) :=
    ⟨rfl, rfl, .inl ⟨_, _, .inl rfl, rfl, rfl, .inl (by decide)⟩⟩
  refine ⟨(pairs undefined (int 3) (.inl (by decide))).2.2.2 unordered, ?_,
    whole.blank_last blank number rfl rfl, ?_⟩
  · exact ((pairs undefined (list []) (.inl (by decide))).1 _).1 rfl
  · exact whole.trans truth number empty ⟨.lt, rfl, by decide⟩ ⟨.lt, rfl, by decide⟩

end MicroTemplate.Value
