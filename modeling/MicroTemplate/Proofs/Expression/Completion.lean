import MicroTemplate.Proofs.Expression.Stacks

/-!
# Reading what can be evaluated

Tokens that the machine takes without a failure are the beginning of a tree. The beginning is kept
as a list of openings, what waits left of the operand that comes next, and no operator is put into a
tree before an operator that binds no tighter comes after it. At the end of a text that evaluates
the openings are closed, and what comes out is a well placed tree of all its tokens.
-/

namespace MicroTemplate.Expression

/-! ## Openings -/

/-- What waits left of an operand. -/
inductive Opening where
  /-- An opening parenthesis. -/
  | group
  /-- A negation. -/
  | negation
  /-- An operator with its left operand. -/
  | binary (op : BinaryOperator) (left : Tree)
  /-- An arrow with its left operand. -/
  | arrow (left : Tree)

/-- The tokens of an opening. -/
def Opening.tokens : Opening → List Token
  | group => [.openGroup]
  | negation => [.operator .not]
  | binary op left => left.tokens ++ [.operator (.binary op)]
  | arrow left => left.tokens ++ [.operator .arrow]

/-- The operator of an opening; a parenthesis has none. -/
def Opening.operator? : Opening → Option Operator
  | group => none
  | negation => some .not
  | binary op _ => some (.binary op)
  | arrow _ => some .arrow

/-- An opening with its operand. -/
def Opening.plug : Opening → Tree → Tree
  | group, t => .group t
  | negation, t => .negation t
  | binary op left, t => .binary op left t
  | arrow left, t => .member left t

/-- The tokens of openings, the last of which comes first. -/
def written : List Opening → List Token
  | [] => []
  | f :: fs => written fs ++ f.tokens

/-- The number of open parentheses. -/
def groups : List Opening → Nat
  | [] => 0
  | .group :: fs => groups fs + 1
  | _ :: fs => groups fs

/-- Whether an operator of some priority binds tighter than the last of some openings, if that is of
the same group. -/
def Tighter (priority : Nat) (fs : List Opening) : Prop :=
  ∀ f ∈ fs.head?, ∀ op ∈ f.operator?, op.priority < priority

/-- Whether a tree may be the operand of the last of some openings. -/
def Fits (t : Tree) (fs : List Opening) : Prop :=
  ∀ f ∈ fs.head?, ∀ op ∈ f.operator?, t.StandsAfter op.priority

/-- Whether openings wait where the priorities let them wait, with well placed left operands. -/
def Waiting : List Opening → Prop
  | [] => True
  | .group :: fs | .negation :: fs => Waiting fs
  | .binary op left :: fs =>
    Waiting fs ∧ left.Placed ∧ left.StandsBefore op.priority ∧ Tighter op.priority fs
  | .arrow left :: fs =>
    Waiting fs ∧ left.Placed ∧ left.StandsBefore Operator.arrow.priority ∧
      Tighter Operator.arrow.priority fs

theorem Waiting.tail {f : Opening} {fs : List Opening} (h : Waiting (f :: fs)) : Waiting fs := by
  cases f with
  | group => exact h
  | negation => exact h
  | binary op left => exact h.1
  | arrow left => exact h.1

/-- A fitting operand makes an opening a well placed tree. -/
theorem Opening.placed_plug {f : Opening} {fs : List Opening} {t : Tree}
    (hf : Waiting (f :: fs)) (ht : t.Placed) (hfit : Fits t (f :: fs)) : (f.plug t).Placed := by
  cases f with
  | group => exact ht
  | negation => exact ⟨ht, hfit _ rfl _ rfl⟩
  | binary op left => exact ⟨hf.2.1, ht, hf.2.2.1, hfit _ rfl _ rfl⟩
  | arrow left => exact ⟨hf.2.1, ht, hf.2.2.1, hfit _ rfl _ rfl⟩

/-- The tree that an opening becomes fits where the opening waits. -/
theorem Opening.fits_plug {f : Opening} {fs : List Opening} (hf : Waiting (f :: fs)) (t : Tree) :
    Fits (f.plug t) fs := by
  cases f with
  | group => exact fun _ _ _ _ => trivial
  | negation => exact fun _ _ _ _ => trivial
  | binary op left => exact hf.2.2.2
  | arrow left => exact hf.2.2.2

/-- The tree that an operator's opening becomes has the tokens of both. -/
theorem Opening.written_plug {f : Opening} (hf : f ≠ .group) (fs : List Opening) (t : Tree) :
    written (f :: fs) ++ t.tokens = written fs ++ (f.plug t).tokens := by
  cases f with
  | group => exact absurd rfl hf
  | negation => simp [written, Opening.tokens, Opening.plug, Tree.tokens]
  | binary op left => simp [written, Opening.tokens, Opening.plug, Tree.tokens]
  | arrow left => simp [written, Opening.tokens, Opening.plug, Tree.tokens]

theorem groups_cons {f : Opening} (hf : f ≠ .group) (fs : List Opening) :
    groups (f :: fs) = groups fs := by
  cases f with
  | group => exact absurd rfl hf
  | negation => rfl
  | binary op left => rfl
  | arrow left => rfl

/-! ## Closing openings -/

/-- A tree as the operand of some openings. -/
structure Partial (fs : List Opening) (t : Tree) : Prop where
  /-- The openings wait where they may. -/
  waiting : Waiting fs
  /-- The tree is well placed. -/
  placed : t.Placed
  /-- It may be the operand of the last opening. -/
  fits : Fits t fs

/-- The last opening and its operand make one tree. -/
theorem Partial.plug {f : Opening} {fs : List Opening} {t : Tree} (h : Partial (f :: fs) t) :
    Partial fs (f.plug t) :=
  ⟨h.waiting.tail, Opening.placed_plug h.waiting h.placed h.fits, Opening.fits_plug h.waiting t⟩

/-- Without open parentheses everything becomes one tree. -/
theorem Partial.exists_tree {fs : List Opening} {t : Tree} (h : Partial fs t)
    (hg : groups fs = 0) : ∃ u : Tree, u.tokens = written fs ++ t.tokens ∧ u.Placed := by
  induction fs generalizing t with
  | nil => exact ⟨t, rfl, h.placed⟩
  | cons f fs ih =>
    have hf : f ≠ .group := by
      rintro rfl
      exact absurd hg (Nat.succ_ne_zero _)
    rw [groups_cons hf] at hg
    obtain ⟨u, hu, hp⟩ := ih h.plug hg
    exact ⟨u, hu.trans (Opening.written_plug hf fs t).symm, hp⟩

/-- Up to the last open parenthesis everything becomes one tree. -/
theorem Partial.exists_group {fs : List Opening} {t : Tree} {depth : Nat} (h : Partial fs t)
    (hg : groups fs = depth + 1) :
    ∃ gs inner, Partial (.group :: gs) inner ∧ groups gs = depth ∧
      written gs ++ .openGroup :: inner.tokens = written fs ++ t.tokens := by
  induction fs generalizing t with
  | nil => cases hg
  | cons f fs ih =>
    by_cases hf : f = .group
    · subst hf
      refine ⟨fs, t, h, Nat.succ.inj hg, ?_⟩
      simp [written, Opening.tokens]
    · rw [groups_cons hf] at hg
      obtain ⟨gs, inner, hp, hd, hw⟩ := ih h.plug hg
      exact ⟨gs, inner, hp, hd, hw.trans (Opening.written_plug hf fs t).symm⟩

/-- An opening that does not bind less tightly than an operator becomes a tree that may stand left
of it. -/
theorem Opening.plug_standsBefore {f : Opening} {op : Operator} (hn : op ≠ .not) {t : Tree}
    (hf : ¬∀ o ∈ f.operator?, o.priority < op.priority) (ht : t.StandsBefore op.priority) :
    (f.plug t).StandsBefore op.priority := by
  cases f with
  | group => exact absurd nofun hf
  | negation =>
    have hle : ¬Operator.not.priority < op.priority := fun h => hf fun o ho => by cases ho; exact h
    have hne : op.priority ≠ Operator.not.priority := by
      cases op with
      | not => exact absurd rfl hn
      | arrow => decide
      | binary op => cases op <;> decide
    exact ⟨by omega, ht⟩
  | binary o left =>
    have hle : ¬o.priority < op.priority := fun h => hf fun o' ho => by cases ho; exact h
    exact ⟨by omega, ht⟩
  | arrow left =>
    have hle : ¬Operator.arrow.priority < op.priority := fun h => hf fun o' ho => by
      cases ho
      exact h
    exact ⟨by omega, ht⟩

/-- An operator takes as its left operand everything that binds as tightly as itself. -/
theorem Partial.exists_left {op : Operator} (hn : op ≠ .not) {fs : List Opening} {t : Tree}
    (h : Partial fs t) (ht : t.StandsBefore op.priority) :
    ∃ gs left, Partial gs left ∧ left.StandsBefore op.priority ∧ Tighter op.priority gs ∧
      groups gs = groups fs ∧ written gs ++ left.tokens = written fs ++ t.tokens := by
  induction fs generalizing t with
  | nil => exact ⟨[], t, h, ht, nofun, rfl, rfl⟩
  | cons f fs ih =>
    by_cases hf : ∀ o ∈ f.operator?, o.priority < op.priority
    · refine ⟨f :: fs, t, h, ht, fun g hg => ?_, rfl, rfl⟩
      cases hg
      exact hf
    · have hg : f ≠ .group := by
        rintro rfl
        exact hf nofun
      obtain ⟨gs, left, hp, hl, htight, hd, hw⟩ := ih h.plug (Opening.plug_standsBefore hn hf ht)
      exact ⟨gs, left, hp, hl, htight, hd.trans (groups_cons hg fs).symm,
        hw.trans (Opening.written_plug hg fs t).symm⟩

end MicroTemplate.Expression
