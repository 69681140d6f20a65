import MicroTemplate.Proofs.Expression.Tree

/-!
# What the stacks hold after a tree

The tokens of a tree are taken by the machine with two stacks. Afterwards the operators at the right
end of the tree still wait, on top of those that waited before, and applying them gives the value of
the tree. The first operator that comes after the tree in the same group applies them all and none
below them.
-/

namespace MicroTemplate.Expression

open Number

/-! ## Chains of steps that may fail -/

/-- A chain fails as its first step does. -/
theorem error_bind {ε β γ : Type} (e : ε) (f : β → Except ε γ) :
    ((Except.error e : Except ε β) >>= f) = .error e := rfl

/-- A chain goes on with the result of its first step. -/
theorem ok_bind {ε β γ : Type} (b : β) (f : β → Except ε γ) :
    ((Except.ok b : Except ε β) >>= f) = f b := rfl

/-- A chain that succeeds has a first step that does. -/
theorem bind_eq_ok {ε β γ : Type} {x : Except ε β} {f : β → Except ε γ} {c : γ}
    (h : (x >>= f) = .ok c) : ∃ b, x = .ok b ∧ f b = .ok c := by
  cases x with
  | error e => cases h
  | ok b => exact ⟨b, rfl, h⟩

/-- A chain that fails does so in its first step or after it. -/
theorem bind_eq_error {ε β γ : Type} {x : Except ε β} {f : β → Except ε γ} {e : ε}
    (h : (x >>= f) = .error e) : x = .error e ∨ ∃ b, x = .ok b ∧ f b = .error e := by
  cases x with
  | error e' => cases h; exact .inl rfl
  | ok b => exact .inr ⟨b, rfl, h⟩

/-- What succeeds with its failures renamed succeeds as it is. -/
theorem ok_of_mapError {ε ε' β : Type} {f : ε → ε'} {x : Except ε β} {b : β}
    (h : x.mapError f = .ok b) : x = .ok b := by
  cases x with
  | error e => cases h
  | ok c => cases h; rfl

theorem mapError_eq_ok_iff {ε ε' β : Type} (f : ε → ε') {x : Except ε β} {b : β} :
    x.mapError f = .ok b ↔ x = .ok b :=
  ⟨ok_of_mapError, fun h => h ▸ rfl⟩

/-- A renamed failure was one before. -/
theorem error_of_mapError {ε ε' β : Type} {f : ε → ε'} {x : Except ε β} {e' : ε'}
    (h : x.mapError f = .error e') : ∃ e, x = .error e ∧ e' = f e := by
  cases x with
  | error e => cases h; exact ⟨e, rfl, rfl⟩
  | ok c => cases h

/-- What fails with its result changed fails as it is. -/
theorem error_of_map {ε β γ : Type} {f : β → γ} {x : Except ε β} {e : ε}
    (h : x.map f = .error e) : x = .error e := by
  cases x with
  | error e' => cases h; rfl
  | ok b => cases h

/-! ## Priorities -/

/-- Nothing binds tighter than the arrow. -/
theorem BinaryOperator.priority_lt_arrow (op : BinaryOperator) :
    op.priority < Operator.arrow.priority := by
  cases op <;> decide

/-- Every operator binds less tightly than the next inner group. -/
theorem Operator.priority_lt_groupPriority (op : Operator) : op.priority < groupPriority := by
  cases op with
  | not => decide
  | arrow => decide
  | binary op =>
    have h := op.priority_lt_arrow
    have ha : Operator.arrow.priority < groupPriority := by decide
    exact Nat.lt_trans h ha

/-- An operator of a group at some depth, as it waits. -/
def Operator.at (op : Operator) (depth : Nat) : Pending :=
  ⟨op, op.priority + groupPriority * depth⟩

/-- So an operator binds less tightly than all of a deeper group, wherever it stands. -/
theorem Operator.at_priority_lt (op : Operator) (depth : Nat) :
    (op.at depth).priority < groupPriority * (depth + 1) := by
  have h := op.priority_lt_groupPriority
  simp only [Operator.at, Nat.mul_add, Nat.mul_one]
  omega

/-- A waiting operator that binds tighter than what comes is applied before it. -/
theorem Pending.yields_of_lt {p : Pending} {priority : Nat} (h : priority < p.priority) :
    p.yields priority = true := by
  simp [Pending.yields, h]

/-- Of one group, an operator between two operands yields to one that binds no tighter. -/
theorem Operator.at_yields {op : Operator} (hn : op ≠ .not) {priority : Nat}
    (h : priority ≤ op.priority) (depth : Nat) :
    (op.at depth).yields (priority + groupPriority * depth) = true := by
  rcases Nat.lt_or_eq_of_le h with hlt | heq
  · exact Pending.yields_of_lt (by simp only [Operator.at]; omega)
  · simp [Pending.yields, Operator.at, heq, hn]

/-- An operator waits on where one comes that binds tighter. -/
theorem Pending.not_yields_of_lt {p : Pending} {priority : Nat} (h : p.priority < priority) :
    p.yields priority = false := by
  have hle : ¬priority < p.priority := by omega
  have hne : p.priority ≠ priority := by omega
  simp [Pending.yields, hle, hne]

/-! ## Where a tree may stand -/

/-- The operators that still wait after a tree at some depth, the last one first. -/
def Tree.pending (depth : Nat) : Tree → List Pending
  | .group inner => inner.pending (depth + 1)
  | .negation operand => operand.pending depth ++ [Operator.not.at depth]
  | .binary op _ right => right.pending depth ++ [(Operator.binary op).at depth]
  | .member _ right => right.pending depth ++ [Operator.arrow.at depth]
  | _ => []

/-- What waits after a tree is of its group or of one inside it. -/
theorem Tree.le_priority_of_mem_pending :
    ∀ (t : Tree) {depth : Nat} {p : Pending}, p ∈ t.pending depth →
      groupPriority * depth ≤ p.priority
  | .group inner, depth, p, h => by
    rw [Tree.pending] at h
    have hle := Tree.le_priority_of_mem_pending inner h
    rw [Nat.mul_add] at hle
    omega
  | .negation operand, depth, p, h => by
    rw [Tree.pending, List.mem_append, List.mem_singleton] at h
    rcases h with h | rfl
    · exact Tree.le_priority_of_mem_pending operand h
    · exact Nat.le_add_left _ _
  | .binary op left right, depth, p, h => by
    rw [Tree.pending, List.mem_append, List.mem_singleton] at h
    rcases h with h | rfl
    · exact Tree.le_priority_of_mem_pending right h
    · exact Nat.le_add_left _ _
  | .member left right, depth, p, h => by
    rw [Tree.pending, List.mem_append, List.mem_singleton] at h
    rcases h with h | rfl
    · exact Tree.le_priority_of_mem_pending right h
    · exact Nat.le_add_left _ _

/-- What waits after a tree is applied before an operator that the tree may stand left of. -/
theorem Tree.yields_of_mem_pending {op : Operator} {depth : Nat} :
    ∀ (t : Tree), t.StandsBefore op.priority → ∀ p ∈ t.pending depth,
      p.yields (op.at depth).priority = true
  | .group inner, _, p, h => by
    have hlt := op.at_priority_lt depth
    have hle := Tree.le_priority_of_mem_pending inner h
    exact Pending.yields_of_lt (Nat.lt_of_lt_of_le hlt hle)
  | .negation operand, hs, p, h => by
    rw [Tree.pending, List.mem_append, List.mem_singleton] at h
    rcases h with h | rfl
    · exact Tree.yields_of_mem_pending operand hs.2 p h
    · exact Pending.yields_of_lt (Nat.add_lt_add_right hs.1 _)
  | .binary o left right, hs, p, h => by
    rw [Tree.pending, List.mem_append, List.mem_singleton] at h
    rcases h with h | rfl
    · exact Tree.yields_of_mem_pending right hs.2 p h
    · have hn : Operator.binary o ≠ .not := nofun
      exact Operator.at_yields hn hs.1 depth
  | .member left right, hs, p, h => by
    rw [Tree.pending, List.mem_append, List.mem_singleton] at h
    rcases h with h | rfl
    · exact Tree.yields_of_mem_pending right hs.2 p h
    · have hn : Operator.arrow ≠ .not := nofun
      exact Operator.at_yields hn hs.1 depth

/-- The left operand of an operator may stand wherever the operator binds tighter than what is left
of it. -/
theorem Tree.standsAfter_of_standsBefore {k priority : Nat} {t : Tree}
    (h : t.StandsBefore priority) (hk : k < priority)
    (ha : priority ≤ Operator.arrow.priority) : t.StandsAfter k := by
  cases t with
  | call name args => exact Nat.ne_of_lt (Nat.lt_of_lt_of_le hk ha)
  | binary op left right => exact Nat.lt_of_lt_of_le hk h.1
  | member left right => exact Nat.lt_of_lt_of_le hk ha
  | method left name args => exact Nat.lt_of_lt_of_le hk ha
  | word text => trivial
  | quoted text => trivial
  | group inner => trivial
  | negation operand => trivial

variable {α : Type}

/-- A machine that expects an operand, can open the groups of a tree, and whose last waiting
operator, if it is of the same group, leaves the tree whole. -/
structure Machine.Admits (m : Machine α) (t : Tree) : Prop where
  /-- An operand has to come next. -/
  expects : m.expectOperand = true
  /-- The groups of the tree can be open at once with those that are. -/
  room : m.depth + t.nesting ≤ maxDepth
  /-- The last operator is of an outer group, or the tree may stand right of it. -/
  last : ∀ p ∈ m.operators.head?,
    p.priority < groupPriority * m.depth ∨
      ∃ op : Operator, p = op.at m.depth ∧ t.StandsAfter op.priority

/-- The machine after a tree, with the operands that the tree leaves. -/
def Machine.after (m : Machine α) (t : Tree) (xs : List (Operand α)) : Machine α :=
  { m with
    operands := xs ++ m.operands, operators := t.pending m.depth ++ m.operators,
    expectOperand := false }

/-- The machine after an operator and its left operand. -/
def Machine.afterOperator (m : Machine α) (op : Operator) (a : Operand α) : Machine α :=
  { m with
    operands := a :: m.operands, operators := op.at m.depth :: m.operators,
    expectOperand := true }

/-- An operator does not apply what waits before its left operand. -/
theorem Machine.Admits.not_yields {m : Machine α} {t : Tree} (hm : m.Admits t) (op : Operator)
    (ht : ∀ k, t.StandsAfter k → k < op.priority) :
    ∀ p ∈ m.operators.head?, p.yields (op.at m.depth).priority = false := by
  intro p hp
  apply Pending.not_yields_of_lt
  rcases hm.last p hp with hlt | ⟨o, rfl, ho⟩
  · exact Nat.lt_of_lt_of_le hlt (Nat.le_add_left _ _)
  · exact Nat.add_lt_add_right (ht o.priority ho) _

/-- Where a tree is admitted, so is the left operand of its operator. -/
theorem Machine.Admits.left {m : Machine α} {t left : Tree} (hm : m.Admits t) (op : Operator)
    (hn : op.priority ≤ Operator.arrow.priority) (ht : ∀ k, t.StandsAfter k → k < op.priority)
    (hl : left.StandsBefore op.priority) (room : left.nesting ≤ t.nesting) : m.Admits left := by
  refine ⟨hm.expects, (Nat.add_le_add_left room _).trans hm.room, fun p hp => ?_⟩
  rcases hm.last p hp with hlt | ⟨o, rfl, ho⟩
  · exact .inl hlt
  · exact .inr ⟨o, rfl, Tree.standsAfter_of_standsBefore hl (ht o.priority ho) hn⟩

/-- Right of an operator the machine admits what may stand there. -/
theorem Machine.admits_afterOperator (m : Machine α) (op : Operator) (a : Operand α) {t : Tree}
    (ht : t.StandsAfter op.priority) (room : m.depth + t.nesting ≤ maxDepth) :
    (m.afterOperator op a).Admits t := by
  refine ⟨rfl, room, fun p hp => .inr ⟨op, ?_, ht⟩⟩
  cases hp
  rfl

/-- Taking an operator and then its right operand leaves what the tree of both leaves. -/
theorem after_afterOperator (m : Machine α) (op : Operator) {t right : Tree} (a : Operand α)
    (bs : List (Operand α)) (ht : t.pending m.depth = right.pending m.depth ++ [op.at m.depth]) :
    (m.afterOperator op a).after right bs = m.after t (bs ++ [a]) := by
  simp only [Machine.after, Machine.afterOperator, ht, List.append_assoc, List.singleton_append]

/-! ## Applying what waits -/

variable [HostObject α]

/-- Tokens are taken in two parts as they are at once. -/
theorem feedAll_append (ctx : Context α) (ts us : List Token) (m : Machine α) :
    feedAll ctx (ts ++ us) m = feedAll ctx ts m >>= feedAll ctx us := by
  induction ts generalizing m with
  | nil => rfl
  | cons t ts ih =>
    rw [List.cons_append, feedAll, feedAll]
    cases feed ctx t m with
    | error e => rfl
    | ok n => exact ih n

theorem feedAll_singleton (ctx : Context α) (t : Token) (m : Machine α) :
    feedAll ctx [t] m = feed ctx t m := by
  rw [feedAll]
  cases feed ctx t m <;> rfl

/-- Waiting operators are applied in two parts as they are at once. -/
theorem drain_append (ctx : Context α) (ps qs : List Pending) (xs : List (Operand α)) :
    drain ctx (ps ++ qs) xs = drain ctx ps xs >>= drain ctx qs := by
  induction ps generalizing xs with
  | nil => rfl
  | cons p ps ih =>
    rw [List.cons_append, drain, drain]
    cases applyOperator ctx p.op xs with
    | error e => rfl
    | ok ys => exact ih ys

/-- An operator applies all that wait for it, if what is below them does not. -/
theorem unwind_append (ctx : Context α) {priority : Nat} {ps qs : List Pending}
    (hp : ∀ p ∈ ps, p.yields priority = true) (hq : ∀ q ∈ qs.head?, q.yields priority = false)
    (xs : List (Operand α)) :
    unwind ctx priority (ps ++ qs) xs = (drain ctx ps xs).map (qs, ·) := by
  induction ps generalizing xs with
  | nil =>
    cases qs with
    | nil => rfl
    | cons q qs =>
      have hf : q.yields priority = false := hq q (by simp)
      rw [List.nil_append, unwind, hf, if_neg Bool.false_ne_true, drain]
      rfl
  | cons p ps ih =>
    have ht : p.yields priority = true := hp p List.mem_cons_self
    rw [List.cons_append, unwind, if_pos ht, drain]
    cases applyOperator ctx p.op xs with
    | error e => rfl
    | ok ys => exact ih (fun r hr => hp r (List.mem_cons_of_mem _ hr)) ys

/-! ## The operands and operators of a tree -/

/-- What a tree is as an operand. -/
def Tree.operand (ctx : Context α) (t : Tree) : Except Cause (Operand α) :=
  match t.name? with
  | some name => .ok (.name name)
  | none => (t.value ctx).map .value

/-- The operands after a tree, before the operators at its right end are applied. -/
def Tree.operands (ctx : Context α) : Tree → Except Cause (List (Operand α))
  | .group inner => inner.operands ctx
  | .negation operand => operand.operands ctx
  | .binary _ left right | .member left right => do
    let a ← left.operand ctx
    let bs ← right.operands ctx
    return bs ++ [a]
  | t => (t.operand ctx).map ([·])

/-- A word becomes the operand that its tree is. -/
theorem ofWord_eq_operand (ctx : Context α) (word : List Char) :
    Operand.ofWord word = Tree.operand ctx (.word word) := by
  unfold Tree.operand Operand.ofWord
  rw [Tree.name?, Tree.value, wordName?, wordValue]
  by_cases hd : isDigits word = true
  · rw [if_pos hd, if_pos hd, if_pos hd]
    cases read? word <;> rfl
  · rw [if_neg hd, if_neg hd, if_neg hd]
    generalize String.ofList word = text
    split
    · rfl
    · rfl
    · rfl
    · next ht hf hn => simp only

/-- A tree that spells a name has the value of that variable. -/
theorem Tree.value_of_name? (ctx : Context α) :
    ∀ (t : Tree) (name : String), t.name? = some name →
      t.value ctx = .ok ((ctx.valueOf name).getD .empty)
  | .word text, name, h => by
    rw [Tree.name?, wordName?] at h
    rw [Tree.value, wordValue]
    by_cases hd : isDigits text = true
    · rw [if_pos hd] at h
      cases h
    · rw [if_neg hd] at h ⊢
      generalize String.ofList text = spelling at h ⊢
      split at h
      · cases h
      · cases h
      · cases h
      · next ht hf hn =>
        cases h
        simp only
  | .group inner, name, h => by
    rw [Tree.name?] at h
    rw [Tree.value]
    exact Tree.value_of_name? ctx inner name h

/-- The value of a tree is what its operand stands for. -/
theorem Tree.value_eq_operand (ctx : Context α) (t : Tree) :
    t.value ctx = (t.operand ctx).map (Operand.resolve ctx) := by
  unfold Tree.operand
  split
  · next name h => exact Tree.value_of_name? ctx t name h
  · cases t.value ctx <;> rfl

/-- A tree that is no bare name has its value as operand. -/
theorem Tree.operand_of_name?_eq_none (ctx : Context α) (t : Tree) (h : t.name? = none) :
    t.operand ctx = (t.value ctx).map .value := by
  rw [Tree.operand, h]

/-- A group is the operand that stands in it. -/
theorem Tree.operand_group (ctx : Context α) (inner : Tree) :
    Tree.operand ctx (.group inner) = inner.operand ctx := by
  rw [Tree.operand, Tree.operand, Tree.name?, Tree.value]

/-- An arrow takes its right operand as a name. -/
theorem Tree.value_member (ctx : Context α) (left right : Tree) :
    Tree.value ctx (.member left right) = (do
      let a ← left.operand ctx
      let b ← right.operand ctx
      return (a.resolve ctx).property ctx.types b.spelling) := by
  rw [Tree.value, Tree.value_eq_operand ctx left]
  cases left.operand ctx with
  | error e => rfl
  | ok a =>
    rw [Tree.operand]
    cases right.name? with
    | some name => rfl
    | none => cases right.value ctx <;> rfl

/-! ## Applying the operators of a tree -/

/-- The operator above two operands is applied last. -/
theorem drain_above (ctx : Context α) (op : Operator) (depth : Nat) {left right : Tree}
    {rest : List (Operand α)}
    (ih : ∀ rest, (right.operands ctx >>= fun xs => drain ctx (right.pending depth) (xs ++ rest)) =
      (right.operand ctx).map (· :: rest)) :
    ((do
        let a ← left.operand ctx
        let bs ← right.operands ctx
        return bs ++ [a]) >>= fun xs =>
      drain ctx (right.pending depth ++ [op.at depth]) (xs ++ rest)) = (do
        let a ← left.operand ctx
        let b ← right.operand ctx
        applyOperator ctx op (b :: a :: rest)) := by
  cases left.operand ctx with
  | error e => rfl
  | ok a =>
    have hr := ih (a :: rest)
    simp only [ok_bind]
    cases hb : right.operands ctx with
    | error e =>
      rw [hb, error_bind] at hr
      rw [error_of_map hr.symm]
      rfl
    | ok bs =>
      rw [hb, ok_bind] at hr
      simp only [ok_bind, pure, Except.pure, List.append_assoc, List.singleton_append]
      rw [drain_append, hr]
      cases right.operand ctx with
      | error e => rfl
      | ok b =>
        rw [Except.map, ok_bind, ok_bind, drain]
        change (applyOperator ctx op (b :: a :: rest) >>= drain ctx []) = _
        cases applyOperator ctx op (b :: a :: rest) <;> rfl

/-- The operators that wait after a tree make its operand out of its operands. -/
theorem Tree.drain_pending (ctx : Context α) :
    ∀ (t : Tree) (depth : Nat) (rest : List (Operand α)),
      (t.operands ctx >>= fun xs => drain ctx (t.pending depth) (xs ++ rest)) =
        (t.operand ctx).map (· :: rest)
  | .word text, depth, rest => by
    rw [Tree.operands, Tree.pending]
    cases Tree.operand ctx (.word text) <;> rfl
    all_goals nofun
  | .quoted text, depth, rest => rfl
  | .call name args, depth, rest => by
    rw [Tree.operands, Tree.pending]
    cases Tree.operand ctx (.call name args) <;> rfl
    all_goals nofun
  | .group inner, depth, rest => by
    rw [Tree.operands, Tree.pending, Tree.operand_group]
    exact Tree.drain_pending ctx inner (depth + 1) rest
  | .negation operand, depth, rest => by
    have ih := Tree.drain_pending ctx operand depth rest
    rw [Tree.operands, Tree.pending, Tree.operand_of_name?_eq_none ctx (.negation operand) rfl,
      Tree.value, Tree.value_eq_operand ctx operand]
    simp only [drain_append, ← bind_assoc]
    rw [ih]
    cases operand.operand ctx <;> rfl
  | .binary op left right, depth, rest => by
    rw [Tree.operands, Tree.pending,
      drain_above ctx (.binary op) depth (Tree.drain_pending ctx right depth),
      Tree.operand_of_name?_eq_none ctx (.binary op left right) rfl, Tree.value,
      Tree.value_eq_operand ctx left, Tree.value_eq_operand ctx right]
    cases left.operand ctx with
    | error e => rfl
    | ok a =>
      cases right.operand ctx with
      | error e => rfl
      | ok b =>
        simp only [Except.map, ok_bind, applyOperator]
        cases op.apply (a.resolve ctx) (b.resolve ctx) <;> rfl
  | .member left right, depth, rest => by
    rw [Tree.operands, Tree.pending,
      drain_above ctx .arrow depth (Tree.drain_pending ctx right depth),
      Tree.operand_of_name?_eq_none ctx (.member left right) rfl, Tree.value_member]
    cases left.operand ctx with
    | error e => rfl
    | ok a => cases right.operand ctx <;> rfl
  | .method left name args, depth, rest => by
    rw [Tree.operands, Tree.pending]
    cases Tree.operand ctx (.method left name args) <;> rfl
    all_goals nofun

/-- An operator after a tree that may stand left of it makes one operand of the tree. -/
theorem pushOperator_after (ctx : Context α) {m : Machine α} {op : Operator} (hn : op ≠ .not)
    {t : Tree} (ht : t.StandsBefore op.priority)
    (hm : ∀ p ∈ m.operators.head?, p.yields (op.at m.depth).priority = false) :
    ((t.operands ctx).map (m.after t) >>= fun n => n.pushOperator ctx op) =
      (t.operand ctx).map (m.afterOperator op) := by
  have hd := Tree.drain_pending ctx t m.depth m.operands
  have hy : ∀ p ∈ t.pending m.depth, p.yields (op.at m.depth).priority = true :=
    Tree.yields_of_mem_pending t ht
  have hu (xs : List (Operand α)) := unwind_append ctx hy hm (xs ++ m.operands)
  cases hx : t.operands ctx with
  | error e =>
    rw [hx, error_bind] at hd
    rw [error_of_map hd.symm]
    rfl
  | ok xs =>
    rw [hx, ok_bind] at hd
    rw [Except.map, ok_bind, Machine.pushOperator]
    simp only [Machine.after, if_neg hn]
    change (unwind ctx (op.at m.depth).priority _ _ >>= _) = _
    rw [hu xs, hd]
    cases t.operand ctx <;> rfl

/-- What is left at the end of a tree that stands alone is its value. -/
theorem finish_after (ctx : Context α) (t : Tree) :
    ((t.operands ctx).map (Machine.start.after t) >>= fun m => m.finish ctx) = t.value ctx := by
  have hd := Tree.drain_pending ctx t 0 []
  rw [Tree.value_eq_operand]
  cases hx : t.operands ctx with
  | error e =>
    rw [hx, error_bind] at hd
    rw [error_of_map hd.symm]
    rfl
  | ok xs =>
    rw [hx, ok_bind] at hd
    rw [Except.map, ok_bind, Machine.finish]
    change (if 0 ≠ 0 then _ else if (xs ++ []).isEmpty && (t.pending 0 ++ []).isEmpty then _
      else if false = true then _ else drain ctx (t.pending 0 ++ []) (xs ++ []) >>= _) = _
    rw [List.append_nil (t.pending 0), hd]
    by_cases he : ((xs ++ []).isEmpty && (t.pending 0).isEmpty) = true
    · -- Nothing to apply and nothing to apply it to: then there is no operand at all.
      simp only [Bool.and_eq_true, List.isEmpty_iff] at he
      rw [he.1, he.2, drain] at hd
      cases hy : t.operand ctx with
      | error e => rw [hy] at hd; cases hd
      | ok a => rw [hy] at hd; cases hd
    · rw [if_neg (by decide), if_neg he, if_neg Bool.false_ne_true]
      cases t.operand ctx <;> rfl

/-! ## Taking the tokens of a tree -/

/-- A left operand and its operator leave one operand on the stack. -/
theorem feedAll_operator (ctx : Context α) {m : Machine α} {t left : Tree} {op : Operator}
    (hn : op ≠ .not) (hm : m.Admits t) (ht : ∀ k, t.StandsAfter k → k < op.priority)
    (hl : left.StandsBefore op.priority)
    (ih : feedAll ctx left.tokens m = (left.operands ctx).map (m.after left))
    (rest : List Token) :
    feedAll ctx (left.tokens ++ .operator op :: rest) m =
      left.operand ctx >>= fun a => feedAll ctx rest (m.afterOperator op a) := by
  have hp := pushOperator_after ctx hn hl (hm.not_yields op ht)
  rw [feedAll_append, ih]
  change ((left.operands ctx).map (m.after left) >>= fun n =>
    n.pushOperator ctx op >>= feedAll ctx rest) = _
  rw [← bind_assoc, hp]
  cases left.operand ctx <;> rfl

/-- An operator between two operands leaves the operands of both and waits on. -/
theorem feedAll_between (ctx : Context α) {m : Machine α} {t left right : Tree} {op : Operator}
    (hn : op ≠ .not) (hm : m.Admits t) (ht : ∀ k, t.StandsAfter k → k < op.priority)
    (hl : left.StandsBefore op.priority) (hr : right.StandsAfter op.priority)
    (room : right.nesting ≤ t.nesting)
    (hp : t.pending m.depth = right.pending m.depth ++ [op.at m.depth])
    (ihl : feedAll ctx left.tokens m = (left.operands ctx).map (m.after left))
    (ihr : ∀ n : Machine α, n.Admits right →
      feedAll ctx right.tokens n = (right.operands ctx).map (n.after right)) :
    feedAll ctx (left.tokens ++ .operator op :: right.tokens) m = (do
        let a ← left.operand ctx
        let bs ← right.operands ctx
        return bs ++ [a] : Except Cause (List (Operand α))).map (m.after t) := by
  rw [feedAll_operator ctx hn hm ht hl ihl]
  cases left.operand ctx with
  | error e => rfl
  | ok a =>
    have admits := m.admits_afterOperator op a hr ((Nat.add_le_add_left room _).trans hm.room)
    rw [ok_bind, ok_bind, ihr _ admits]
    cases right.operands ctx with
    | error e => rfl
    | ok bs => exact congrArg Except.ok (after_afterOperator m op a bs hp)

/-- A machine after a call with that result, which found those stacks. -/
def Machine.returned (m : Machine α) (name : String) (operands : List (Operand α))
    (operators : List Pending) : Except CallFault (Value α) → Except Cause (Machine α)
  | .ok v =>
    .ok { m with operands := .value v :: operands, operators := operators, expectOperand := false }
  | .error fault => .error (fault.cause name)

/-- A call that stands right of no arrow of its group is the call of a function. -/
theorem call_of_admits (ctx : Context α) {m : Machine α} {name : List Char} {args : List Reading}
    (hm : m.Admits (.call name args)) (values : List (Value α)) :
    m.call ctx (.ofList name) values =
      ((ctx.call (.ofList name) values).mapError (CallFault.cause (.ofList name))).map
        fun v => m.after (.call name args) [.value v] := by
  have hf : m.call ctx (.ofList name) values =
      m.returned (.ofList name) m.operands m.operators (ctx.call (.ofList name) values) := by
    rw [Machine.call]
    split
    · next p operators ho =>
      have hp : ¬(p.op = .arrow ∧
          p.priority = Operator.arrow.priority + groupPriority * m.depth) := by
        rintro ⟨ha, hq⟩
        rcases hm.last p (by rw [ho]; rfl) with hlt | ⟨o, rfl, hs⟩
        · omega
        · exact hs (congrArg Operator.priority ha)
      exact if_neg hp
    · rfl
  rw [hf]
  cases ctx.call (.ofList name) values <;> rfl

/-- A call directly right of an arrow is a method of the arrow's left operand. -/
theorem call_afterOperator (ctx : Context α) (m : Machine α) (a : Operand α) (left : Tree)
    (name : List Char) (args : List Reading) (values : List (Value α)) :
    (m.afterOperator .arrow a).call ctx (.ofList name) values =
      (((a.resolve ctx).call ctx.types (.ofList name) values).mapError
        (.function (.ofList name))).map fun v => m.after (.method left name args) [.value v] := by
  rw [Machine.call]
  simp only [Machine.afterOperator, Operator.at, and_self, if_true]
  cases (a.resolve ctx).call ctx.types (.ofList name) values <;> rfl

mutual

/-- After the tokens of a well placed tree the stacks hold its operands and what waits for them. -/
theorem Tree.feedAll_tokens (ctx : Context α) :
    ∀ (t : Tree) (m : Machine α), t.Placed → m.Admits t →
      feedAll ctx t.tokens m = (t.operands ctx).map (m.after t)
  | .word text, m, _, hm => by
    rw [Tree.tokens, feedAll_singleton, feed, Machine.pushOperand, if_pos hm.expects,
      ofWord_eq_operand ctx, Tree.operands]
    · cases Tree.operand ctx (.word text) <;> rfl
    all_goals nofun
  | .quoted text, m, _, hm => by
    rw [Tree.tokens, feedAll_singleton, feed, Machine.pushOperand, if_pos hm.expects]
    rfl
  | .call name args, m, ht, hm => by
    rw [Tree.tokens, feedAll_singleton, feed, if_pos hm.expects,
      evaluateAll_phrasesOf ctx args ht, Tree.operands,
      Tree.operand_of_name?_eq_none ctx (.call name args) rfl, Tree.value]
    · cases argumentValues ctx args with
      | error e => rfl
      | ok values =>
        rw [ok_bind, ok_bind, call_of_admits ctx hm]
        cases ctx.call (.ofList name) values <;> rfl
    all_goals nofun
  | .group inner, m, ht, hm => by
    have hi : ({ m with depth := m.depth + 1 } : Machine α).Admits inner := by
      have room := hm.room
      rw [Tree.nesting] at room
      refine ⟨hm.expects, by simp only; omega, fun p hp => .inl ?_⟩
      rcases hm.last p hp with hlt | ⟨o, rfl, _⟩
      · exact Nat.lt_of_lt_of_le hlt (Nat.mul_le_mul_left _ (Nat.le_succ _))
      · exact o.at_priority_lt m.depth
    have ih := Tree.feedAll_tokens ctx inner _ ht hi
    have lt : m.depth < maxDepth := by
      have room := hm.room
      rw [Tree.nesting] at room
      omega
    rw [Tree.tokens, feedAll, feed, Machine.openGroup, if_pos hm.expects, if_pos lt, ok_bind,
      feedAll_append, ih, Tree.operands]
    cases inner.operands ctx <;> rfl
  | .negation operand, m, ht, hm => by
    have hi : ({ m with operators := Operator.not.at m.depth :: m.operators } :
        Machine α).Admits operand := by
      refine ⟨hm.expects, hm.room, fun p hp => .inr ⟨.not, ?_, ht.2⟩⟩
      cases hp
      rfl
    have ih := Tree.feedAll_tokens ctx operand _ ht.1 hi
    rw [Tree.tokens, feedAll, feed, Machine.pushOperator]
    simp only [if_true, if_pos hm.expects, ok_bind]
    change feedAll ctx operand.tokens
      { m with operators := Operator.not.at m.depth :: m.operators } = _
    rw [ih, Tree.operands]
    cases operand.operands ctx with
    | error e => rfl
    | ok xs => simp only [Except.map, Machine.after, Tree.pending, List.append_assoc,
        List.singleton_append]
  | .binary op left right, m, ⟨hpl, hpr, hl, hr⟩, hm => by
    have hn : Operator.binary op ≠ .not := nofun
    have hs (k : Nat) (h : (Tree.binary op left right).StandsAfter k) :
        k < (Operator.binary op).priority := h
    have hml := hm.left (.binary op) (Nat.le_of_lt op.priority_lt_arrow) hs hl (le_max_left _ _)
    exact feedAll_between ctx hn hm hs hl hr (le_max_right _ _) rfl
      (Tree.feedAll_tokens ctx left m hpl hml)
      fun n hn => Tree.feedAll_tokens ctx right n hpr hn
  | .member left right, m, ⟨hpl, hpr, hl, hr⟩, hm => by
    have hn : Operator.arrow ≠ .not := nofun
    have hs (k : Nat) (h : (Tree.member left right).StandsAfter k) :
        k < Operator.arrow.priority := h
    have hml := hm.left .arrow (Nat.le_refl _) hs hl (le_max_left _ _)
    exact feedAll_between ctx hn hm hs hl hr (le_max_right _ _) rfl
      (Tree.feedAll_tokens ctx left m hpl hml)
      fun n hn => Tree.feedAll_tokens ctx right n hpr hn
  | .method left name args, m, ⟨hpl, hpa, hl⟩, hm => by
    have hn : Operator.arrow ≠ .not := nofun
    have hs (k : Nat) (h : (Tree.method left name args).StandsAfter k) :
        k < Operator.arrow.priority := h
    have hml := hm.left .arrow (Nat.le_refl _) hs hl le_rfl
    rw [Tree.tokens, feedAll_operator ctx hn hm hs hl (Tree.feedAll_tokens ctx left m hpl hml),
      Tree.operands, Tree.operand_of_name?_eq_none ctx (.method left name args) rfl, Tree.value,
      Tree.value_eq_operand ctx left]
    · cases left.operand ctx with
      | error e => rfl
      | ok a =>
        have he : (m.afterOperator .arrow a).expectOperand = true := rfl
        rw [ok_bind, feedAll_singleton, feed, if_pos he, evaluateAll_phrasesOf ctx args hpa,
          Except.map, ok_bind]
        cases argumentValues ctx args with
        | error e => rfl
        | ok values =>
          rw [ok_bind, ok_bind, call_afterOperator ctx m a left name args]
          cases (a.resolve ctx).call ctx.types (.ofList name) values <;> rfl
    all_goals nofun

/-- A text whose reading is well placed evaluates to the value of the reading. -/
theorem Reading.evaluate_phrase (ctx : Context α) :
    ∀ r : Reading, r.Placed → r.phrase.evaluate ctx = r.value ctx
  | .blank text, _ => by
    rw [Reading.phrase, Phrase.evaluate, feedAll, Reading.value]
    rfl
  | .tree text root, hr => by
    have room : 0 + root.nesting ≤ maxDepth := (Nat.zero_add _).trans_le hr.2
    have hm : (Machine.start : Machine α).Admits root := ⟨rfl, room, nofun⟩
    rw [Reading.phrase, Phrase.evaluate, Reading.value, Tree.feedAll_tokens ctx root _ hr.1 hm,
      ← finish_after ctx root]

/-- The arguments of a call evaluate to the values of their readings. -/
theorem evaluateAll_phrasesOf (ctx : Context α) :
    ∀ rs : List Reading, AllPlaced rs →
      evaluateAll ctx (phrasesOf rs) = argumentValues ctx rs
  | [], _ => rfl
  | r :: rs, h => by
    rw [phrasesOf, evaluateAll, argumentValues, Reading.evaluate_phrase ctx r h.1,
      evaluateAll_phrasesOf ctx rs h.2]

end

/-! ## Failures carry the text of the expression -/

section

variable {ctx : Context α} {text : List Char}

/-- The failure of an evaluation carries the text of the expression. -/
theorem error_of_evaluate {e : Error} (h : evaluate ctx text = .error e) :
    ∃ cause, e = .evaluation (.ofList text) cause := by
  rw [evaluate, Phrase.read, Phrase.evaluate] at h
  obtain ⟨cause, _, rfl⟩ := error_of_mapError h
  exact ⟨cause, rfl⟩

/-- Whether the directives of a template fit together is no matter of its expressions. -/
theorem evaluate_ne_structural {offset : Nat} {fault : StructuralFault} :
    evaluate ctx text ≠ .error (.structural offset fault) := by
  intro h
  obtain ⟨cause, hc⟩ := error_of_evaluate h
  cases hc

theorem evaluateText_ne_structural {offset : Nat} {fault : StructuralFault} :
    evaluateText ctx text ≠ .error (.structural offset fault) := by
  intro h
  exact evaluate_ne_structural (error_of_map h)

theorem evaluateBool_ne_structural {offset : Nat} {fault : StructuralFault} :
    evaluateBool ctx text ≠ .error (.structural offset fault) := by
  intro h
  exact evaluate_ne_structural (error_of_map h)

/-- A name fails as the evaluation of its text without the white space around it does. -/
theorem evaluate_trim_of_evaluateName {e : Error} (h : evaluateName ctx text = .error e) :
    evaluate ctx (Text.trim text) = .error e := by
  rw [evaluateName] at h
  split at h
  · cases h
  · exact error_of_map h

/-- So its failure carries that text. -/
theorem error_of_evaluateName {e : Error} (h : evaluateName ctx text = .error e) :
    ∃ cause, e = .evaluation (.ofList (Text.trim text)) cause :=
  error_of_evaluate (evaluate_trim_of_evaluateName h)

theorem evaluateName_ne_structural {offset : Nat} {fault : StructuralFault} :
    evaluateName ctx text ≠ .error (.structural offset fault) := by
  intro h
  obtain ⟨_, hc⟩ := error_of_evaluateName h
  cases hc

end

end MicroTemplate.Expression
