import MicroTemplate.Proofs.Expression.Call
import MicroTemplate.Proofs.Number.Decimal
import MicroTemplate.Proofs.Value.Arithmetic

/-!
# Calculations with integers

A calculation is built from integer literals, parentheses and the four operations of arithmetic. A
grammar says how it is written: sums of products of operands, each grouped to the left, with white
space anywhere between the parts. What it results in is said by unbounded integers. The evaluation
of its text gives that result if no part of the calculation leaves the range of 64 bits or divides
by zero, and is otherwise refused as a failure of arithmetic. This holds of calculations whose
groups can all be opened; the evaluation of one with more groups inside one another is stopped.
-/

namespace MicroTemplate.Expression

open Number Text Value

/-! ## Calculations and their results -/

/-- An integer literal: digits that denote an integer of 64 bits. -/
structure IntegerLiteral where
  /-- The digits. -/
  digits : List Char
  /-- They are digits, and there are some. -/
  isDigits : Number.isDigits digits = true
  /-- The number is in range. -/
  inRange : ofDigits digits ≤ 2 ^ 63 - 1

/-- A calculation with integers. -/
inductive Calculation where
  /-- An integer literal. -/
  | literal (l : IntegerLiteral)
  /-- A calculation between parentheses. -/
  | group (inner : Calculation)
  /-- An operation on the results of two calculations. -/
  | operation (op : ArithmeticOperator) (left right : Calculation)

namespace Calculation

/-- The result on unbounded integers. -/
def result : Calculation → ℤ
  | literal l => ofDigits l.digits
  | group inner => inner.result
  | operation op left right => op.exact left.result right.result

/-- Whether every part has a result and all of these are in range. -/
def Bounded : Calculation → Prop
  | literal _ => True
  | group inner => inner.Bounded
  | operation op left right =>
    left.Bounded ∧ right.Bounded ∧ op.Defined right.result ∧
      InRange (op.exact left.result right.result)

/-- Whether a calculation is bounded can be computed along its parts. -/
instance decidableBounded : ∀ c : Calculation, Decidable c.Bounded
  | literal _ => inferInstanceAs (Decidable True)
  | group inner => decidableBounded inner
  | operation _ left right =>
    have := decidableBounded left
    have := decidableBounded right
    inferInstanceAs (Decidable (_ ∧ _))

end Calculation

/-! ## How calculations are written -/

/-- The levels of the grammar, from the widest to the narrowest. -/
inductive Level where
  /-- Sums and differences of products. -/
  | sum
  /-- Products and quotients of operands. -/
  | product
  /-- Literals and groups. -/
  | operand
  deriving DecidableEq

/-- The next narrower level. -/
def Level.next : Level → Level
  | sum => product
  | product | operand => operand

/-- The level at which an operation is written. -/
def Level.of : ArithmeticOperator → Level
  | .add | .sub => sum
  | .mul | .div => product

/-- The character that an operation is written with. -/
def sign : ArithmeticOperator → Char
  | .add => '+'
  | .sub => '-'
  | .mul => '*'
  | .div => '/'

/-- The texts that write a calculation at some level. -/
inductive Writes : Level → List Char → Calculation → Prop where
  /-- A literal is written by its digits. -/
  | literal (l : IntegerLiteral) : Writes .operand l.digits (.literal l)
  /-- Between parentheses stands any calculation. -/
  | group {cs c} (h : Writes .sum cs c) : Writes .operand ('(' :: (cs ++ [')'])) (.group c)
  /-- What stands at a level stands at every wider one. -/
  | narrower {k cs c} (h : Writes (Level.next k) cs c) : Writes k cs c
  /-- The left operand of an operation is written at the same level, the right one at the next. -/
  | operation op {cs ds l r} (hl : Writes (.of op) cs l) (hr : Writes (Level.of op).next ds r) :
    Writes (.of op) (cs ++ sign op :: ds) (.operation op l r)
  /-- White space may stand before anything. -/
  | spaceBefore {k c cs t} (hc : isSpace c = true) (h : Writes k cs t) : Writes k (c :: cs) t
  /-- White space may stand after anything. -/
  | spaceAfter {k c cs t} (hc : isSpace c = true) (h : Writes k cs t) : Writes k (cs ++ [c]) t

/-! ## The trees of calculations -/

/-- The operator of expressions for an operation of arithmetic. -/
def BinaryOperator.ofArithmetic : ArithmeticOperator → BinaryOperator
  | .add => add
  | .sub => sub
  | .mul => mul
  | .div => div

/-- How tightly the operators of a level bind; operands bind tighter than any of them. -/
def Level.priority : Level → ℕ
  | sum => 5
  | product => 6
  | operand => 7

theorem Level.priority_of (op : ArithmeticOperator) :
    (Level.of op).priority = (BinaryOperator.ofArithmetic op).priority := by
  cases op <;> rfl

/-- The operators of the next level bind tighter. -/
theorem Level.priority_next_of (op : ArithmeticOperator) :
    (Level.of op).next.priority = (BinaryOperator.ofArithmetic op).priority + 1 := by
  cases op <;> rfl

theorem Level.priority_le_next (k : Level) : k.priority ≤ k.next.priority := by
  cases k <;> decide

/-- The tree of a calculation. -/
def Calculation.tree : Calculation → Tree
  | literal l => .word l.digits
  | group inner => .group inner.tree
  | operation op left right => .binary (.ofArithmetic op) left.tree right.tree

/-- The grammar places every operator as its priority wants it: at a level stand only operators that
bind at least as tightly. -/
theorem Writes.placed {k : Level} {cs : List Char} {c : Calculation} (h : Writes k cs c) :
    c.tree.Placed ∧ (∀ p ≤ k.priority, c.tree.StandsBefore p) ∧
      ∀ p < k.priority, c.tree.StandsAfter p := by
  induction h with
  | literal l => exact ⟨trivial, fun _ _ => trivial, fun _ _ => trivial⟩
  | group _ ih => exact ⟨ih.1, fun _ _ => trivial, fun _ _ => trivial⟩
  | @narrower k _ _ _ ih =>
    have wider := k.priority_le_next
    exact ⟨ih.1, fun p hp => ih.2.1 p (hp.trans wider), fun p hp => ih.2.2 p (hp.trans_le wider)⟩
  | operation op _ _ ihl ihr =>
    obtain ⟨placedLeft, before, _⟩ := ihl
    obtain ⟨placedRight, beforeRight, after⟩ := ihr
    rw [Level.priority_of] at before
    rw [Level.priority_next_of] at beforeRight after
    rw [Level.priority_of]
    refine ⟨⟨placedLeft, placedRight, before _ le_rfl, after _ (Nat.lt_succ_self _)⟩, ?_, ?_⟩
    · exact fun p hp => ⟨hp, beforeRight p (Nat.le_succ_of_le hp)⟩
    · exact fun p hp => hp
  | spaceBefore _ _ ih => exact ih
  | spaceAfter _ _ ih => exact ih

/-! ## The tokens of calculations -/

/-- Digits are parts of words. -/
theorem isWordChar_of_isDigit {c : Char} (h : c.isDigit = true) : isWordChar c = true := by
  have bounds := h
  simp only [Char.isDigit, Bool.and_eq_true, decide_eq_true_eq] at bounds
  have ascii : c.toNat < 128 := Nat.lt_of_le_of_lt bounds.2 (by decide)
  simp [isWordChar, isAlphanumeric_of_lt ascii, h]

/-- The characters of a literal are those of a word. -/
theorem IntegerLiteral.isWordChar (l : IntegerLiteral) :
    l.digits ≠ [] ∧ ∀ c ∈ l.digits, Expression.isWordChar c = true := by
  have digits := l.isDigits
  simp only [Number.isDigits, Bool.and_eq_true, Bool.not_eq_true', List.isEmpty_eq_false_iff,
    List.all_eq_true] at digits
  exact ⟨digits.1, fun c hc => isWordChar_of_isDigit (digits.2 c hc)⟩

/-- No calculation begins with an operator. -/
theorem Writes.head {k : Level} {cs : List Char} {c : Calculation} (h : Writes k cs c) :
    ∃ d ds, cs = d :: ds ∧ isOperatorChar d = false := by
  induction h with
  | literal l =>
    obtain ⟨hne, word⟩ := l.isWordChar
    obtain ⟨d, ds, heq⟩ := List.exists_cons_of_ne_nil hne
    exact ⟨d, ds, heq, isOperatorChar_of_isWordChar (word d (heq ▸ List.mem_cons_self))⟩
  | group => exact ⟨_, _, rfl, by decide⟩
  | narrower _ ih => exact ih
  | operation _ _ _ ih _ =>
    obtain ⟨d, ds, rfl, hd⟩ := ih
    exact ⟨d, _, rfl, hd⟩
  | spaceBefore hc _ _ => exact ⟨_, _, rfl, isOperatorChar_of_isSpace hc⟩
  | spaceAfter _ _ ih =>
    obtain ⟨d, ds, rfl, hd⟩ := ih
    exact ⟨d, _, rfl, hd⟩

theorem isOperatorChar_sign (op : ArithmeticOperator) : isOperatorChar (sign op) = true := by
  cases op <;> decide

theorem splitOperators?_sign (op : ArithmeticOperator) :
    splitOperators? [sign op] = some [.binary (.ofArithmetic op)] := by
  cases op <;> cbv

/-- Whether a text may stand right after a literal: it does not make it longer and makes it no
call. -/
def Ends (rest : List Char) : Prop := ∀ c ∈ rest.head?, isWordChar c = false ∧ c ≠ '('

/-- A text that writes a calculation is cut into the tokens of its tree, whatever follows. -/
theorem Writes.spells {k : Level} {cs : List Char} {c : Calculation} (h : Writes k cs c)
    {rest : List Char} {us : List Token} (ends : Ends rest) (hr : Spells rest us) :
    Spells (cs ++ rest) (c.tree.tokens ++ us) := by
  induction h generalizing rest us with
  | literal l =>
    obtain ⟨hne, word⟩ := l.isWordChar
    exact .word hne word (fun c hc => ⟨(ends c hc).1, fun _ => (ends c hc).2⟩) hr
  | @group cs c _ ih =>
    have close : Ends (')' :: rest) := by
      rintro d ⟨⟩
      decide
    have inside := Spells.openGroup (ih close (.closeGroup hr))
    simpa [Calculation.tree, Tree.tokens] using inside
  | narrower _ ih => exact ih ends hr
  | @operation op cs ds l r _ hw ihl ihr =>
    have operator := isOperatorChar_eq.1 (isOperatorChar_sign op)
    have stop : Ends (sign op :: (ds ++ rest)) := by
      rintro d ⟨⟩
      exact ⟨operator.1, operator.2.2.2.1⟩
    have alone : ∀ d ∈ (ds ++ rest).head?, isOperatorChar d = false := by
      obtain ⟨d, ds, rfl, hd⟩ := hw.head
      rintro d ⟨⟩
      exact hd
    have signs : ∀ d ∈ [sign op], isOperatorChar d = true := by
      simpa using isOperatorChar_sign op
    have behind := Spells.operators (List.cons_ne_nil _ _) signs alone (splitOperators?_sign op)
      (ihr ends hr)
    have whole := ihl stop behind
    simpa [Calculation.tree, Tree.tokens] using whole
  | spaceBefore hc _ ih => exact .space hc (ih ends hr)
  | @spaceAfter k c cs t hc _ ih =>
    have stop : Ends (c :: rest) := by
      rintro d ⟨⟩
      refine ⟨isWordChar_of_isSpace hc, ?_⟩
      rintro rfl
      exact absurd hc (by decide)
    rw [List.append_assoc]
    exact ih stop (.space hc hr)

/-! ## The values of calculations -/

variable {α : Type}

/-- Digits are read without a sign. -/
theorem readInt?_of_isDigits {cs : List Char} (h : isDigits cs = true) :
    readInt? cs = some (ofDigits cs : ℤ) := by
  rw [readInt?.eq_def]
  split
  · simp [isDigits] at h
  · simp [isDigits] at h
  · rw [readNat?_of_isDigits h]
    rfl

/-- A literal has the number that its digits denote. -/
theorem IntegerLiteral.exists_value (l : IntegerLiteral) (ctx : Context α) :
    ∃ k : Int64, wordValue ctx l.digits = .ok (.int k) ∧ k.toInt = ofDigits l.digits := by
  have inRange : InRange (ofDigits l.digits) := by
    have := l.inRange
    constructor <;> omega
  have read : read? l.digits = narrow? (ofDigits l.digits) := by
    rw [read?, readInt?_of_isDigits l.isDigits, Option.bind_some]
  cases hk : narrow? (ofDigits l.digits) with
  | none => exact absurd inRange (narrow?_eq_none_iff.1 hk)
  | some k =>
    refine ⟨k, ?_, narrow?_eq_some_iff.1 hk⟩
    rw [wordValue, if_pos l.isDigits, read, hk]

variable [HostObject α]

/-- The operators of expressions apply the operations of arithmetic. -/
theorem apply_ofArithmetic (op : ArithmeticOperator) (a b : Value α) :
    (BinaryOperator.ofArithmetic op).apply a b = op.apply a b := by
  cases op <;> rfl

/-- A calculation has its result as a value if all parts are bounded, and otherwise it fails as one
of its operations does. -/
theorem Calculation.value_tree (ctx : Context α) (c : Calculation) :
    (c.Bounded → ∃ k : Int64, c.tree.value ctx = .ok (.int k) ∧ k.toInt = c.result) ∧
      (¬c.Bounded → ∃ fault, c.tree.value ctx = .error (.arithmetic fault)) := by
  induction c with
  | literal l =>
    exact ⟨fun _ => l.exists_value ctx, fun unbounded => absurd trivial unbounded⟩
  | group inner ih => exact ih
  | operation op left right ihl ihr =>
    rw [tree, Tree.value]
    by_cases hl : left.Bounded
    · obtain ⟨m, hm, resultLeft⟩ := ihl.1 hl
      by_cases hr : right.Bounded
      · obtain ⟨n, hn, resultRight⟩ := ihr.1 hr
        rw [hm, hn, ok_bind, ok_bind, apply_ofArithmetic, Bounded, result, ← resultLeft,
          ← resultRight]
        constructor
        · rintro ⟨_, _, hd, inRange⟩
          exact ArithmeticOperator.apply_of_inRange (fun _ => ⟨rfl, rfl⟩) rfl rfl hd inRange
        · intro unbounded
          exact ArithmeticOperator.exists_fault_of_ofInts fun fits => unbounded ⟨hl, hr, fits⟩
      · obtain ⟨fault, hf⟩ := ihr.2 hr
        rw [hm, hf]
        exact ⟨fun bounded => absurd bounded.2.1 hr, fun _ => ⟨fault, rfl⟩⟩
    · obtain ⟨fault, hf⟩ := ihl.2 hl
      rw [hf]
      exact ⟨fun bounded => absurd bounded.1 hl, fun _ => ⟨fault, rfl⟩⟩

/-- A text that writes a calculation evaluates to the value of its tree if its groups can all be
opened. -/
theorem Writes.evaluate_eq {text : List Char} {c : Calculation} (h : Writes .sum text c)
    (room : nesting text ≤ maxDepth) (ctx : Context α) :
    evaluate ctx text = (c.tree.value ctx).mapError (.evaluation (.ofList text)) := by
  have spells : Spells (text ++ []) (c.tree.tokens ++ []) := h.spells nofun .nil
  rw [List.append_nil, List.append_nil] at spells
  rw [nesting_of_spells spells] at room
  exact evaluate_of_spells spells h.placed.1 room

/-- Integer arithmetic is exact or refused. An operation on two values gives an integer exactly if
both stand for integers, nothing is divided by zero and the exact result is that integer and in
range; otherwise it fails for the first reason that there is. So a calculation of any size, as long
as no more groups stand inside one another than can be opened, evaluates to its exact result if
every part has one in range, and otherwise fails as one of arithmetic. -/
theorem arithmetic_exact_or_refused :
    (∀ (op : ArithmeticOperator) (a b : Value α), op.OnIntegers a b →
        (∀ r : ℤ, (∃ k : Int64, op.apply a b = .ok (.int k) ∧ k.toInt = r) ↔
            ∃ m n : Int64, a.toInt = .ok m ∧ b.toInt = .ok n ∧ op.Defined n.toInt ∧
              op.exact m.toInt n.toInt = r ∧ InRange r) ∧
          (∀ v, op.apply a b = .ok v → ∃ k, v = .int k) ∧
          ∀ cause, op.apply a b = .error cause ↔ op.Refuses a b cause) ∧
      ∀ (ctx : Context α) (text : List Char) (c : Calculation), Writes .sum text c →
        nesting text ≤ maxDepth →
          (c.Bounded → ∃ k : Int64, evaluate ctx text = .ok (.int k) ∧ k.toInt = c.result) ∧
            (¬c.Bounded → ∃ e, evaluate ctx text = .error e ∧ e.isArithmetic = true) := by
  constructor
  · intro op a b h
    exact ⟨ArithmeticOperator.exists_apply_eq_ok_iff h,
      fun v => ArithmeticOperator.eq_int_of_apply h,
      fun cause => ArithmeticOperator.apply_eq_error_iff h⟩
  · intro ctx text c written room
    rw [written.evaluate_eq room]
    constructor
    · intro bounded
      obtain ⟨k, value, result⟩ := (c.value_tree ctx).1 bounded
      rw [value]
      exact ⟨k, rfl, result⟩
    · intro unbounded
      obtain ⟨fault, failure⟩ := (c.value_tree ctx).2 unbounded
      rw [failure]
      exact ⟨_, rfl, rfl⟩

/-- The greatest integer, read from a text, cannot be increased by what is true. The quotient of
minus seven by two is minus three. A sum that leaves the range fails although the difference that
follows would lead back into it. -/
theorem arithmetic_exact_or_refused_at_limits :
    ArithmeticOperator.apply .add (.text " 9223372036854775807" : Value Empty) (.bool true) =
        .error (.arithmetic .overflow) ∧
      (∃ k : Int64, evaluate (α := Empty) ⟨fun _ => none, fun _ _ => .ok .empty, none⟩
        "(3 - 10) / 2 ".toList = .ok (.int k) ∧ k.toInt = -3) ∧
      ∃ e, evaluate (α := Empty) ⟨fun _ => none, fun _ _ => .ok .empty, none⟩
        "9223372036854775807 + 1 - 1".toList = .error e ∧ e.isArithmetic = true := by
  have blank : isSpace ' ' = true := by decide
  have one := Writes.literal ⟨['1'], by decide, by decide⟩
  have two := Writes.literal ⟨['2'], by decide, by decide⟩
  have three := Writes.literal ⟨['3'], by decide, by decide⟩
  have ten := Writes.literal ⟨['1', '0'], by decide, by decide⟩
  have greatest := Writes.literal ⟨"9223372036854775807".toList, by decide, by decide⟩
  refine ⟨?_, ?_, ?_⟩
  · have read : (text " 9223372036854775807" : Value Empty).toInt = .ok 9223372036854775807 := by
      cbv
    have onIntegers : ArithmeticOperator.add.OnIntegers
        (text " 9223372036854775807" : Value Empty) (.bool true) := fun _ => ⟨rfl, rfl⟩
    refine ((arithmetic_exact_or_refused.1 .add _ _ onIntegers).2.2 _).2 ?_
    exact .overflow read rfl (by decide) (by decide)
  · have difference := Writes.operation .sub (.spaceAfter blank (.narrower (.narrower three)))
      (.spaceBefore blank (.narrower ten))
    have quotient := Writes.operation .div (.spaceAfter blank (.narrower (.group difference)))
      (.spaceBefore blank two)
    have written : Writes .sum _ _ := .narrower (.spaceAfter blank quotient)
    exact (arithmetic_exact_or_refused.2 _ _ _ written (by decide +kernel)).1 (by decide)
  · have sum := Writes.operation .add (.spaceAfter blank (.narrower (.narrower greatest)))
      (.spaceBefore blank (.narrower one))
    have difference := Writes.operation .sub (.spaceAfter blank sum)
      (.spaceBefore blank (.narrower one))
    exact (arithmetic_exact_or_refused.2 _ _ _ difference (by decide +kernel)).2 (by decide)

/-! ## Calculations inside groups -/

/-- A calculation inside `n` more groups. -/
def Calculation.within (c : Calculation) : ℕ → Calculation
  | 0 => c
  | n + 1 => .group (c.within n)

/-- A text inside `n` pairs of parentheses. -/
def parenthesized (text : List Char) : ℕ → List Char
  | 0 => text
  | n + 1 => '(' :: (parenthesized text n ++ [')'])

theorem Writes.within {text : List Char} {c : Calculation} (h : Writes .sum text c) :
    ∀ n, Writes .sum (parenthesized text n) (c.within n)
  | 0 => h
  | n + 1 => .narrower (.narrower (.group (h.within n)))

/-- Groups change nothing about whether a calculation is bounded. -/
theorem Calculation.bounded_within (c : Calculation) : ∀ n, (c.within n).Bounded ↔ c.Bounded
  | 0 => Iff.rfl
  | n + 1 => c.bounded_within n

/-- The evaluation is stopped at the first group that cannot be opened any more, whatever stands
inside. -/
theorem Calculation.feedAll_within (ctx : Context α) (c : Calculation) :
    ∀ (n : ℕ) (m : Machine α) (us : List Token), m.expectOperand = true → m.depth ≤ maxDepth →
      maxDepth < m.depth + n →
        feedAll ctx ((c.within n).tree.tokens ++ us) m = .error (.aborted .depth)
  | 0, m, us, _, opened, deep => absurd opened (Nat.not_le.2 deep)
  | n + 1, m, us, expects, opened, deep => by
    rw [within, tree, Tree.tokens, List.cons_append, List.append_assoc, feedAll, feed,
      Machine.openGroup, if_pos expects]
    by_cases room : m.depth < maxDepth
    · rw [if_pos room, ok_bind]
      exact c.feedAll_within ctx n _ _ expects room (by simp only; omega)
    · rw [if_neg room]
      rfl

/-- A calculation inside more groups than can be opened has no value and no failure to report. -/
theorem Writes.evaluate_within {text : List Char} {c : Calculation} (h : Writes .sum text c)
    (ctx : Context α) {n : ℕ} (deep : maxDepth < n) :
    evaluate ctx (parenthesized text n) =
      .error (.evaluation (.ofList (parenthesized text n)) (.aborted .depth)) := by
  have spells : Spells (parenthesized text n ++ []) ((c.within n).tree.tokens ++ []) :=
    (h.within n).spells nofun .nil
  have stopped := c.feedAll_within ctx n .start [] rfl (Nat.zero_le _)
    (deep.trans_le (Nat.zero_add n).ge)
  rw [List.append_nil] at spells
  rw [evaluate, read_of_spells spells, Phrase.evaluate, stopped]
  rfl

/-- The integer one inside 214748365 pairs of parentheses is a calculation all of whose parts are in
range. Its evaluation is stopped: it gives no value and is not refused as one of arithmetic. -/
theorem calculation_stopped_in_groups :
    ∃ (c : Calculation) (e : Error), Writes .sum (parenthesized ['1'] 214748365) c ∧ c.Bounded ∧
      evaluate (α := Empty) ⟨fun _ => none, fun _ _ => .ok .empty, none⟩
          (parenthesized ['1'] 214748365) = .error e ∧
        e.isArithmetic = false ∧ e.abort? = some .depth := by
  have one : Writes .sum ['1'] (.literal ⟨['1'], by decide, by decide⟩) :=
    .narrower (.narrower (.literal ⟨['1'], by decide, by decide⟩))
  -- the number of groups stays a variable, lest they be written out
  obtain ⟨n, hn⟩ : ∃ n, n = 214748365 := ⟨_, rfl⟩
  have deep : maxDepth < n := hn ▸ by decide
  rw [← hn]
  exact ⟨_, _, one.within n, (Calculation.bounded_within _ n).2 trivial,
    one.evaluate_within _ deep, rfl, rfl⟩

end MicroTemplate.Expression
