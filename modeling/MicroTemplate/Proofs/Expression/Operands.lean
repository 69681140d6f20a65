import MicroTemplate.Proofs.Expression.Spelling

/-!
# The stacks of an evaluation are in step

Between any two tokens there is one operand for each waiting operator that joins two operands, and
one more after an operand. No step therefore lacks an operand, and at the end of an expression that
is not blank the last operator leaves exactly one.
-/

namespace MicroTemplate

mutual

/-- Whether an error is in the end an operator without its operands. -/
def Error.isUnderflow : Error → Bool
  | .evaluation _ cause => cause.isUnderflow
  | _ => false

/-- Whether a cause is in the end an operator without its operands. -/
def Cause.isUnderflow : Cause → Bool
  | .stackUnderflow => true
  | .nested inner => inner.isUnderflow
  | _ => false

end

/-- A result with a property, or a failure that is no lack of operands. -/
def Sound {β : Type} (post : β → Prop) : Except Cause β → Prop
  | .ok b => post b
  | .error cause => cause.isUnderflow = false

namespace Sound

variable {β γ : Type} {post : β → Prop}

theorem bind {next : γ → Prop} {x : Except Cause β} {f : β → Except Cause γ} (h : Sound post x)
    (hf : ∀ b, post b → Sound next (f b)) : Sound next (x >>= f) := by
  cases x with
  | error cause => exact h
  | ok b => exact hf b h

/-- A failure of a sound result is not that of a missing operand. -/
theorem isUnderflow_of_error {x : Except Cause β} {cause : Cause} (h : Sound post x)
    (hx : x = .error cause) : cause.isUnderflow = false := by
  subst hx
  exact h

/-- A success of a sound result has its property. -/
theorem of_ok {x : Except Cause β} {b : β} (h : Sound post x) (hx : x = .ok b) : post b := by
  subst hx
  exact h

end Sound

/-! ## Operations on values -/

/-- Whether a cause lies in the values that an operation is given. -/
def Cause.isOfValues : Cause → Bool
  | .cast _ _ | .arithmetic _ => true
  | _ => false

/-- A result, or a failure that lies in the values that were given. -/
def Computed {β : Type} : Except Cause β → Prop
  | .ok _ => True
  | .error cause => cause.isOfValues = true

namespace Computed

variable {β γ : Type} {x : Except Cause β}

theorem bind {f : β → Except Cause γ} (h : Computed x) (hf : ∀ b, Computed (f b)) :
    Computed (x >>= f) := by
  cases x with
  | error cause => exact h
  | ok b => exact hf b

/-- Values are no operands that lack. -/
theorem sound (h : Computed x) : Sound (fun _ => True) x := by
  cases x with
  | ok b => trivial
  | error cause =>
    cases cause with
    | cast source target => rfl
    | arithmetic fault => rfl
    | _ => cases h

end Computed

namespace Value

open Number

variable {α : Type}

/-- Whether a value stands for an integer lies in the value. -/
theorem computed_toInt (v : Value α) : Computed v.toInt := by
  cases v with
  | float x =>
    rw [toInt, floatToInt]
    split
    · trivial
    · rfl
  | text s =>
    rw [toInt]
    split
    · trivial
    · rfl
  | null => trivial
  | bool b => trivial
  | int n => trivial
  | list items => rfl
  | map entries => rfl
  | dateTime t => rfl
  | duration d => rfl
  | object o => rfl

/-- Whether a value stands for a floating-point number lies in the value. -/
theorem computed_toFloat (v : Value α) : Computed v.toFloat := by
  cases v with
  | text s =>
    rw [toFloat]
    split
    · trivial
    · rfl
  | float x => trivial
  | null => trivial
  | bool b => trivial
  | int n => trivial
  | list items => rfl
  | map entries => rfl
  | dateTime t => rfl
  | duration d => rfl
  | object o => rfl

/-- Whether an integer is in range lies in the integer. -/
theorem computed_exact (n : Int) : Computed (exact n : Except Cause (Value α)) := by
  rw [exact]
  split
  · trivial
  · rfl

/-- What is computed from two integers that two values stand for. -/
theorem computed_ofInts {β : Type} (a b : Value α) {f : Int64 → Int64 → Except Cause β}
    (hf : ∀ m n, Computed (f m n)) : Computed (do f (← a.toInt) (← b.toInt)) :=
  (computed_toInt a).bind fun m => (computed_toInt b).bind fun n => hf m n

/-- What is computed from two floating-point numbers that two values stand for. -/
theorem computed_ofFloats {β : Type} (a b : Value α) (f : Float → Float → β) :
    Computed (do return f (← a.toFloat) (← b.toFloat)) :=
  (computed_toFloat a).bind fun _ => (computed_toFloat b).bind fun _ => trivial

theorem computed_mul (a b : Value α) : Computed (a.mul b) := by
  rw [mul]
  split
  · exact computed_ofFloats a b fun x y => Value.float (x * y)
  · exact computed_ofInts a b fun m n => computed_exact _

theorem computed_div (a b : Value α) : Computed (a.div b) := by
  refine computed_ofInts a b fun m n => ?_
  split
  · rfl
  · exact computed_exact _

variable [HostObject α]

/-- Whether two values can be compared lies in them. -/
theorem computed_compare (a b : Value α) : Computed (a.compare b) := by
  rw [compare]
  split
  · trivial
  · trivial
  · trivial
  · split
    · exact computed_ofFloats a b compareFloats
    · split
      · trivial
      · trivial

end Value

namespace Expression

open Number Text

variable {α : Type}

/-- A word that stands for nothing is no missing operand. -/
theorem Operand.sound_ofWord (word : List Char) :
    Sound (fun _ => True) (Operand.ofWord word : Except Cause (Operand α)) := by
  unfold Operand.ofWord
  split
  · split
    · trivial
    · rfl
  · split <;> trivial

/-! ## The count of operands -/

/-- The number of waiting operators that join two operands. -/
def joining (ps : List Pending) : Nat := ps.countP (·.op != .not)

/-- All operators but the negation join two operands. -/
theorem joining_cons (p : Pending) (ps : List Pending) :
    joining (p :: ps) = joining ps + if p.op = .not then 0 else 1 := by
  by_cases h : p.op = .not
  · simp [joining, h]
  · simp [joining, h]

/-- Whether there is one operand for each operator that joins two, and one more where an operator
has to come. -/
def Machine.Balanced (m : Machine α) : Prop :=
  m.operands.length = joining m.operators + if m.expectOperand then 0 else 1

theorem balanced_start : (Machine.start : Machine α).Balanced := rfl

namespace Machine

variable {m : Machine α}

/-- Where an operator has to come, there is one operand more than operators that join. -/
theorem Balanced.length (h : m.Balanced) (he : m.expectOperand = false) :
    m.operands.length = joining m.operators + 1 := by
  have hm := h
  rwa [Balanced, he] at hm

/-- Where an operand has to come, there are as many operands as operators that join. -/
theorem Balanced.length_of_expects (h : m.Balanced) (he : m.expectOperand = true) :
    m.operands.length = joining m.operators := by
  have hm := h
  rwa [Balanced, he] at hm

/-- An opening parenthesis leaves the stacks in step. -/
theorem Balanced.openGroup (h : m.Balanced) : Sound Balanced m.openGroup := by
  rw [Machine.openGroup]
  split
  · split
    · exact h
    · rfl
  · rfl

/-- So does a closing parenthesis. -/
theorem Balanced.closeGroup (h : m.Balanced) : Sound Balanced m.closeGroup := by
  rw [Machine.closeGroup]
  split
  · rfl
  · split
    · rfl
    · exact h

/-- An operand comes where one is expected. -/
theorem Balanced.pushOperand (h : m.Balanced) (text : List Char)
    {operand : Except Cause (Operand α)} (ho : Sound (fun _ => True) operand) :
    Sound Balanced (m.pushOperand text operand) := by
  rw [Machine.pushOperand]
  split
  · next he =>
    refine ho.bind fun a _ => ?_
    exact congrArg (· + 1) (h.length_of_expects he)
  · rfl

/-- What a call with those stacks leaves. -/
theorem sound_returned (m : Machine α) (name : String) {xs : List (Operand α)} {ps : List Pending}
    (h : xs.length = joining ps) (result : Except CallFault (Value α)) :
    Sound Balanced (m.returned name xs ps result) := by
  cases result with
  | error fault => cases fault <;> rfl
  | ok v => exact congrArg (· + 1) h

end Machine

/-! ## Steps -/

variable [HostObject α]

/-- A binary operation fails at most for its values. -/
theorem BinaryOperator.computed_apply (op : BinaryOperator) (a b : Value α) :
    Computed (op.apply a b) := by
  have compared (p : Ordering → Value α) : Computed (do return p (← a.compare b)) :=
    (Value.computed_compare a b).bind fun _ => trivial
  have bits (f : Int64 → Int64 → Int64) : Computed (a.bitwise f b) :=
    Value.computed_ofInts a b fun _ _ => trivial
  cases op with
  | eq => exact compared fun o => .bool (o = .eq)
  | ne => exact compared fun o => .bool (o ≠ .eq)
  | lt => exact compared fun o => .bool (o = .lt)
  | le => exact compared fun o => .bool (o ≠ .gt)
  | gt => exact compared fun o => .bool (o = .gt)
  | ge => exact compared fun o => .bool (o ≠ .lt)
  | and => trivial
  | or => trivial
  | xor => trivial
  | bitAnd => exact bits (· &&& ·)
  | bitOr => exact bits (· ||| ·)
  | bitXor => exact bits (· ^^^ ·)
  | concat => trivial
  | add => exact Value.computed_ofInts a b fun m n => Value.computed_exact _
  | sub => exact Value.computed_ofInts a b fun m n => Value.computed_exact _
  | mul => exact Value.computed_mul a b
  | div => exact Value.computed_div a b

/-- An operator finds its operands and leaves one. -/
theorem sound_applyOperator (ctx : Context α) (op : Operator) {xs : List (Operand α)} {n : Nat}
    (h : xs.length = n + 1 + if op = .not then 0 else 1) :
    Sound (·.length = n + 1) (applyOperator ctx op xs) := by
  cases op with
  | not =>
    rw [if_pos rfl] at h
    obtain ⟨a, rest, rfl⟩ := List.exists_cons_of_length_eq_add_one h
    exact h
  | arrow =>
    rw [if_neg (by decide)] at h
    obtain ⟨b, ys, rfl⟩ := List.exists_cons_of_length_eq_add_one h
    have hy : ys.length = n + 1 := Nat.succ.inj h
    obtain ⟨a, rest, rfl⟩ := List.exists_cons_of_length_eq_add_one hy
    exact hy
  | binary op =>
    rw [if_neg (by simp)] at h
    obtain ⟨b, ys, rfl⟩ := List.exists_cons_of_length_eq_add_one h
    have hy : ys.length = n + 1 := Nat.succ.inj h
    obtain ⟨a, rest, rfl⟩ := List.exists_cons_of_length_eq_add_one hy
    exact (op.computed_apply _ _).sound.bind fun v _ => hy

/-- Applying what comes before an operator leaves one operand more than operators that join. -/
theorem sound_unwind (ctx : Context α) (priority : Nat) {ps : List Pending}
    {xs : List (Operand α)} (h : xs.length = joining ps + 1) :
    Sound (fun r => r.2.length = joining r.1 + 1) (unwind ctx priority ps xs) := by
  induction ps generalizing xs with
  | nil => exact h
  | cons p ps ih =>
    rw [unwind]
    split
    · rw [joining_cons, Nat.add_right_comm] at h
      exact (sound_applyOperator ctx p.op h).bind fun ys hy => ih hy
    · exact h

/-- Applying all operators leaves one operand. -/
theorem sound_drain (ctx : Context α) {ps : List Pending} {xs : List (Operand α)}
    (h : xs.length = joining ps + 1) : Sound (·.length = 1) (drain ctx ps xs) := by
  induction ps generalizing xs with
  | nil => exact h
  | cons p ps ih =>
    rw [joining_cons, Nat.add_right_comm] at h
    rw [drain]
    exact (sound_applyOperator ctx p.op h).bind fun ys hy => ih hy

namespace Machine

variable {ctx : Context α} {m : Machine α}

/-- A negation waits for the operand that comes and changes no count. Any other operator applies
what comes before it, which leaves its left operand, and then has to be counted itself. -/
theorem Balanced.pushOperator (h : m.Balanced) (op : Operator) :
    Sound Balanced (m.pushOperator ctx op) := by
  rw [Machine.pushOperator]
  split
  · next ho =>
    split
    · next he =>
      have hl := h.length_of_expects he
      change m.operands.length = joining (_ :: m.operators) + _
      rw [joining_cons, if_pos ho, he]
      exact hl
    · rfl
  · next ho =>
    split
    · rfl
    · next he =>
      have hf : m.expectOperand = false := by simpa using he
      refine (sound_unwind ctx _ (h.length hf)).bind fun r hr => ?_
      change r.2.length = joining (_ :: r.1) + _
      rw [joining_cons, if_neg ho]
      exact hr

/-- A method takes the arrow and its left operand off the stacks before it leaves its result. -/
theorem Balanced.call (h : m.Balanced) (he : m.expectOperand = true) (name : String)
    (args : List (Value α)) : Sound Balanced (m.call ctx name args) := by
  have hl := h.length_of_expects he
  rw [Machine.call]
  split
  · next p ps hp =>
    split
    · next ha =>
      rw [hp, joining_cons, if_neg (by rw [ha.1]; decide)] at hl
      obtain ⟨a, xs, hx⟩ := List.exists_cons_of_length_eq_add_one hl
      rw [hx] at hl ⊢
      exact sound_returned m name (Nat.succ.inj hl) _
    · exact sound_returned m name hl _
  · exact sound_returned m name hl _

/-- At the end nothing is missing. -/
theorem Balanced.finish (h : m.Balanced) : Sound (fun _ => True) (m.finish ctx) := by
  rw [Machine.finish]
  split
  · rfl
  · split
    · trivial
    · split
      · rfl
      · next he =>
        have hf : m.expectOperand = false := by simpa using he
        refine (sound_drain ctx (h.length hf)).bind fun xs hx => ?_
        obtain ⟨a, rest, rfl⟩ := List.exists_cons_of_length_eq_add_one hx
        trivial

end Machine

/-! ## Runs -/

mutual

/-- An expression never fails for want of operands. -/
theorem Phrase.isUnderflow_of_evaluate {ctx : Context α} :
    ∀ (p : Phrase) {e : Error}, p.evaluate ctx = .error e → e.isUnderflow = false
  | .mk text tokens fault, e, h => by
    have sound : Sound (fun _ => True) (do
        let m ← feedAll ctx tokens .start
        match fault with
        | some f => .error f.cause
        | none => m.finish ctx) := by
      refine (sound_feedAll tokens balanced_start).bind fun m hm => ?_
      cases fault with
      | none => exact hm.finish
      | some f => cases f <;> rfl
    rw [Phrase.evaluate] at h
    obtain ⟨cause, hc, rfl⟩ := error_of_mapError h
    exact sound.isUnderflow_of_error hc

/-- Tokens keep the stacks in step. -/
theorem sound_feedAll {ctx : Context α} :
    ∀ (ts : List Token) {m : Machine α}, m.Balanced → Sound Machine.Balanced (feedAll ctx ts m)
  | [], m, h => h
  | t :: ts, m, h => by
    rw [feedAll]
    exact (sound_feed t h).bind fun n hn => sound_feedAll ts hn

/-- A token keeps the stacks in step. -/
theorem sound_feed {ctx : Context α} :
    ∀ (t : Token) {m : Machine α}, m.Balanced → Sound Machine.Balanced (feed ctx t m)
  | .openGroup, m, h => h.openGroup
  | .closeGroup, m, h => h.closeGroup
  | .word text, m, h => h.pushOperand text (Operand.sound_ofWord text)
  | .quoted text, m, h => h.pushOperand _ trivial
  | .operator op, m, h => h.pushOperator op
  | .call name args, m, h => by
    rw [feed]
    split
    · next he => exact (sound_evaluateAll args).bind fun values _ => h.call he _ values
    · rfl

/-- Arguments never fail for want of operands. -/
theorem sound_evaluateAll {ctx : Context α} :
    ∀ ps : List Phrase, Sound (fun _ => True) (evaluateAll ctx ps)
  | [] => trivial
  | p :: ps => by
    have first : Sound (fun _ => True) ((p.evaluate ctx).mapError Cause.nested) := by
      cases he : p.evaluate ctx with
      | ok v => trivial
      | error e => exact Phrase.isUnderflow_of_evaluate p he
    rw [evaluateAll]
    exact first.bind fun v _ => (sound_evaluateAll ps).bind fun vs _ => trivial

end

end Expression

end MicroTemplate
