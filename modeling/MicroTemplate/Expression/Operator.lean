import MicroTemplate.Text.Search
import MicroTemplate.Value.Arithmetic
import MicroTemplate.Value.Order

/-!
# Operators

The operators of expressions, how tightly they bind, how they are spelled and what the binary ones
compute. Operators written without space between them are told apart by their spellings, the longer
ones first.
-/

namespace MicroTemplate.Expression

/-- The operators with two operands that are values. -/
inductive BinaryOperator where
  | eq
  | ne
  | lt
  | le
  | gt
  | ge
  | and
  | or
  | xor
  | bitAnd
  | bitOr
  | bitXor
  | concat
  | add
  | sub
  | mul
  | div
  deriving DecidableEq, Repr

/-- How tightly a binary operator binds. -/
def BinaryOperator.priority : BinaryOperator → Nat
  | eq | ne | lt | le | gt | ge => 0
  | and | or | xor => 1
  | bitAnd | bitOr | bitXor => 2
  | concat => 4
  | add | sub => 5
  | mul | div => 6

/-- The value of a binary operation. -/
def BinaryOperator.apply {α : Type} [HostObject α] (op : BinaryOperator) (a b : Value α) :
    Except Cause (Value α) :=
  match op with
  | eq => do return .bool ((← a.compare b) = .eq)
  | ne => do return .bool ((← a.compare b) ≠ .eq)
  | lt => do return .bool ((← a.compare b) = .lt)
  | le => do return .bool ((← a.compare b) ≠ .gt)
  | gt => do return .bool ((← a.compare b) = .gt)
  | ge => do return .bool ((← a.compare b) ≠ .lt)
  | and => .ok (.bool (a.truth && b.truth))
  | or => .ok (.bool (a.truth || b.truth))
  | xor => .ok (.bool (a.truth != b.truth))
  | bitAnd => a.bitwise (· &&& ·) b
  | bitOr => a.bitwise (· ||| ·) b
  | bitXor => a.bitwise (· ^^^ ·) b
  | concat => .ok (a.concat b)
  | add => a.add b
  | sub => a.sub b
  | mul => a.mul b
  | div => a.div b

/-- The operators. -/
inductive Operator where
  /-- Negation, which stands before its operand. -/
  | not
  /-- The arrow, whose right operand is a name. -/
  | arrow
  /-- An operator between two values. -/
  | binary (op : BinaryOperator)
  deriving DecidableEq, Repr

/-- How tightly an operator binds. -/
def Operator.priority : Operator → Nat
  | not => 3
  | arrow => 7
  | binary op => op.priority

/-- The spellings of the operators. Those of two characters come first. -/
def spellings : List (List Char × Operator) := [
  (['=', '='], .binary .eq),
  (['!', '='], .binary .ne),
  (['<', '>'], .binary .ne),
  (['<', '='], .binary .le),
  (['>', '='], .binary .ge),
  (['&', '&'], .binary .and),
  (['|', '|'], .binary .or),
  (['^', '^'], .binary .xor),
  (['-', '>'], .arrow),
  (['<'], .binary .lt),
  (['>'], .binary .gt),
  (['&'], .binary .bitAnd),
  (['|'], .binary .bitOr),
  (['^'], .binary .bitXor),
  (['!'], .not),
  (['.'], .binary .concat),
  (['+'], .binary .add),
  (['-'], .binary .sub),
  (['*'], .binary .mul),
  (['/'], .binary .div)]

/-- The operator that a text begins with by the first fitting of some spellings, and the text after
it. -/
def firstOperator? (cs : List Char) : List (List Char × Operator) → Option (Operator × List Char)
  | [] => none
  | (spelling, op) :: more =>
    match Text.stripStart? spelling cs with
    | some rest => some (op, rest)
    | none => firstOperator? cs more

theorem length_of_firstOperator? {cs rest : List Char} {op : Operator}
    {table : List (List Char × Operator)} (ht : ∀ s ∈ table, s.1 ≠ [])
    (h : firstOperator? cs table = some (op, rest)) : rest.length < cs.length := by
  induction table with
  | nil => cases h
  | cons entry table ih =>
    obtain ⟨spelling, o⟩ := entry
    rw [firstOperator?] at h
    split at h
    · next r hr =>
      cases h
      have hpos : 0 < spelling.length := List.length_pos_iff.2 (ht _ List.mem_cons_self)
      rw [Text.stripStart?_eq_some_iff.1 hr, List.length_append]
      omega
    · exact ih (fun s hs => ht s (List.mem_cons_of_mem _ hs)) h

theorem spellings_ne_nil : ∀ s ∈ spellings, s.1 ≠ [] := by decide

/-- The operators that a run of operator characters spells, if it spells any. -/
def splitOperators? (run : List Char) : Option (List Operator) :=
  if run = [] then some []
  else
    match _h : firstOperator? run spellings with
    | none => none
    | some (op, rest) => (splitOperators? rest).map (op :: ·)
termination_by run.length
decreasing_by exact length_of_firstOperator? spellings_ne_nil _h

end MicroTemplate.Expression
