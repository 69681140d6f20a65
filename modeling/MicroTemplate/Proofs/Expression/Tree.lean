import Mathlib
import MicroTemplate.Expression.Machine

/-!
# Expression trees

The meaning of an expression, said by its structure. A tree is a word, a quoted text, a call, a
group, or an operator with the trees of its operands; a reading is the tree of a text, or says that
the text is blank. `tokens` writes a tree down, `Placed` says that it stands as the priorities of
the operators want it, and `value` computes it from its parts, from left to right and the operands
before the operator. The two stacks of an evaluation do not occur here.
-/

namespace MicroTemplate.Expression

open Number

mutual

/-- The structure of an expression that is not blank. -/
inductive Tree where
  /-- A word. -/
  | word (text : List Char)
  /-- A text between quotation marks. -/
  | quoted (text : List Char)
  /-- A function with the readings of its arguments. -/
  | call (name : List Char) (args : List Reading)
  /-- What stands between parentheses. -/
  | group (inner : Tree)
  /-- The negation of what stands to its right. -/
  | negation (operand : Tree)
  /-- An operator between two operands. -/
  | binary (op : BinaryOperator) (left right : Tree)
  /-- An arrow whose right operand is no call of the same group. -/
  | member (left right : Tree)
  /-- An arrow with a call directly to its right. -/
  | method (left : Tree) (name : List Char) (args : List Reading)

/-- How a whole text is read. -/
inductive Reading where
  /-- There is nothing but white space. -/
  | blank (text : List Char)
  /-- The text has a tree. -/
  | tree (text : List Char) (root : Tree)

end

mutual

/-- The tokens of a tree, in the order in which they are written. -/
def Tree.tokens : Tree → List Token
  | .word text => [.word text]
  | .quoted text => [.quoted text]
  | .call name args => [.call name (phrasesOf args)]
  | .group inner => .openGroup :: (inner.tokens ++ [.closeGroup])
  | .negation operand => .operator .not :: operand.tokens
  | .binary op left right => left.tokens ++ .operator (.binary op) :: right.tokens
  | .member left right => left.tokens ++ .operator .arrow :: right.tokens
  | .method left name args => left.tokens ++ [.operator .arrow, .call name (phrasesOf args)]

/-- A reading as a text with its tokens. -/
def Reading.phrase : Reading → Phrase
  | .blank text => .mk text [] none
  | .tree text root => .mk text root.tokens none

/-- The readings of arguments as texts with their tokens. -/
def phrasesOf : List Reading → List Phrase
  | [] => []
  | r :: rs => r.phrase :: phrasesOf rs

end

/-- Whether a tree may stand directly left of an operator of some priority: every operator that is
still open at its right end binds at least as tightly, a negation tighter. -/
def Tree.StandsBefore (priority : Nat) : Tree → Prop
  | .negation operand => priority < Operator.not.priority ∧ operand.StandsBefore priority
  | .binary op _ right => priority ≤ op.priority ∧ right.StandsBefore priority
  | .member _ right => priority ≤ Operator.arrow.priority ∧ right.StandsBefore priority
  | _ => True

/-- Whether a tree may stand directly right of an operator of some priority: it is a single operand,
or its operator binds tighter. A call right of an arrow is a method, not an operand. -/
def Tree.StandsAfter (priority : Nat) : Tree → Prop
  | .call _ _ => priority ≠ Operator.arrow.priority
  | .binary op _ _ => priority < op.priority
  | .member _ _ | .method _ _ _ => priority < Operator.arrow.priority
  | _ => True

/-- The most groups of a tree that stand inside one another, not counting those in arguments. -/
def Tree.nesting : Tree → Nat
  | .group inner => inner.nesting + 1
  | .negation operand => operand.nesting
  | .binary _ left right | .member left right => max left.nesting right.nesting
  | .method left _ _ => left.nesting
  | _ => 0

mutual

/-- Whether every operator of a tree, those in arguments included, has the operands that the
priorities give it. Operators of one priority group to the left. -/
def Tree.Placed : Tree → Prop
  | .word _ | .quoted _ => True
  | .call _ args => AllPlaced args
  | .group inner => inner.Placed
  | .negation operand => operand.Placed ∧ operand.StandsAfter Operator.not.priority
  | .binary op left right =>
    left.Placed ∧ right.Placed ∧ left.StandsBefore op.priority ∧ right.StandsAfter op.priority
  | .member left right =>
    left.Placed ∧ right.Placed ∧
      left.StandsBefore Operator.arrow.priority ∧ right.StandsAfter Operator.arrow.priority
  | .method left _ args =>
    left.Placed ∧ AllPlaced args ∧ left.StandsBefore Operator.arrow.priority

/-- Whether the tree of a reading is well placed, and its groups can be open at once. -/
def Reading.Placed : Reading → Prop
  | .blank _ => True
  | .tree _ root => root.Placed ∧ root.nesting ≤ maxDepth

/-- Whether all readings are well placed. -/
def AllPlaced : List Reading → Prop
  | [] => True
  | r :: rs => r.Placed ∧ AllPlaced rs

end

/-- Whether a text is read in a certain way: the reading has the tokens that the text is cut into,
all of them, is well placed, and nests no more groups than can be counted. -/
def Reads (text : List Char) (r : Reading) : Prop := r.phrase = Phrase.read text ∧ r.Placed

/-- The name that a word stands for; digits, truth values and null stand for themselves. -/
def wordName? (word : List Char) : Option String :=
  if isDigits word then none
  else
    match String.ofList word with
    | "true" => none
    | "false" => none
    | "null" => none
    | name => some name

/-- The name that a tree spells: that of a word, with or without parentheses around it. -/
def Tree.name? : Tree → Option String
  | .word text => wordName? text
  | .group inner => inner.name?
  | _ => none

variable {α : Type}

/-- The value of a word. A variable that is not bound is empty. -/
def wordValue (ctx : Context α) (word : List Char) : Except Cause (Value α) :=
  if isDigits word then
    match read? word with
    | some n => .ok (.int n)
    | none => .error (.badNumber (.ofList word))
  else
    match String.ofList word with
    | "true" => .ok (.bool true)
    | "false" => .ok (.bool false)
    | "null" => .ok .null
    | name => .ok ((ctx.valueOf name).getD .empty)

variable [HostObject α]

mutual

/-- The value of a tree: its parts from left to right, then what is done with them. -/
def Tree.value (ctx : Context α) : Tree → Except Cause (Value α)
  | .word text => wordValue ctx text
  | .quoted text => .ok (.text (.ofList text))
  | .call name args => do
    let values ← argumentValues ctx args
    (ctx.call (.ofList name) values).mapError (CallFault.cause (.ofList name))
  | .group inner => inner.value ctx
  | .negation operand => do
    let v ← operand.value ctx
    return .bool (!v.truth)
  | .binary op left right => do
    let v ← left.value ctx
    let w ← right.value ctx
    op.apply v w
  | .member left right => do
    let v ← left.value ctx
    match right.name? with
    | some name => return v.property ctx.types name
    | none =>
      let w ← right.value ctx
      return v.property ctx.types w.write
  | .method left name args => do
    let v ← left.value ctx
    let values ← argumentValues ctx args
    (v.call ctx.types (.ofList name) values).mapError (.function (.ofList name))

/-- The value of a text by its reading. A failure carries the text. -/
def Reading.value (ctx : Context α) : Reading → Except Error (Value α)
  | .blank _ => .ok .empty
  | .tree text root => (root.value ctx).mapError (.evaluation (.ofList text))

/-- The values of arguments in order, up to the first that fails. -/
def argumentValues (ctx : Context α) : List Reading → Except Cause (List (Value α))
  | [] => .ok []
  | r :: rs => do
    let v ← (r.value ctx).mapError .nested
    let vs ← argumentValues ctx rs
    return v :: vs

end

end MicroTemplate.Expression
