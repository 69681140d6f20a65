import MicroTemplate.Expression.Phrase
import MicroTemplate.Member.Method

/-!
# Evaluation

Tokens are evaluated from left to right with a stack of operands and a stack of operators. An
operator waits until one that binds no tighter comes after it; parentheses raise the priority of
what is inside them. A word that names a variable stays a name until an operator needs its value:
to the right of an arrow it is needed as a name.
-/

namespace MicroTemplate.Expression

open Number

/-- What an evaluation can ask of its surroundings. -/
structure Context (α : Type) where
  /-- The value of a variable, if it is bound. -/
  valueOf : String → Option (Value α)
  /-- Calls a function, which may give no value. -/
  call : String → List (Value α) → Except CallFault (Value α)
  /-- The fields and methods registered for types, if there is a register of them. -/
  types : Option (TypeRegistry α)

/-- An operand. -/
inductive Operand (α : Type) where
  /-- A value. -/
  | value (v : Value α)
  /-- A name whose value has not been needed yet. -/
  | name (text : String)

/-- An operator that waits for its right operand. -/
structure Pending where
  /-- The operator. -/
  op : Operator
  /-- How tightly it binds, parentheses considered. -/
  priority : Nat

/-- The priority that a pair of parentheses adds to what is inside. -/
def groupPriority : Nat := 20

/-- The most parentheses that can be open at once: what they add to a priority is counted in 32
bits. The addition is checked, as integer arithmetic is unless something else is asked for: where the
sum would overflow the program is stopped, and no group is counted from zero again. -/
def maxDepth : Nat := 4294967295 / groupPriority

/-- The state of an evaluation between two tokens. -/
structure Machine (α : Type) where
  /-- The operands, the last one first. -/
  operands : List (Operand α)
  /-- The waiting operators, the last one first. -/
  operators : List Pending
  /-- The number of open parentheses. -/
  depth : Nat
  /-- Whether an operand has to come next, and not an operator. -/
  expectOperand : Bool

variable {α : Type}

/-- The state before the first token. -/
def Machine.start : Machine α := ⟨[], [], 0, true⟩

/-- What a word stands for: an integer, a truth value, null, or a name. -/
def Operand.ofWord (word : List Char) : Except Cause (Operand α) :=
  if isDigits word then
    match read? word with
    | some n => .ok (.value (.int n))
    | none => .error (.badNumber (.ofList word))
  else
    match String.ofList word with
    | "true" => .ok (.value (.bool true))
    | "false" => .ok (.value (.bool false))
    | "null" => .ok (.value .null)
    | text => .ok (.name text)

/-- The value of an operand. A variable that is not bound is empty. -/
def Operand.resolve (ctx : Context α) : Operand α → Value α
  | .value v => v
  | .name text => (ctx.valueOf text).getD .empty

/-- The name that an operand is to the right of an arrow. -/
def Operand.spelling [HostObject α] : Operand α → String
  | .value v => v.write
  | .name text => text

section Operations

variable [HostObject α]

/-- Applies an operator to the last operands. -/
def applyOperator (ctx : Context α) (op : Operator) (operands : List (Operand α)) :
    Except Cause (List (Operand α)) :=
  match op, operands with
  | .not, a :: rest => .ok (.value (.bool (!(a.resolve ctx).truth)) :: rest)
  | .arrow, b :: a :: rest =>
    .ok (.value ((a.resolve ctx).property ctx.types b.spelling) :: rest)
  | .binary op, b :: a :: rest => do
    let v ← op.apply (a.resolve ctx) (b.resolve ctx)
    return .value v :: rest
  | _, _ => .error .stackUnderflow

/-- Whether a waiting operator is applied before one of the given priority. -/
def Pending.yields (p : Pending) (priority : Nat) : Bool :=
  priority < p.priority || (p.priority == priority && p.op != .not)

/-- Applies the waiting operators that come before one of the given priority. -/
def unwind (ctx : Context α) (priority : Nat) :
    List Pending → List (Operand α) → Except Cause (List Pending × List (Operand α))
  | [], operands => .ok ([], operands)
  | p :: rest, operands =>
    if p.yields priority then do
      let operands ← applyOperator ctx p.op operands
      unwind ctx priority rest operands
    else .ok (p :: rest, operands)

/-- Applies all waiting operators. -/
def drain (ctx : Context α) : List Pending → List (Operand α) → Except Cause (List (Operand α))
  | [], operands => .ok operands
  | p :: rest, operands => do
    let operands ← applyOperator ctx p.op operands
    drain ctx rest operands

namespace Machine

/-- Takes an opening parenthesis. -/
def openGroup (m : Machine α) : Except Cause (Machine α) :=
  if m.expectOperand then
    if m.depth < maxDepth then .ok { m with depth := m.depth + 1 } else .error (.aborted .depth)
  else .error (.missingOperator "(")

/-- Takes a closing parenthesis. The operators inside keep their priority and wait on. -/
def closeGroup (m : Machine α) : Except Cause (Machine α) :=
  match m.depth with
  | 0 => .error .unmatchedParen
  | depth + 1 => if m.expectOperand then .error .missingOperand else .ok { m with depth := depth }

/-- Takes an operand, written `text`. -/
def pushOperand (m : Machine α) (text : List Char) (operand : Except Cause (Operand α)) :
    Except Cause (Machine α) :=
  if m.expectOperand then do
    let operand ← operand
    return { m with operands := operand :: m.operands, expectOperand := false }
  else .error (.missingOperator (.ofList text))

/-- Takes an operator. -/
def pushOperator (ctx : Context α) (m : Machine α) (op : Operator) : Except Cause (Machine α) :=
  let priority := op.priority + groupPriority * m.depth
  if op = .not then
    if m.expectOperand then .ok { m with operators := ⟨op, priority⟩ :: m.operators }
    else .error (.missingOperator "!")
  else if m.expectOperand then .error .missingOperand
  else do
    let (operators, operands) ← unwind ctx priority m.operators m.operands
    return { m with
      operands := operands, operators := ⟨op, priority⟩ :: operators, expectOperand := true }

/-- Takes a call whose arguments have been evaluated. Right after an arrow of the same group it is
a method of what stands before the arrow. -/
def call (ctx : Context α) (m : Machine α) (name : String) (args : List (Value α)) :
    Except Cause (Machine α) :=
  let finish (operands : List (Operand α)) (operators : List Pending)
      (result : Except CallFault (Value α)) : Except Cause (Machine α) :=
    match result with
    | .ok v =>
      .ok { m with
        operands := .value v :: operands, operators := operators, expectOperand := false }
    | .error fault => .error (fault.cause name)
  match m.operators with
  | p :: operators =>
    if p.op = .arrow ∧ p.priority = Operator.arrow.priority + groupPriority * m.depth then
      match m.operands with
      | a :: operands =>
        finish operands operators
          (((a.resolve ctx).call ctx.types name args).mapError .refused)
      | [] => .error .stackUnderflow
    else finish m.operands m.operators (ctx.call name args)
  | [] => finish m.operands m.operators (ctx.call name args)

/-- The value at the end of the tokens. Without any tokens it is empty. -/
def finish (ctx : Context α) (m : Machine α) : Except Cause (Value α) :=
  if m.depth ≠ 0 then .error .unmatchedParen
  else if m.operands.isEmpty && m.operators.isEmpty then .ok .empty
  else if m.expectOperand then .error .missingOperand
  else do
    match ← drain ctx m.operators m.operands with
    | a :: _ => return a.resolve ctx
    | [] => .error .stackUnderflow

end Machine

mutual

/-- Evaluates an expression that has been read into tokens. -/
def Phrase.evaluate (ctx : Context α) : Phrase → Except Error (Value α)
  | .mk text tokens fault =>
    let result : Except Cause (Value α) := do
      let m ← feedAll ctx tokens .start
      match fault with
      | some f => .error f.cause
      | none => m.finish ctx
    result.mapError (.evaluation (.ofList text))

/-- Takes tokens one after the other. -/
def feedAll (ctx : Context α) : List Token → Machine α → Except Cause (Machine α)
  | [], m => .ok m
  | t :: ts, m => do
    let m ← feed ctx t m
    feedAll ctx ts m

/-- Takes one token. -/
def feed (ctx : Context α) : Token → Machine α → Except Cause (Machine α)
  | .openGroup, m => m.openGroup
  | .closeGroup, m => m.closeGroup
  | .word text, m => m.pushOperand text (Operand.ofWord text)
  | .quoted text, m =>
    m.pushOperand ('"' :: (text ++ ['"'])) (.ok (.value (.text (.ofList text))))
  | .operator op, m => m.pushOperator ctx op
  | .call name args, m =>
    if m.expectOperand then do
      let values ← evaluateAll ctx args
      m.call ctx (.ofList name) values
    else .error (.missingOperator (.ofList name))

/-- Evaluates the arguments of a call in order, up to the first that fails. -/
def evaluateAll (ctx : Context α) : List Phrase → Except Cause (List (Value α))
  | [] => .ok []
  | p :: ps => do
    let v ← (p.evaluate ctx).mapError .nested
    let vs ← evaluateAll ctx ps
    return v :: vs

end

/-- Evaluates an expression. -/
def evaluate (ctx : Context α) (text : List Char) : Except Error (Value α) :=
  (Phrase.read text).evaluate ctx

/-- The text form of the value of an expression. -/
def evaluateText (ctx : Context α) (text : List Char) : Except Error String :=
  (evaluate ctx text).map Value.write

/-- Whether the value of an expression counts as true. -/
def evaluateBool (ctx : Context α) (text : List Char) : Except Error Bool :=
  (evaluate ctx text).map Value.truth

/-- The integer that the value of an expression stands for. -/
def evaluateInt (ctx : Context α) (text : List Char) : Except Error Int64 := do
  let v ← evaluate ctx text
  v.toInt.mapError (.evaluation (.ofList text))

/-- The floating-point number that the value of an expression stands for. -/
def evaluateFloat (ctx : Context α) (text : List Char) : Except Error Float := do
  let v ← evaluate ctx text
  v.toFloat.mapError (.evaluation (.ofList text))

/-- The name that an expression gives: itself if it is one, its text form if not. -/
def evaluateName (ctx : Context α) (text : List Char) : Except Error String :=
  let name := Text.trim text
  if isName name then .ok (.ofList name) else evaluateText ctx name

end Operations

end MicroTemplate.Expression
