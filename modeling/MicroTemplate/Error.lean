import MicroTemplate.Value.Basic

/-!
# Errors

Why an expression could not be evaluated and why a render stopped. Each error is a cause with the
data that its message needs; the wording is in the `message` functions alone.

Some evaluations do not come to an error: the program is stopped in the middle of them. They are
said here by errors too, whose innermost cause is `aborted`, so that what comes after them is left
out in one way; `abort?` tells them from the errors that are reported.
-/

namespace MicroTemplate

/-- Failures of integer arithmetic. -/
inductive ArithmeticFault where
  | divisionByZero
  | overflow
  deriving DecidableEq, Repr

/-- The message of an arithmetic failure. -/
def ArithmeticFault.message : ArithmeticFault → String
  | divisionByZero => "division by zero"
  | overflow => "integer overflow"

/-- Why the program is stopped in the middle of an evaluation. -/
inductive Abort where
  /-- More groups are open at once than their priorities can be counted for in 32 bits. -/
  | depth
  /-- A list is asked for that is longer than there is room for. -/
  | room
  deriving DecidableEq, Repr

/-- What the program says when it is stopped. -/
def Abort.message : Abort → String
  | depth => "attempt to add with overflow"
  | room => "capacity overflow"

/-- The blocks that directives open and close. -/
inductive Block where
  /-- A section that is shown or not. -/
  | conditional
  /-- A section repeated while a condition holds. -/
  | loop
  /-- A section repeated for each element of a value. -/
  | iteration
  deriving DecidableEq, Repr

/-- The keyword that opens a block. -/
def Block.keyword : Block → String
  | conditional => "IF"
  | loop => "WHILE"
  | iteration => "FOREACH"

/-- The directives that stand inside or at the end of an open block. -/
inductive Closer where
  /-- Turns to the other part of a conditional section. -/
  | otherwise
  /-- Ends a conditional section. -/
  | endConditional
  /-- Ends a loop. -/
  | endLoop
  /-- Ends an iteration. -/
  | endIteration
  deriving DecidableEq, Repr

/-- The keyword of a closer. -/
def Closer.keyword : Closer → String
  | otherwise => "ELSE"
  | endConditional => "ENDIF"
  | endLoop => "ENDWHILE"
  | endIteration => "ENDFOREACH"

/-- The block that has to be open for a closer. -/
def Closer.block : Closer → Block
  | otherwise => .conditional
  | endConditional => .conditional
  | endLoop => .loop
  | endIteration => .iteration

/-- How the directives of a template do not fit together. -/
inductive StructuralFault where
  /-- A closer whose block is not the innermost open one. -/
  | unexpectedCloser (closer : Closer)
  /-- The text ends inside a block. -/
  | unclosed (block : Block)
  /-- The text ends inside a directive. -/
  | unterminatedDirective
  deriving DecidableEq, Repr

/-- The message of a structural fault. -/
def StructuralFault.message : StructuralFault → String
  | unexpectedCloser closer =>
    "`" ++ closer.keyword ++ "` without an open " ++ closer.block.keyword ++ " block"
  | unclosed block => block.keyword ++ " block is never closed"
  | unterminatedDirective => "directive is missing its closing `]`"

mutual

/-- Why an evaluation or a render failed. -/
inductive Error where
  /-- An expression could not be evaluated. -/
  | evaluation (expression : String) (cause : Cause)
  /-- A render was started while another one of the same engine was going on. -/
  | reentrant
  /-- The directives do not fit together; the offset is in bytes. -/
  | structural (offset : Nat) (fault : StructuralFault)
  /-- The hook failed at a directive. -/
  | hook (directive message : String)

/-- Why an expression could not be evaluated. -/
inductive Cause where
  /-- Digits that denote no 64-bit integer. -/
  | badNumber (literal : String)
  /-- A parenthesis without its partner. -/
  | unmatchedParen
  /-- A quotation mark without its partner. -/
  | unterminatedString
  /-- Operator characters that do not spell operators. -/
  | unknownOperator (run : String)
  /-- Nothing where an operand has to stand. -/
  | missingOperand
  /-- Something else where an operator has to stand. -/
  | missingOperator (before : String)
  /-- An operator without its operands. -/
  | stackUnderflow
  /-- A value that has no counterpart of the kind asked for. -/
  | cast (source target : Kind)
  /-- A failure of integer arithmetic. -/
  | arithmetic (fault : ArithmeticFault)
  /-- A function or method failed. -/
  | function (name message : String)
  /-- The evaluation of an argument failed. -/
  | nested (inner : Error)
  /-- The program is stopped, and nothing is reported. -/
  | aborted (reason : Abort)

end

/-- Why the call of a function gives no value. -/
inductive CallFault where
  /-- The function failed with a message. -/
  | refused (message : String)
  /-- The program is stopped during the call. -/
  | aborted (reason : Abort)

/-- A call without a value as the cause of a failed evaluation. -/
def CallFault.cause (name : String) : CallFault → Cause
  | refused message => .function name message
  | aborted reason => .aborted reason

mutual

/-- The message of an error. -/
def Error.message : Error → String
  | .evaluation expression cause =>
    "cannot evaluate `" ++ expression ++ "`: " ++ cause.message
  | .reentrant => "a render is already in progress on this engine"
  | .structural offset fault => fault.message ++ " (offset " ++ Number.decimal offset ++ ")"
  | .hook directive message => "directive `" ++ directive ++ "` failed: " ++ message

/-- The message of a cause. -/
def Cause.message : Cause → String
  | .badNumber literal => "invalid integer literal `" ++ literal ++ "`"
  | .unmatchedParen => "unmatched parenthesis"
  | .unterminatedString => "unterminated string literal"
  | .unknownOperator run => "unknown operator `" ++ run ++ "`"
  | .missingOperand => "expected an operand"
  | .missingOperator before => "expected an operator before `" ++ before ++ "`"
  | .stackUnderflow => "operand stack underflow"
  | .cast source target => "cannot convert " ++ source.name ++ " to " ++ target.name
  | .arithmetic fault => fault.message
  | .function name message => name ++ ": " ++ message
  | .nested inner => inner.message
  | .aborted reason => reason.message

end

mutual

/-- The messages of what lies behind an error, from the outside in. A failed argument is shown in
place of the cause that wraps it. -/
def Error.sources : Error → List String
  | .evaluation _ cause => cause.message :: cause.sources
  | _ => []

/-- The messages of what lies behind a cause. -/
def Cause.sources : Cause → List String
  | .nested inner => inner.sources
  | _ => []

end

mutual

/-- Whether an error is in the end a failure of integer arithmetic. -/
def Error.isArithmetic : Error → Bool
  | .evaluation _ cause => cause.isArithmetic
  | _ => false

/-- Whether a cause is in the end a failure of integer arithmetic. -/
def Cause.isArithmetic : Cause → Bool
  | .arithmetic _ => true
  | .nested inner => inner.isArithmetic
  | _ => false

end

mutual

/-- Why the program is stopped, if an error stands for that. -/
def Error.abort? : Error → Option Abort
  | .evaluation _ cause => cause.abort?
  | _ => none

/-- Why the program is stopped, if a cause stands for that. -/
def Cause.abort? : Cause → Option Abort
  | .nested inner => inner.abort?
  | .aborted reason => some reason
  | _ => none

end

/-- Whether the directives of a template do not fit together. -/
def Error.isStructural : Error → Bool
  | .structural _ _ => true
  | _ => false

end MicroTemplate
