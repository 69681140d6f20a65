import MicroTemplate.Engine
import MicroTemplate.Text.Lines
import MicroTemplate.Text.Search
import MicroTemplate.Text.Trim

/-!
# Variables files

A variables file binds variables before a render, with one command on a line. A line that begins
with `/set` evaluates an expression over the variables so far and binds a name to its value; the
name ends at an equals sign or at white space. A line that begins with `/unset` removes a name.
All other lines are passed over: blank ones, comments behind a semicolon, other commands and plain
text. A line that fails is reported and changes nothing. A line whose expression stops the program
leaves nothing of the file.
-/

namespace MicroTemplate.VariablesFile

open Text

/-- What a line asks for, with the text after its command. -/
inductive Line where
  /-- Binds a name. -/
  | set (arguments : List Char)
  /-- Removes a name. -/
  | unset (arguments : List Char)
  /-- Nothing. -/
  | idle
  deriving DecidableEq, Repr

/-- What a line of the file asks for. White space at its ends does not count. -/
def Line.ofText (text : List Char) : Line :=
  match trim text with
  | '/' :: command =>
    let arguments := trim (command.dropWhile fun c => !isAsciiSpace c)
    match String.ofList (command.takeWhile fun c => !isAsciiSpace c) with
    | "set" => .set arguments
    | "unset" => .unset arguments
    | _ => .idle
  | _ => .idle

/-- Why a line has no effect. -/
inductive Fault where
  /-- Nothing after the command that binds. -/
  | nothingToSet
  /-- A name without an expression. -/
  | missingValue (arguments : String)
  /-- Something that cannot be a name. -/
  | invalidName (name : String)
  /-- The expression could not be evaluated. -/
  | unevaluated (error : Error)
  /-- Nothing after the command that removes. -/
  | nothingToUnset

/-- The message of a fault. -/
def Fault.message : Fault → String
  | nothingToSet => "/set: requires an argument"
  | missingValue arguments => "/set: missing value for '" ++ arguments ++ "'"
  | invalidName name => "/set: invalid variable name '" ++ name ++ "'"
  | unevaluated error => error.message
  | nothingToUnset => "/unset: requires a variable name"

/-- Why the program is stopped, if a fault stands for that. -/
def Fault.abort? : Fault → Option Abort
  | unevaluated error => error.abort?
  | _ => none

/-- Whether a character ends the name that is bound. -/
def endsName (c : Char) : Bool := c == '=' || isAsciiSpace c

/-- A text without white space and then one equals sign at its beginning. -/
def dropAssignment (text : List Char) : List Char :=
  match trimStart text with
  | '=' :: rest => rest
  | rest => rest

/-- The name and the expression of a line that binds. -/
def splitAssignment (arguments : List Char) : Except Fault (List Char × List Char) :=
  if arguments.isEmpty then .error .nothingToSet
  else
    let name := arguments.takeWhile fun c => !endsName c
    match arguments.dropWhile fun c => !endsName c with
    | [] => .error (.missingValue (.ofList arguments))
    | rest =>
      if Expression.isName name then .ok (name, dropAssignment rest)
      else .error (.invalidName (.ofList name))

/-- Why a line was passed over, and the number of that line. -/
structure Report where
  /-- The number of the line, from one on. -/
  line : Nat
  /-- What is wrong with it. -/
  fault : Fault

/-- A report in words. -/
def Report.text (r : Report) : String :=
  "line " ++ Number.decimal r.line ++ ": " ++ r.fault.message

/-- What a variables file leads to. -/
structure Loaded (α : Type) where
  /-- The variables. -/
  env : Environment α
  /-- The lines that failed, in order. -/
  reports : List Report

/-- What is loaded behind a line that failed. -/
def Loaded.behind {α : Type} (r : Report) (loaded : Loaded α) : Loaded α :=
  { loaded with reports := r :: loaded.reports }

variable {α : Type} [HostObject α]

/-- The variables after a line. -/
def Line.apply (engine : Engine α) (env : Environment α) : Line → Except Fault (Environment α)
  | .set arguments => do
    let (name, expression) ← splitAssignment arguments
    let value ← (engine.evaluate env (.ofList expression)).mapError .unevaluated
    return env.set (.ofList name) value
  | .unset arguments =>
    if arguments.isEmpty then .error .nothingToUnset else .ok (env.unset (.ofList arguments))
  | .idle => .ok env

/-- Takes lines one after the other; `number` is that of the first of them. -/
def loadLines (engine : Engine α) (number : Nat) (env : Environment α) :
    List (List Char) → Except Abort (Loaded α)
  | [] => .ok ⟨env, []⟩
  | line :: rest =>
    match (Line.ofText line).apply engine env with
    | .ok env => loadLines engine (number + 1) env rest
    | .error fault =>
      match fault.abort? with
      | some reason => .error reason
      | none => (loadLines engine (number + 1) env rest).map (.behind ⟨number, fault⟩)

/-- The variables that a file binds, and its lines that failed. -/
def load (engine : Engine α) (text : String) : Except Abort (Loaded α) :=
  loadLines engine 1 .empty (lines text.toList)

end MicroTemplate.VariablesFile
