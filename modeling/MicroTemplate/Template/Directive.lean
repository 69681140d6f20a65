import MicroTemplate.Error
import MicroTemplate.Text.Search
import MicroTemplate.Text.Trim

/-!
# Directives

What the text between the brackets of a directive asks for. White space around it does not count,
nor does that before the colon after a keyword. What is none of the directives listed here is left
to the application.
-/

namespace MicroTemplate.Template

open Text

/-- A directive, with the texts of its expressions. -/
inductive Directive where
  /-- Shows the value of an expression. -/
  | output (expression : List Char)
  /-- Opens a section that is shown if a condition holds. -/
  | openConditional (condition : List Char)
  /-- Opens a section that is repeated while a condition holds. -/
  | openLoop (condition : List Char)
  /-- Opens a section that is repeated for each element of a value. -/
  | openIteration (header : List Char)
  /-- Turns to the other part of a section or ends one. -/
  | close (closer : Closer)
  /-- Binds a name. -/
  | assign (assignment : List Char)
  /-- Shows all variables. -/
  | listing
  /-- A directive of the application. -/
  | foreign
  deriving DecidableEq, Repr

/-- The directives that are a keyword alone. -/
def Directive.ofKeyword (keyword : List Char) : Directive :=
  match String.ofList keyword with
  | "ELSE" => .close .otherwise
  | "ENDIF" => .close .endConditional
  | "ENDWHILE" => .close .endLoop
  | "ENDFOREACH" => .close .endIteration
  | "LIST" => .listing
  | _ => .foreign

/-- The directives with something after a colon. -/
def Directive.ofArgument (keyword argument : List Char) : Directive :=
  match String.ofList keyword with
  | "IF" => .openConditional argument
  | "WHILE" => .openLoop argument
  | "FOREACH" => .openIteration argument
  | "SET" => .assign argument
  | _ => .foreign

/-- The directive that a body is. -/
def Directive.ofBody (body : List Char) : Directive :=
  match trim body with
  | '=' :: expression => .output expression
  | command =>
    match splitFirst? (· == ':') command with
    | some (keyword, argument) => ofArgument (trimEnd keyword) argument
    | none => ofKeyword command

/-- Whether a list begins with white space. -/
def startsWithSpace : List Char → Bool
  | [] => false
  | c :: _ => isSpace c

/-- The target and the source of an iteration: what stands before and after the first `IN` with
white space on both sides. `before` is what has been passed, the last character first. -/
def splitHeaderAfter (before : List Char) : List Char → Option (List Char × List Char)
  | 'I' :: 'N' :: rest =>
    if startsWithSpace before && startsWithSpace rest then some (before.reverse, rest)
    else splitHeaderAfter ('I' :: before) ('N' :: rest)
  | c :: rest => splitHeaderAfter (c :: before) rest
  | [] => none

/-- The target and the source of an iteration, if its header names both. -/
def splitHeader? (header : List Char) : Option (List Char × List Char) :=
  splitHeaderAfter [] header

end MicroTemplate.Template
