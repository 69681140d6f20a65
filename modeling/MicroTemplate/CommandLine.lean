import MicroTemplate.Number.Integer
import MicroTemplate.Text.Search

/-!
# Command lines

The words of a command line say where the template and the variables come from and where the text
goes. Several options can share a word. An option that takes an argument finds it in the rest of its
word; only if nothing is left there it is the next word. After two hyphens no word is an option.
-/

namespace MicroTemplate.CommandLine

/-- Which variables file is loaded. -/
inductive VariablesSource where
  /-- The first of the usual places where there is one. -/
  | search
  /-- None. -/
  | skip
  /-- The one with that path. -/
  | file (path : String)
  deriving DecidableEq, Repr

/-- Where the template is read from. -/
inductive TemplateSource where
  /-- The standard input. -/
  | standardInput
  /-- The file with that path. -/
  | file (path : String)
  deriving DecidableEq, Repr

/-- What a command line asks for. -/
structure Arguments where
  /-- The variables file. -/
  variablesFile : VariablesSource
  /-- Names with the expressions whose values they are bound to, in order. -/
  defines : List (String × String)
  /-- The file that the text is written to, if it is not the standard output. -/
  output : Option String
  /-- Whether a log of the run is asked for. -/
  debug : Bool
  /-- The template. -/
  template : TemplateSource
  deriving DecidableEq, Repr

/-- What is wrong with a command line. -/
inductive Fault where
  /-- An option that defines a name is the last word. -/
  | missingDefinition
  /-- A definition without an equals sign. -/
  | definitionWithoutValue (definition : String)
  /-- A definition that begins with its equals sign. -/
  | definitionWithoutName (definition : String)
  /-- An option that names the output is the last word. -/
  | missingOutput
  /-- A letter that is no option. -/
  | unknownOption (letter : Char)
  /-- More than one template. -/
  | tooManyTemplates (count : Nat)
  deriving DecidableEq, Repr

/-- The message of a fault. -/
def Fault.message : Fault → String
  | missingDefinition => "-D requires a name=expr argument"
  | definitionWithoutValue definition => "-D" ++ definition ++ ": expected name=expr"
  | definitionWithoutName definition =>
    "-D" ++ definition ++ ": variable name cannot be empty"
  | missingOutput => "-o requires a file argument"
  | unknownOption letter => "unknown option: -" ++ String.singleton letter
  | tooManyTemplates count => "too many arguments (" ++ Number.decimal count ++ ")"

/-- How to write a command line, in one line. -/
def usage : String :=
  "Usage: atpl [-f[<vars>]] [-D<name>=<expr>]... [-o<out>] [-d] [<template>|-]"

/-- The options of a command line so far, and its words that are no options. -/
structure Draft where
  /-- What the options ask for. -/
  options : Arguments
  /-- The other words, in order. -/
  others : List String

/-- The command line without words. -/
def Draft.start : Draft := ⟨⟨.search, [], none, false, .standardInput⟩, []⟩

/-- The name and the expression of a definition. -/
def splitDefinition (definition : List Char) : Except Fault (String × String) :=
  match Text.splitFirst? (· == '=') definition with
  | none => .error (.definitionWithoutValue (.ofList definition))
  | some ([], _) => .error (.definitionWithoutName (.ofList definition))
  | some (name, expression) => .ok (.ofList name, .ofList expression)

namespace Draft

/-- The options with another variables file. -/
def withVariables (d : Draft) (source : VariablesSource) : Draft :=
  { d with options := { d.options with variablesFile := source } }

/-- The options with one more definition. -/
def define (d : Draft) (definition : List Char) : Except Fault Draft := do
  let definition ← splitDefinition definition
  return { d with options := { d.options with defines := d.options.defines ++ [definition] } }

/-- The options with another output. -/
def withOutput (d : Draft) (path : String) : Draft :=
  { d with options := { d.options with output := some path } }

/-- Takes the letters of a word of options; `following` are the words after it. The number is that
of the words taken from these. A word after a lone `f` is only taken for the variables file if yet
another word follows it, which may then name the template. -/
def takeLetters (d : Draft) (following : List String) :
    List Char → Except Fault (Draft × Nat)
  | [] => .ok (d, 0)
  | 'd' :: letters =>
    takeLetters { d with options := { d.options with debug := true } } following letters
  | ['f'] =>
    match following with
    | file :: _ :: _ =>
      if file.toList.head? = some '-' then .ok (d.withVariables .skip, 0)
      else .ok (d.withVariables (.file file), 1)
    | _ => .ok (d.withVariables .skip, 0)
  | 'f' :: file => .ok (d.withVariables (.file (.ofList file)), 0)
  | ['D'] =>
    match following with
    | definition :: _ => return (← d.define definition.toList, 1)
    | [] => .error .missingDefinition
  | 'D' :: definition => return (← d.define definition, 0)
  | ['o'] =>
    match following with
    | path :: _ => .ok (d.withOutput path, 1)
    | [] => .error .missingOutput
  | 'o' :: path => .ok (d.withOutput (.ofList path), 0)
  | letter :: _ => .error (.unknownOption letter)

/-- Takes words one after the other. A lone hyphen is no option. -/
def takeWords (d : Draft) : List String → Except Fault Draft
  | [] => .ok d
  | word :: words =>
    if word = "--" then .ok { d with others := d.others ++ words }
    else
      match word.toList with
      | '-' :: letter :: letters => do
        let (d, taken) ← d.takeLetters words (letter :: letters)
        d.takeWords (words.drop taken)
      | _ => takeWords { d with others := d.others ++ [word] } words
termination_by words => words.length
decreasing_by
  · simp only [List.length_drop, List.length_cons]
    omega
  · simp

/-- What the words ask for in the end: the one that is no option names the template, and a lone
hyphen stands for the standard input. -/
def finish (d : Draft) : Except Fault Arguments :=
  match d.others with
  | [] => .ok d.options
  | [path] =>
    .ok (if path = "-" then d.options else { d.options with template := .file path })
  | paths => .error (.tooManyTemplates paths.length)

end Draft

/-- What a command line asks for, given its words. -/
def Arguments.ofWords (words : List String) : Except Fault Arguments := do
  let draft ← Draft.start.takeWords words
  draft.finish

end MicroTemplate.CommandLine
