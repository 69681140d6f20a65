import MicroTemplate.CommandLine
import MicroTemplate.Program.Platform
import MicroTemplate.Template.Render
import MicroTemplate.VariablesFile

/-!
# Runs of the program

The program binds variables, first those of a variables file and then those that the command line
defines, renders the template with them and hands the text over. Nothing is handed over before all
of this has gone well. What it writes to the standard output and to the standard error is the
report of the run.
-/

namespace MicroTemplate.Program

open Calendar CommandLine

/-- Why a run has no result. -/
inductive Failure where
  /-- The words of the command line cannot be understood. -/
  | usage (fault : CommandLine.Fault)
  /-- A file cannot be read. -/
  | reading (path : String) (fault : FileFault)
  /-- The standard input cannot be read. -/
  | input (fault : FileFault)
  /-- A definition of the command line cannot be evaluated. -/
  | definition (name : String) (error : Error)
  /-- The template cannot be rendered. -/
  | rendering (error : Error)
  /-- The file for the text cannot be written. -/
  | writing (path : String) (fault : FileFault)
  /-- The program is stopped during an evaluation. Of what the system has to say to that, the
  reason is all that is shown. -/
  | aborted (reason : Abort)

/-- An evaluation that failed as the failure of a run. -/
def Failure.ofError (failure : Error → Failure) (error : Error) : Failure :=
  match error.abort? with
  | some reason => .aborted reason
  | none => failure error

/-- The message of a failure. -/
def Failure.message : Failure → String
  | usage fault => fault.message ++ "\n" ++ CommandLine.usage
  | reading path fault => "cannot read " ++ path ++ ": " ++ fault.message
  | input fault => "cannot read stdin: " ++ fault.message
  | definition name error => "-D" ++ name ++ ": " ++ error.message
  | rendering error => error.message
  | writing path fault => "cannot write " ++ path ++ ": " ++ fault.message
  | aborted reason => reason.message

/-- The exit status that a failure leads to. -/
def Failure.status : Failure → Nat
  | aborted _ => 101
  | _ => 1

/-- What a run shows. -/
structure Report where
  /-- The exit status. -/
  status : Nat
  /-- What goes to the standard output. -/
  output : String
  /-- What goes to the standard error. -/
  messages : String

/-- A line for the standard error. -/
def messageLine (text : String) : String := "atpl: " ++ text ++ "\n"

/-- The report of a run that went well. -/
def Report.succeeded (warnings output : String) : Report := ⟨0, output, warnings⟩

/-- The report of a run that failed. -/
def Report.failed (warnings : String) (failure : Failure) : Report :=
  ⟨failure.status, "", warnings ++ messageLine failure.message⟩

/-- The engine of the program: the built-in functions and no registered members. -/
def engine (clock : DateTime) (capacity : Nat) : Engine Empty :=
  .of (.standard clock capacity) .empty

/-- The warnings about the lines of a variables file that failed. -/
def warnings (path : String) (reports : List VariablesFile.Report) : String :=
  String.join (reports.map fun r => messageLine ("warning: " ++ path ++ ": " ++ r.text))

/-- Binds what the command line defines, one after the other. -/
def defineAll {α : Type} [HostObject α] (engine : Engine α) (env : Environment α) :
    List (String × String) → Except Failure (Environment α)
  | [] => .ok env
  | (name, expression) :: rest => do
    let value ← (engine.evaluate env expression).mapError (.ofError (.definition name))
    defineAll engine (env.set name value) rest

section

variable {m : Type → Type} [Monad m]

/-- The engine of the program at the beginning of a stage. -/
def engineAt (p : Platform m) (stage : Stage) : m (Engine Empty) :=
  return engine (← p.now stage) p.capacity

/-- The path of the variables file, if there is one to be loaded. -/
def variablesPath (p : Platform m) : VariablesSource → m (Option String)
  | .skip => return none
  | .file path => return some path
  | .search => do
    let atHome := (← p.home) ++ "/.atplrc"
    if ← p.pathExists atHome then return some atHome
    let here := "./.atplrc"
    if ← p.pathExists here then return some here
    return none

/-- The variables of the variables file, and the warnings about its lines. -/
def loadVariables (p : Platform m) (engine : Engine Empty) (source : VariablesSource) :
    m (Except Failure (Environment Empty × String)) := do
  match ← variablesPath p source with
  | none => return .ok (.empty, "")
  | some path =>
    match ← p.readText path with
    | .error fault => return .error (.reading path fault)
    | .ok text =>
      match VariablesFile.load engine text with
      | .error reason => return .error (.aborted reason)
      | .ok loaded => return .ok (loaded.env, warnings path loaded.reports)

/-- The text of the template. -/
def readTemplate (p : Platform m) : TemplateSource → m (Except Failure String)
  | .standardInput => return (← p.readInputText).mapError .input
  | .file path => return (← p.readText path).mapError (.reading path)

/-- Hands the text over. The result is what goes to the standard output. -/
def deliver (p : Platform m) (text : String) : Option String → m (Except Failure String)
  | none => return .ok text
  | some path => return ((← p.writeFile path text).mapError (.writing path)).map fun _ => ""

/-- Renders the template that a command line asks for, in at most `fuel` steps. There is no report
if the render does not end within them. -/
def perform (p : Platform m) (fuel : Nat) (args : Arguments) : m (Option Report) := do
  match ← loadVariables p (← engineAt p .variablesFile) args.variablesFile with
  | .error failure => return some (.failed "" failure)
  | .ok (env, warnings) =>
    match defineAll (← engineAt p .definitions) env args.defines with
    | .error failure => return some (.failed warnings failure)
    | .ok env =>
      match ← readTemplate p args.template with
      | .error failure => return some (.failed warnings failure)
      | .ok template =>
        match (← engineAt p .template).render fuel template env with
        | none => return none
        | some outcome =>
          match outcome.result with
          | .error error => return some (.failed warnings (.ofError .rendering error))
          | .ok text =>
            match ← deliver p text args.output with
            | .error failure => return some (.failed warnings failure)
            | .ok output => return some (.succeeded warnings output)

/-- Runs the program with the words of a command line. -/
def run (p : Platform m) (fuel : Nat) (words : List String) : m (Option Report) :=
  match Arguments.ofWords words with
  | .error fault => return some (.failed "" (.usage fault))
  | .ok args => perform p fuel args

end

end MicroTemplate.Program
