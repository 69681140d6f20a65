import MicroTemplate.Engine
import MicroTemplate.Template.Directive
import MicroTemplate.Template.Segment

/-!
# Rendering

A template is rendered segment by segment. Open blocks are kept on a stack, and one mark says
whether text is shown and directives take effect; a block whose content is not wanted is passed over
with the mark off. A loop goes back to the segments after its opening directive. A step is a
function of the state, and `run` repeats it as often as it is allowed to: a template can ask for a
loop without end.
-/

namespace MicroTemplate.Template

open Expression

/-- The application's answer to directives that are not the engine's own. It is given the engine,
which is rendering, the body of the directive, the offset just past it, the variables and its own
memory. It gives a text or fails with a message, and may change variables and memory either way. -/
structure Hook (α σ : Type) where
  /-- Answers a directive. -/
  handle : Engine α → String → Nat → Environment α → σ →
    Except String String × Environment α × σ

/-- The hook that answers every directive with nothing. -/
def Hook.silent {α : Type} : Hook α Unit := ⟨fun _ _ _ env memory => (.ok "", env, memory)⟩

/-- An open block. `active` says whether text was shown before it. -/
inductive Frame (α : Type) where
  /-- A conditional section. -/
  | conditional (active : Bool)
  /-- A loop, with the segments after its opening directive. -/
  | loop (resume : List Segment) (condition : List Char) (active : Bool)
  /-- An iteration, with the segments after its opening directive, the name that is bound and the
  elements that are still to come. -/
  | iteration (resume : List Segment) (name : String) (items : List (Value α)) (active : Bool)

/-- The kind of an open block. -/
def Frame.block {α : Type} : Frame α → Block
  | conditional _ => .conditional
  | loop _ _ _ => .loop
  | iteration _ _ _ _ => .iteration

/-- Whether text was shown before the block. -/
def Frame.active {α : Type} : Frame α → Bool
  | conditional active => active
  | loop _ _ active => active
  | iteration _ _ _ active => active

/-- Who is asked about directives. -/
inductive Mode where
  /-- The engine takes its own directives and the hook the others. -/
  | interpret
  /-- The hook takes all. -/
  | delegate
  deriving DecidableEq, Repr

/-- What stays the same during a render. -/
structure Setting (α σ : Type) where
  /-- The engine, which is marked as rendering. -/
  engine : Engine α
  /-- The application's answer to directives. -/
  hook : Hook α σ
  /-- Who is asked about directives. -/
  mode : Mode
  /-- The length of the template in bytes. -/
  size : Nat

/-- The state of a render between two segments. -/
structure State (α σ : Type) where
  /-- The segments that come next. -/
  rest : List Segment
  /-- The open blocks, the innermost first. -/
  frames : List (Frame α)
  /-- Whether text is shown and directives take effect. -/
  emitting : Bool
  /-- The text so far. -/
  output : String
  /-- The variables. -/
  env : Environment α
  /-- The memory of the hook. -/
  memory : σ

/-- What a step leads to. -/
inductive Progress (α σ : Type) where
  /-- Another state. -/
  | next (state : State α σ)
  /-- The end of the template. -/
  | done (state : State α σ)
  /-- A failure. -/
  | failed (error : Error) (state : State α σ)

/-- What a render leaves behind. -/
structure Outcome (α σ : Type) where
  /-- The text, or why there is none. -/
  result : Except Error String
  /-- The variables. -/
  env : Environment α
  /-- The memory of the hook. -/
  memory : σ
  /-- The engine. -/
  engine : Engine α

section

variable {α σ : Type}

namespace State

/-- The state with more text, if text is shown. -/
def emit (s : State α σ) (text : String) : State α σ :=
  if s.emitting then { s with output := s.output ++ text } else s

/-- The state with one more open block. -/
def push (s : State α σ) (frame : Frame α) : State α σ := { s with frames := frame :: s.frames }

end State

/-- A closer whose block is not open. -/
def unexpected (closer : Closer) (offset : Nat) : Error :=
  .structural offset (.unexpectedCloser closer)

end

namespace Setting

variable {α σ : Type} [HostObject α]

/-- What expressions see in a state. -/
def context (r : Setting α σ) (s : State α σ) : Context α := r.engine.context s.env

/-- Asks the hook about a directive, if directives take effect. -/
def external (r : Setting α σ) (body : List Char) (stop : Nat) (s : State α σ) : Progress α σ :=
  if s.emitting then
    match r.hook.handle r.engine (.ofList body) stop s.env s.memory with
    | (.ok text, env, memory) =>
      .next { s with output := s.output ++ text, env := env, memory := memory }
    | (.error message, env, memory) =>
      .failed (.hook (.ofList body) message) { s with env := env, memory := memory }
  else .next s

/-- Shows the value of an expression. -/
def output (r : Setting α σ) (expression : List Char) (s : State α σ) :
    Except Error (State α σ) :=
  if s.emitting then do
    let text ← evaluateText (r.context s) expression
    return { s with output := s.output ++ text }
  else .ok s

/-- Opens a conditional section. -/
def openConditional (r : Setting α σ) (condition : List Char) (s : State α σ) :
    Except Error (State α σ) :=
  let t := s.push (.conditional s.emitting)
  if s.emitting then do
    let holds ← evaluateBool (r.context s) condition
    return { t with emitting := holds }
  else .ok t

/-- Opens a loop. -/
def openLoop (r : Setting α σ) (condition : List Char) (s : State α σ) :
    Except Error (State α σ) :=
  let t := s.push (.loop s.rest condition s.emitting)
  if s.emitting then do
    let holds ← evaluateBool (r.context s) condition
    return { t with emitting := holds }
  else .ok t

/-- Opens an iteration. The source is evaluated before the name, and the first element is bound
right away. A header that does not name both, or a source without elements, makes the section pass
by. -/
def openIteration (r : Setting α σ) (header : List Char) (s : State α σ) :
    Except Error (State α σ) :=
  let skipped (name : String) : State α σ :=
    { s.push (.iteration s.rest name [] s.emitting) with emitting := false }
  if s.emitting then
    match splitHeader? header with
    | none => .ok (skipped "")
    | some (target, source) => do
      let value ← evaluate (r.context s) source
      let name ← evaluateName (r.context s) target
      match value.elements?.getD [] with
      | [] => return skipped name
      | first :: items =>
        return { s.push (.iteration s.rest name items s.emitting) with
          env := s.env.set name first }
  else .ok (skipped "")

/-- Binds a name to the value of an expression, which is evaluated before the name. Without an
equals sign nothing happens. -/
def assign (r : Setting α σ) (assignment : List Char) (s : State α σ) :
    Except Error (State α σ) :=
  if s.emitting then
    match Text.splitFirst? (· == '=') assignment with
    | none => .ok s
    | some (target, expression) => do
      let value ← evaluate (r.context s) expression
      let name ← evaluateName (r.context s) target
      return { s with env := s.env.set name value }
  else .ok s

/-- Ends a loop, or goes back to its beginning if its condition still holds. -/
def endLoop (r : Setting α σ) (resume : List Segment) (condition : List Char) (active : Bool)
    (frames : List (Frame α)) (s : State α σ) : Except Error (State α σ) := do
  let again ← if active then evaluateBool (r.context s) condition else .ok false
  if again then return { s with rest := resume, emitting := true }
  else return { s with frames := frames, emitting := active }

/-- Ends an iteration, or goes back to its beginning with the next element. -/
def endIteration (resume : List Segment) (name : String) (items : List (Value α)) (active : Bool)
    (frames : List (Frame α)) (s : State α σ) : State α σ :=
  match items with
  | item :: items =>
    { s with
      rest := resume, frames := .iteration resume name items active :: frames, emitting := true,
      env := s.env.set name item }
  | [] => { s with frames := frames, emitting := active }

/-- Takes a closer at the byte `start`. It has to belong to the innermost open block. -/
def close (r : Setting α σ) (closer : Closer) (start : Nat) (s : State α σ) :
    Except Error (State α σ) :=
  match closer, s.frames with
  | .otherwise, .conditional active :: _ =>
    .ok (if active then { s with emitting := !s.emitting } else s)
  | .endConditional, .conditional active :: frames =>
    .ok { s with frames := frames, emitting := if active then true else s.emitting }
  | .endLoop, .loop resume condition active :: frames =>
    r.endLoop resume condition active frames s
  | .endIteration, .iteration resume name items active :: frames =>
    .ok (endIteration resume name items active frames s)
  | closer, _ => .error (unexpected closer start)

/-- Takes a directive of the engine's own. -/
def native (r : Setting α σ) (d : Directive) (start : Nat) (s : State α σ) :
    Except Error (State α σ) :=
  match d with
  | .output expression => r.output expression s
  | .openConditional condition => r.openConditional condition s
  | .openLoop condition => r.openLoop condition s
  | .openIteration header => r.openIteration header s
  | .close closer => r.close closer start s
  | .assign assignment => r.assign assignment s
  | .listing => .ok { s with output := s.output ++ s.env.list }
  | .foreign => .ok s

/-- Takes a directive. -/
def directive (r : Setting α σ) (body : List Char) (start stop : Nat) (s : State α σ) :
    Progress α σ :=
  match r.mode, Directive.ofBody body with
  | .delegate, _ => r.external body stop s
  | .interpret, .foreign => r.external body stop s
  | .interpret, d =>
    match r.native d start s with
    | .ok t => .next t
    | .error e => .failed e s

/-- Takes the next segment. -/
def step (r : Setting α σ) (s : State α σ) : Progress α σ :=
  match s.rest with
  | [] =>
    match s.frames with
    | [] => .done s
    | frame :: _ => .failed (.structural r.size (.unclosed frame.block)) s
  | .literal text :: rest => .next ({ s with rest := rest }.emit (.ofList text))
  | .unterminated start :: _ => .failed (.structural start .unterminatedDirective) s
  | .directive body start stop :: rest => r.directive body start stop { s with rest := rest }

/-- Takes at most `fuel` steps. There is an outcome if the render ends within them. -/
def run (r : Setting α σ) : Nat → State α σ → Option (Outcome α σ)
  | 0, _ => none
  | fuel + 1, s =>
    let idle := { r.engine with rendering := false }
    match r.step s with
    | .next t => r.run fuel t
    | .done t => some ⟨.ok t.output, t.env, t.memory, idle⟩
    | .failed e t => some ⟨.error e, t.env, t.memory, idle⟩

/-- The state before the first segment. -/
def start (template : List Char) (env : Environment α) (memory : σ) : State α σ :=
  ⟨segments template, [], true, "", env, memory⟩

end Setting

end MicroTemplate.Template

namespace MicroTemplate.Engine

open Template

variable {α σ : Type} [HostObject α]

/-- Renders a template in one of the modes, in at most `fuel` steps. An engine that is rendering
refuses at once. -/
def renderIn (engine : Engine α) (mode : Mode) (hook : Hook α σ) (fuel : Nat) (template : String)
    (env : Environment α) (memory : σ) : Option (Outcome α σ) :=
  if engine.rendering then some ⟨.error .reentrant, env, memory, engine⟩
  else
    let setting : Setting α σ :=
      ⟨{ engine with rendering := true }, hook, mode, template.utf8ByteSize⟩
    setting.run fuel (Setting.start template.toList env memory)

/-- Renders a template. Directives that are not the engine's own give nothing. -/
def render (engine : Engine α) (fuel : Nat) (template : String) (env : Environment α) :
    Option (Outcome α Unit) :=
  engine.renderIn .interpret .silent fuel template env ()

/-- Renders a template with a hook for the directives that are not the engine's own. -/
def renderWithHook (engine : Engine α) (hook : Hook α σ) (fuel : Nat) (template : String)
    (env : Environment α) (memory : σ) : Option (Outcome α σ) :=
  engine.renderIn .interpret hook fuel template env memory

/-- Renders a template with a hook for all directives. -/
def renderDelegated (engine : Engine α) (hook : Hook α σ) (fuel : Nat) (template : String)
    (env : Environment α) (memory : σ) : Option (Outcome α σ) :=
  engine.renderIn .delegate hook fuel template env memory

end MicroTemplate.Engine
