import MicroTemplate.Proofs.Template.Step

/-!
# Directives that change the state in place

An operation gives the state that a directive leads to as a whole, or none at all. Here each
directive of the engine's own is a sequence of changes to the one state of a render, in the order in
which they are made, and where one of its evaluations fails, the changes made by then stay. A failed
directive is seen to leave at most another stack of blocks behind, so that the variables that a
failed render leaves are those of the state before the directive that failed.
-/

namespace MicroTemplate.Template

open Expression

/-- What is done to the state of a render in place. -/
abbrev InPlace (α σ β : Type) : Type := EStateM Error (State α σ) β

namespace InPlace

variable {α σ : Type}

section

variable [HostObject α] (r : Setting α σ)

/-- Evaluates something with the variables of the moment. -/
def look {β : Type} (ask : Context α → Except Error β) : InPlace α σ β := fun s =>
  match ask (r.context s) with
  | .ok b => .ok b s
  | .error e => .error e s

/-- Shows the value of an expression. -/
def output (expression : List Char) : InPlace α σ Unit := do
  if (← get).emitting then
    let text ← look r (evaluateText · expression)
    modify fun s => { s with output := s.output ++ text }

/-- Opens a block, and then shows what it holds if its condition holds. -/
def openBlock (frame : State α σ → Frame α) (condition : List Char) : InPlace α σ Unit := do
  let relevant := (← get).emitting
  modify fun s => s.push (frame s)
  if relevant then
    let holds ← look r (evaluateBool · condition)
    modify fun s => { s with emitting := holds }

/-- Evaluates the source of an iteration and then its name, and binds the first element, if text is
shown. The name and the elements after the first are for the block that is opened next. -/
def beginIteration (header : List Char) : Bool → InPlace α σ (String × List (Value α))
  | false => return ("", [])
  | true =>
    match splitHeader? header with
    | none => do
      modify fun s => { s with emitting := false }
      return ("", [])
    | some (target, source) => do
      let value ← look r (evaluate · source)
      let name ← look r (evaluateName · target)
      match value.elements?.getD [] with
      | [] =>
        modify fun s => { s with emitting := false }
        return (name, [])
      | first :: items =>
        modify fun s => { s with env := s.env.set name first }
        return (name, items)

/-- Opens an iteration, after its first element is bound. -/
def openIteration (header : List Char) : InPlace α σ Unit := do
  let active := (← get).emitting
  let (name, items) ← beginIteration r header active
  modify fun s => s.push (.iteration s.rest name items active)

/-- Turns to the other part of the innermost section. -/
def otherwise (start : Nat) : InPlace α σ Unit := do
  match (← get).frames.head? with
  | some (.conditional active) =>
    if active then modify fun s => { s with emitting := !s.emitting }
  | _ => throw (unexpected .otherwise start)

/-- Takes the innermost block from the stack, which then has to be a section. -/
def endConditional (start : Nat) : InPlace α σ Unit := do
  let frame := (← get).frames.head?
  modify fun s => { s with frames := s.frames.tail }
  match frame with
  | some (.conditional active) =>
    if active then modify fun s => { s with emitting := true }
  | _ => throw (unexpected .endConditional start)

/-- Evaluates the condition of the innermost loop once more, and goes back or ends it. -/
def endLoop (start : Nat) : InPlace α σ Unit := do
  match (← get).frames.head? with
  | some (.loop resume condition active) =>
    let again ← if active then look r (evaluateBool · condition) else pure false
    if again then modify fun s => { s with rest := resume, emitting := true }
    else
      modify fun s => { s with frames := s.frames.tail }
      modify fun s => { s with emitting := active }
  | _ => throw (unexpected .endLoop start)

/-- Takes the next element from the innermost iteration, binds it and goes back, or ends the
iteration if no element is left. -/
def endIteration (start : Nat) : InPlace α σ Unit := do
  match (← get).frames.head? with
  | some (.iteration resume name items active) =>
    match items with
    | item :: items =>
      modify fun s => { s with frames := .iteration resume name items active :: s.frames.tail }
      modify fun s => { s with env := s.env.set name item }
      modify fun s => { s with rest := resume, emitting := true }
    | [] =>
      modify fun s => { s with frames := s.frames.tail }
      modify fun s => { s with emitting := active }
  | _ => throw (unexpected .endIteration start)

/-- Evaluates the value of an assignment and then its name, and binds the name. -/
def assign (assignment : List Char) : InPlace α σ Unit := do
  if (← get).emitting then
    match Text.splitFirst? (· == '=') assignment with
    | none => return
    | some (target, expression) =>
      let value ← look r (evaluate · expression)
      let name ← look r (evaluateName · target)
      modify fun s => { s with env := s.env.set name value }

/-- Takes a directive of the engine's own, which begins at the byte `start`. -/
def directive (start : Nat) : Directive → InPlace α σ Unit
  | .output expression => output r expression
  | .openConditional condition => openBlock r (fun s => .conditional s.emitting) condition
  | .openLoop condition => openBlock r (fun s => .loop s.rest condition s.emitting) condition
  | .openIteration header => openIteration r header
  | .close .otherwise => otherwise start
  | .close .endConditional => endConditional start
  | .close .endLoop => endLoop r start
  | .close .endIteration => endIteration start
  | .assign assignment => assign r assignment
  | .listing => modify fun s => { s with output := s.output ++ s.env.list }
  | .foreign => return

end

/-! ## In place and as a whole -/

/-- Whether what was done in place to a state is what an operation gives as a whole. A failure may
leave another stack of blocks behind, and nothing else. -/
inductive Matches (s : State α σ) :
    EStateM.Result Error (State α σ) Unit → Except Error (State α σ) → Prop where
  /-- The same state. -/
  | done (t : State α σ) : Matches s (.ok () t) (.ok t)
  /-- The same failure. -/
  | failed (e : Error) (frames : List (Frame α)) :
    Matches s (.error e { s with frames := frames }) (.error e)

section

variable [HostObject α] (r : Setting α σ)

/-- Up to an evaluation at most the stack has changed, and if it fails, that is all. -/
theorem look_matches {β : Type} {ask : Context α → Except Error β} {s : State α σ}
    {frames : List (Frame α)} {next : β → InPlace α σ Unit} {whole : β → Except Error (State α σ)}
    (h : ∀ b, Matches s (next b { s with frames := frames }) (whole b)) :
    Matches s ((look r ask >>= next) { s with frames := frames })
      (ask (r.context s) >>= whole) := by
  change Matches s (EStateM.bind (look r ask) next _) _
  rw [EStateM.bind, look]
  cases hv : ask (r.context s) with
  | error e =>
    have asked : ask (r.context { s with frames := frames }) = .error e := hv
    rw [asked]
    exact .failed e frames
  | ok b =>
    have asked : ask (r.context { s with frames := frames }) = .ok b := hv
    rw [asked]
    exact h b

theorem output_matches (e : List Char) (s : State α σ) :
    Matches s (output r e s) (r.output e s) := by
  rw [Setting.output]
  change Matches s ((if s.emitting then _ else _ : InPlace α σ Unit) s) _
  by_cases he : s.emitting = true
  · rw [if_pos he, if_pos he]
    exact look_matches r fun text => .done _
  · rw [if_neg he, if_neg he]
    exact .done s

/-- If the condition of a block fails, the block is open already. -/
theorem openBlock_matches (frame : State α σ → Frame α) (c : List Char) (s : State α σ) :
    Matches s (openBlock r frame c s)
      (if s.emitting then do
        let holds ← evaluateBool (r.context s) c
        return { s.push (frame s) with emitting := holds }
      else .ok (s.push (frame s))) := by
  change Matches s ((if s.emitting then _ else _ : InPlace α σ Unit) (s.push (frame s))) _
  by_cases he : s.emitting = true
  · rw [if_pos he, if_pos he]
    exact look_matches r fun holds => .done _
  · rw [if_neg he, if_neg he]
    exact .done _

theorem openIteration_matches (header : List Char) (s : State α σ) :
    Matches s (openIteration r header s) (r.openIteration header s) := by
  rw [Setting.openIteration]
  change Matches s ((beginIteration r header s.emitting >>= _) s) _
  cases he : s.emitting with
  | false =>
    have same : ({ s.push (.iteration s.rest "" [] false) with emitting := false } : State α σ) =
        s.push (.iteration s.rest "" [] false) := by
      rw [← he]
      rfl
    rw [if_neg Bool.false_ne_true]
    dsimp only
    rw [same]
    exact .done _
  | true =>
    rw [if_pos rfl, beginIteration]
    cases hh : splitHeader? header with
    | none => exact .done _
    | some split =>
      obtain ⟨target, source⟩ := split
      rw [bind_assoc]
      refine look_matches r fun value => ?_
      rw [bind_assoc]
      refine look_matches r fun name => ?_
      cases hi : value.elements?.getD [] with
      | nil => exact .done _
      | cons first items => exact .done _

theorem assign_matches (a : List Char) (s : State α σ) :
    Matches s (assign r a s) (r.assign a s) := by
  rw [Setting.assign]
  change Matches s ((if s.emitting then _ else _ : InPlace α σ Unit) s) _
  by_cases he : s.emitting = true
  · rw [if_pos he, if_pos he]
    cases hs : Text.splitFirst? (· == '=') a with
    | none => exact .done s
    | some split => exact look_matches r fun value => look_matches r fun name => .done _
  · rw [if_neg he, if_neg he]
    exact .done s

/-- The end of a loop evaluates its condition before it takes the loop from the stack. -/
theorem endLoop_matches {start : Nat} {resume : List Segment} {c : List Char} {active : Bool}
    {frames : List (Frame α)} {s : State α σ} (hf : s.frames = .loop resume c active :: frames) :
    Matches s (endLoop r start s) (r.endLoop resume c active frames s) := by
  obtain ⟨rest, _, emitting, output, env, memory⟩ := s
  cases hf
  cases active with
  | false => exact .done _
  | true =>
    rw [Setting.endLoop, if_pos rfl]
    change Matches _ ((look r (evaluateBool · c) >>= _) _) _
    refine look_matches r fun again => ?_
    cases again with
    | false => exact .done _
    | true => exact .done _

/-- A closer whose block is not the innermost one may have taken another one from the stack. -/
theorem close_matches (closer : Closer) (start : Nat) (s : State α σ) :
    Matches s (directive r start (.close closer) s) (r.close closer start s) := by
  obtain ⟨rest, frames, emitting, output, env, memory⟩ := s
  cases frames with
  | nil => cases closer <;> exact .failed _ []
  | cons f frames =>
    cases closer with
    | otherwise =>
      cases f with
      | conditional active => cases active <;> exact .done _
      | loop _ _ _ | iteration _ _ _ _ => exact .failed _ _
    | endConditional =>
      cases f with
      | conditional active => cases active <;> exact .done _
      | loop _ _ _ | iteration _ _ _ _ => exact .failed _ frames
    | endLoop =>
      cases f with
      | loop resume c active => exact endLoop_matches r rfl
      | conditional _ | iteration _ _ _ _ => exact .failed _ _
    | endIteration =>
      cases f with
      | iteration resume name items active => cases items <;> exact .done _
      | conditional _ | loop _ _ _ => exact .failed _ _

/-- A directive of the engine's own does in place what it leads to as a whole. -/
theorem directive_matches (d : Directive) (start : Nat) (s : State α σ) :
    Matches s (directive r start d s) (r.native d start s) := by
  cases d with
  | output e => exact output_matches r e s
  | openConditional c => exact openBlock_matches r _ c s
  | openLoop c => exact openBlock_matches r _ c s
  | openIteration header => exact openIteration_matches r header s
  | close closer => exact close_matches r closer start s
  | assign a => exact assign_matches r a s
  | listing => exact .done _
  | foreign => exact .done s

end

theorem Matches.of_ok {s t : State α σ} {x : Except Error (State α σ)}
    (h : Matches s (.ok () t) x) : x = .ok t := by
  cases h
  rfl

theorem Matches.of_error {s t : State α σ} {x : Except Error (State α σ)} {e : Error}
    (h : Matches s (.error e t) x) :
    x = .error e ∧ t.env = s.env ∧ t.memory = s.memory ∧ t.output = s.output := by
  cases h
  exact ⟨rfl, rfl, rfl, rfl⟩

end InPlace

namespace Setting

variable {α σ : Type} [HostObject α] {r : Setting α σ} {s t u : State α σ}

/-- A step at a directive of the engine's own. -/
theorem step_own (hm : r.mode = .interpret) {body : List Char} {start stop : Nat}
    {rest : List Segment} (hr : s.rest = .directive body start stop :: rest)
    (own : Directive.ofBody body ≠ .foreign) :
    r.step s = .of { s with rest := rest }
      (r.native (Directive.ofBody body) start { s with rest := rest }) := by
  rw [step_directive hr, Setting.directive, hm]
  cases hd : Directive.ofBody body with
  | foreign => exact absurd hd own
  | _ => rfl

/-! ## What a render binds -/

/-- The names that are bound between two states of a render, with their values, in order. A step
binds at most one. -/
inductive Binds (r : Setting α σ) :
    State α σ → List (String × Value α) → State α σ → Prop where
  /-- Without a step, nothing is bound. -/
  | refl (s : State α σ) : Binds r s [] s
  /-- A step that leaves the variables as they are. -/
  | quiet {s t u pairs} (hs : r.step s = .next t) (same : t.env = s.env) (h : Binds r t pairs u) :
    Binds r s pairs u
  /-- A step that binds a name. -/
  | bind {s t u pairs name value} (hs : r.step s = .next t) (bound : t.env = s.env.set name value)
    (h : Binds r t pairs u) : Binds r s ((name, value) :: pairs) u

/-- What is bound is kept, unless it is bound again. -/
theorem Binds.env_eq {pairs : List (String × Value α)} (h : r.Binds s pairs t) :
    t.env = s.env.extend pairs := by
  induction h with
  | refl => rfl
  | quiet _ same _ ih => rw [ih, same]
  | bind _ bound _ ih =>
    rw [ih, bound]
    rfl

section

variable {r : Setting α Unit} {s t : State α Unit} (silent : r.hook = .silent)

include silent

/-- Without a hook, a directive binds at most one name. -/
theorem Leads.env_of_next {body : List Char} {start stop : Nat} {d : Directive}
    (leads : r.Leads body start stop d s (.next t)) :
    t.env = s.env ∨ ∃ name value, t.env = s.env.set name value := by
  cases leads with
  | assign | openIteration | nextItem => exact .inr ⟨_, _, rfl⟩
  | foreign _ hh =>
    rw [silent] at hh
    cases hh
    exact .inl rfl
  | _ => exact .inl rfl

/-- Without a hook, a directive that fails binds no name. -/
theorem Leads.env_of_failed {body : List Char} {start stop : Nat} {d : Directive} {e : Error}
    (leads : r.Leads body start stop d s (.failed e t)) : t.env = s.env := by
  cases leads with
  | foreignFails _ hh =>
    rw [silent] at hh
    cases hh
  | _ => rfl

variable (hm : r.mode = .interpret)

include hm

/-- Without a hook, a step binds at most one name. -/
theorem env_of_step_next (hs : r.step s = .next t) :
    t.env = s.env ∨ ∃ name value, t.env = s.env.set name value := by
  cases takes_of_step hm hs with
  | literal _ =>
    rw [State.emit_eq]
    exact .inl rfl
  | directive _ leads =>
    have bound := leads.env_of_next silent
    exact bound

/-- Without a hook, a step that fails binds no name. -/
theorem env_of_step_failed {e : Error} (hs : r.step s = .failed e t) : t.env = s.env := by
  cases takes_of_step hm hs with
  | unclosed | unterminated => rfl
  | directive _ leads =>
    have kept := leads.env_of_failed silent
    exact kept

/-- Without a hook, all that a render does to the variables is to bind names. -/
theorem Reaches.exists_binds (h : r.Reaches s t) : ∃ pairs, r.Binds s pairs t := by
  induction h using Relation.ReflTransGen.head_induction_on with
  | refl => exact ⟨[], .refl t⟩
  | head hs _ ih =>
    obtain ⟨pairs, binds⟩ := ih
    rcases env_of_step_next silent hm hs with same | ⟨name, value, bound⟩
    · exact ⟨pairs, .quiet hs same binds⟩
    · exact ⟨(name, value) :: pairs, .bind hs bound binds⟩

end

end Setting

/-- A directive of the engine's own that fails changes no variable. Wherever a render comes to such
a directive and takes it in place, it either goes on with what has become of the state, or has
failed at some point. Then the variables, the memory of the hook and the text are still those from
before the directive, and the outcome is the error with these variables. So a render without a hook
that fails, unless it was refused, leaves the variables of the state before the step that failed,
and of every state before that one with all that was bound since. -/
theorem failed_directives {α σ : Type} [HostObject α] (engine : Engine α) :
    (∀ (hook : Hook α σ) (template : String) (env : Environment α) (memory : σ) (s : State α σ)
        (body : List Char) (start stop : ℕ) (rest : List Segment),
      engine.rendering = false →
      (engine.settingWith .interpret hook template).Reaches
        (Setting.start template.toList env memory) s →
      s.rest = .directive body start stop :: rest → Directive.ofBody body ≠ .foreign →
      (∀ t, InPlace.directive (engine.settingWith .interpret hook template) start
          (Directive.ofBody body) { s with rest := rest } = .ok () t →
        (engine.settingWith .interpret hook template).step s = .next t) ∧
      ∀ e t, InPlace.directive (engine.settingWith .interpret hook template) start
          (Directive.ofBody body) { s with rest := rest } = .error e t →
        t.env = s.env ∧ t.memory = s.memory ∧ t.output = s.output ∧
        ∀ o, (∃ fuel, engine.renderWithHook hook fuel template env memory = some o) ↔
          o = ⟨.error e, s.env, s.memory, engine⟩) ∧
    ∀ (fuel : ℕ) (template : String) (env : Environment α) (o : Outcome α Unit) (e : Error),
      engine.render fuel template env = some o → o.result = .error e →
      (engine.rendering = true ∧ e = .reentrant ∧ o.env = env) ∨
      ∃ s t, (engine.setting template).Reaches (Setting.start template.toList env ()) s ∧
        (engine.setting template).step s = .failed e t ∧ o.env = s.env ∧
        ∀ u, (engine.setting template).Reaches (Setting.start template.toList env ()) u →
          (engine.setting template).Reaches u s →
          ∃ pairs, (engine.setting template).Binds u pairs s ∧ o.env = u.env.extend pairs := by
  constructor
  · intro hook template env memory s body start stop rest idle reached next own
    have whole := Setting.step_own (r := engine.settingWith .interpret hook template) rfl next own
    have matched := InPlace.directive_matches (engine.settingWith .interpret hook template)
      (Directive.ofBody body) start { s with rest := rest }
    constructor
    · intro t done
      rw [done] at matched
      rw [whole, matched.of_ok]
      rfl
    · intro e t failed
      rw [failed] at matched
      obtain ⟨native, henv, hmemory, houtput⟩ := matched.of_error
      rw [native] at whole
      refine ⟨henv, hmemory, houtput, fun o => ?_⟩
      unfold Engine.renderWithHook
      simp only [Engine.renderIn_eq_run idle]
      rw [reached.exists_run_iff, Setting.exists_run_iff_of_failed whole,
        Engine.settingWith_engine idle]
  · intro fuel template env o e ended failed
    cases idle : engine.rendering with
    | true =>
      rw [Engine.render, Engine.renderIn, if_pos idle] at ended
      cases ended
      cases failed
      exact .inl ⟨rfl, rfl, rfl⟩
    | false =>
      rw [Engine.render_eq_run idle] at ended
      obtain ⟨s, reached, ends⟩ := Setting.exists_run_iff.1 ⟨fuel, ended⟩
      rcases ends with ⟨t, _, rfl⟩ | ⟨e', t, hs, rfl⟩
      · cases failed
      · cases failed
        have kept : t.env = s.env := Setting.env_of_step_failed rfl rfl hs
        refine .inr ⟨s, t, reached, hs, kept, fun u _ later => ?_⟩
        obtain ⟨pairs, binds⟩ := later.exists_binds rfl rfl
        exact ⟨pairs, binds, kept.trans binds.env_eq⟩

/-- The name of an assignment fails after its value is evaluated, and the condition of a loop fails
at its end, after the assignment of a pass. -/
theorem failed_directives_in_loop :
    (∀ o, (∃ fuel, Engine.bare.renderWithHook .silent fuel "@[SET:a=1]@[SET:1/0=a]" .empty () =
        some o) ↔
      o = ⟨.error (.evaluation "1/0" (.arithmetic .divisionByZero)), .ofList [("a", .int 1)], (),
        Engine.bare⟩) ∧
    Engine.bare.render 4 "@[SET:i=1]@[WHILE:6/i]@[SET:i=i-1]@[ENDWHILE]" .empty =
      some ⟨.error (.evaluation "6/i" (.arithmetic .divisionByZero)), .ofList [("i", .int 0)], (),
        Engine.bare⟩ ∧
    ∃ s t pairs,
      (Engine.bare.setting "@[SET:i=1]@[WHILE:6/i]@[SET:i=i-1]@[ENDWHILE]").step s =
        .failed (.evaluation "6/i" (.arithmetic .divisionByZero)) t ∧
      s.env = .ofList [("i", .int 0)] ∧
      (Engine.bare.setting "@[SET:i=1]@[WHILE:6/i]@[SET:i=i-1]@[ENDWHILE]").Binds
        (Setting.start "@[SET:i=1]@[WHILE:6/i]@[SET:i=i-1]@[ENDWHILE]".toList .empty ()) pairs
        s := by
  obtain ⟨one, whole⟩ := failed_directives (σ := Unit) Engine.bare
  constructor
  · let name : State Empty Unit :=
      ⟨[.directive "SET:1/0=a".toList 10 22], [], true, "", .ofList [("a", .int 1)], ()⟩
    have reached : (Engine.bare.settingWith .interpret .silent "@[SET:a=1]@[SET:1/0=a]").Reaches
        (Setting.start "@[SET:a=1]@[SET:1/0=a]".toList .empty ()) name := by
      refine .single ?_
      cbv
    have fails : InPlace.directive
        (Engine.bare.settingWith .interpret .silent "@[SET:a=1]@[SET:1/0=a]") 10
        (Directive.ofBody "SET:1/0=a".toList) { name with rest := [] } =
        .error (.evaluation "1/0" (.arithmetic .divisionByZero)) { name with rest := [] } := by
      cbv
    exact ((one .silent "@[SET:a=1]@[SET:1/0=a]" .empty () name "SET:1/0=a".toList 10 22 [] rfl
      reached rfl (by decide)).2 _ _ fails).2.2.2
  · have ended : Engine.bare.render 4 "@[SET:i=1]@[WHILE:6/i]@[SET:i=i-1]@[ENDWHILE]" .empty =
        some ⟨.error (.evaluation "6/i" (.arithmetic .divisionByZero)), .ofList [("i", .int 0)], (),
          Engine.bare⟩ := by
      cbv
    obtain ⟨refused, _, _⟩ | ⟨s, t, reached, hs, kept, bound⟩ := whole _ _ _ _ _ ended rfl
    · cases refused
    · obtain ⟨pairs, binds, _⟩ := bound _ .refl reached
      exact ⟨ended, s, t, pairs, hs, kept.symm, binds⟩

end MicroTemplate.Template
