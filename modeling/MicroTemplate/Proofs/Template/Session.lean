import MicroTemplate.Proofs.Template.Step

/-!
# One engine, many renders

An engine renders one template at a time, and its mark says whether it does. A hook is code of the
application: while it is asked, the engine is marked, and it may try to render with that engine as
often as it likes, and go by what comes of it. Here the mark is kept where the hook leaves it, and
not where a render expects it. Every attempt is refused and leaves the mark alone, so a render is
the same as with a hook that takes the refusals for granted, and when it ends, however it does, the
mark is off.
-/

namespace MicroTemplate.Template

open Expression

variable {α σ τ : Type}

/-! ## Other memories -/

/-- A state with another memory of the hook. -/
def State.map (f : σ → τ) (s : State α σ) : State α τ :=
  ⟨s.rest, s.frames, s.emitting, s.output, s.env, f s.memory⟩

/-- What a step leads to, with another memory of the hook. -/
def Progress.map (f : σ → τ) : Progress α σ → Progress α τ
  | .next s => .next (s.map f)
  | .done s => .done (s.map f)
  | .failed e s => .failed e (s.map f)

/-- What a render leaves behind, with another memory of the hook. -/
def Outcome.map (f : σ → τ) (o : Outcome α σ) : Outcome α τ :=
  ⟨o.result, o.env, f o.memory, o.engine⟩

/-- The state that a step leads to, also if it fails there. -/
def Progress.state : Progress α σ → State α σ
  | .next s => s
  | .done s => s
  | .failed _ s => s

theorem State.map_emit (f : σ → τ) (s : State α σ) (text : String) :
    (s.map f).emit text = (s.emit text).map f := by
  rw [State.emit_eq, State.emit_eq]
  rfl

/-- One hook answers like another, of whose memory it has only a view. What `holds` of the memory
is kept. -/
structure Hook.Mimics (engine : Engine α) (hook' : Hook α τ) (hook : Hook α σ) (view : σ → τ)
    (holds : σ → Prop) : Prop where
  /-- The answers are the same. -/
  answer {body stop env memory reply env' memory'} (hm : holds memory)
    (h : hook.handle engine body stop env memory = (reply, env', memory')) :
    hook'.handle engine body stop env (view memory) = (reply, env', view memory')
  /-- What holds of the memory goes on to hold. -/
  kept {body stop env memory reply env' memory'} (hm : holds memory)
    (h : hook.handle engine body stop env memory = (reply, env', memory')) : holds memory'

namespace Setting

variable [HostObject α]

section

variable {engine : Engine α} {hook : Hook α σ} {hook' : Hook α τ} {view : σ → τ}
  {holds : σ → Prop}

/-- A directive leads to the same with a hook that answers the same. -/
theorem Leads.map (mimics : hook'.Mimics engine hook view holds) {mode : Mode} {size : Nat}
    {body : List Char} {start stop : Nat} {d : Directive} {s : State α σ} {p : Progress α σ}
    (leads : Leads ⟨engine, hook, mode, size⟩ body start stop d s p) (hs : holds s.memory) :
    Leads ⟨engine, hook', mode, size⟩ body start stop d (s.map view) (p.map view) := by
  cases leads with
  | ignored he hd => exact .ignored he hd
  | output he hv => exact .output he hv
  | outputFails he hv => exact .outputFails he hv
  | assign he ha hv hn => exact .assign he ha hv hn
  | unassigned he ha => exact .unassigned he ha
  | valueFails he ha hv => exact .valueFails he ha hv
  | nameFails he ha hv hn => exact .nameFails he ha hv hn
  | listing => exact .listing
  | foreign he hh => exact .foreign he (mimics.answer hs hh)
  | foreignFails he hh => exact .foreignFails he (mimics.answer hs hh)
  | openConditional he hv => exact .openConditional he hv
  | conditionFails he hv => exact .conditionFails he hv
  | openConditionalIgnored he => exact .openConditionalIgnored he
  | openLoop he hv => exact .openLoop he hv
  | loopFails he hv => exact .loopFails he hv
  | openLoopIgnored he => exact .openLoopIgnored he
  | openIteration he hh hv hn hi => exact .openIteration he hh hv hn hi
  | openEmpty he hh hv hn hi => exact .openEmpty he hh hv hn hi
  | openHeadless he hh => exact .openHeadless he hh
  | sourceFails he hh hv => exact .sourceFails he hh hv
  | targetFails he hh hv hn => exact .targetFails he hh hv hn
  | openIterationIgnored he => exact .openIterationIgnored he
  | otherwise hf => exact .otherwise hf
  | otherwiseIgnored hf => exact .otherwiseIgnored hf
  | endConditional hf => exact .endConditional hf
  | endConditionalIgnored hf => exact .endConditionalIgnored hf
  | again hf hv => exact .again hf hv
  | endLoop hf hv => exact .endLoop hf hv
  | againFails hf hv => exact .againFails hf hv
  | endLoopIgnored hf => exact .endLoopIgnored hf
  | nextItem hf => exact .nextItem hf
  | endIteration hf => exact .endIteration hf
  | unmatched hf => exact .unmatched hf

/-- Only the hook changes its memory. -/
theorem Leads.kept (mimics : hook'.Mimics engine hook view holds) {mode : Mode} {size : Nat}
    {body : List Char} {start stop : Nat} {d : Directive} {s : State α σ} {p : Progress α σ}
    (leads : Leads ⟨engine, hook, mode, size⟩ body start stop d s p) (hs : holds s.memory) :
    holds p.state.memory := by
  cases leads with
  | foreign _ hh | foreignFails _ hh => exact mimics.kept hs hh
  | _ => exact hs

/-- A directive leads to the same with a hook that answers the same, in either mode. -/
theorem directive_map (mimics : hook'.Mimics engine hook view holds) (mode : Mode) (size : Nat)
    (body : List Char) (start stop : Nat) (s : State α σ) (hs : holds s.memory) :
    directive ⟨engine, hook', mode, size⟩ body start stop (s.map view) =
      (directive ⟨engine, hook, mode, size⟩ body start stop s).map view ∧
      holds (directive ⟨engine, hook, mode, size⟩ body start stop s).state.memory := by
  -- In both modes the rules of one directive say what happens, and they leave no choice.
  cases mode with
  | interpret =>
    have leads := directive_leads ⟨engine, hook, .interpret, size⟩ body start stop rfl s
    have same := directive_leads ⟨engine, hook', .interpret, size⟩ body start stop rfl (s.map view)
    exact ⟨same.unique (leads.map mimics hs), leads.kept mimics hs⟩
  | delegate =>
    have leads := external_leads ⟨engine, hook, .delegate, size⟩ body start stop s
    have same := external_leads ⟨engine, hook', .delegate, size⟩ body start stop (s.map view)
    exact ⟨same.unique (leads.map mimics hs), leads.kept mimics hs⟩

/-- Each step is the same with a hook that answers the same. -/
theorem step_map (mimics : hook'.Mimics engine hook view holds) (mode : Mode) (size : Nat)
    (s : State α σ) (hs : holds s.memory) :
    step ⟨engine, hook', mode, size⟩ (s.map view) =
      (step ⟨engine, hook, mode, size⟩ s).map view ∧
      holds (step ⟨engine, hook, mode, size⟩ s).state.memory := by
  cases hr : s.rest with
  | nil =>
    have hr' : (s.map view).rest = [] := hr
    rw [step, step, hr, hr']
    cases hf : s.frames with
    | nil =>
      have hf' : (s.map view).frames = [] := hf
      rw [hf']
      exact ⟨rfl, hs⟩
    | cons f frames =>
      have hf' : (s.map view).frames = f :: frames := hf
      rw [hf']
      exact ⟨rfl, hs⟩
  | cons segment rest =>
    have hr' : (s.map view).rest = segment :: rest := hr
    cases segment with
    | literal text =>
      rw [step_literal hr, step_literal hr']
      refine ⟨congrArg Progress.next (State.map_emit view { s with rest := rest } _), ?_⟩
      rw [State.emit_eq]
      exact hs
    | directive body start stop =>
      rw [step_directive hr, step_directive hr']
      exact directive_map mimics mode size body start stop { s with rest := rest } hs
    | unterminated start =>
      rw [step, step, hr, hr']
      exact ⟨rfl, hs⟩

/-- A render goes through the same states with a hook that answers the same. -/
theorem Reaches.map (mimics : hook'.Mimics engine hook view holds) {mode : Mode} {size : Nat}
    {s t : State α σ} (h : Reaches ⟨engine, hook, mode, size⟩ s t) (hs : holds s.memory) :
    Reaches ⟨engine, hook', mode, size⟩ (s.map view) (t.map view) ∧ holds t.memory := by
  induction h with
  | refl => exact ⟨.refl, hs⟩
  | tail _ hstep ih =>
    obtain ⟨reached, ht⟩ := ih
    obtain ⟨same, hu⟩ := step_map mimics mode size _ ht
    rw [hstep] at same hu
    exact ⟨reached.tail same, hu⟩

/-- A render is the same with a hook that answers the same. -/
theorem run_map (mimics : hook'.Mimics engine hook view holds) (mode : Mode) (size fuel : Nat)
    (s : State α σ) (hs : holds s.memory) :
    run ⟨engine, hook', mode, size⟩ fuel (s.map view) =
      (run ⟨engine, hook, mode, size⟩ fuel s).map (Outcome.map view) ∧
      ∀ o, run ⟨engine, hook, mode, size⟩ fuel s = some o → holds o.memory := by
  induction fuel generalizing s with
  | zero =>
    refine ⟨rfl, fun o ho => ?_⟩
    cases ho
  | succ fuel ih =>
    obtain ⟨same, kept⟩ := step_map mimics mode size s hs
    rw [run, run, same]
    cases hp : step ⟨engine, hook, mode, size⟩ s with
    | next t =>
      rw [hp] at kept
      exact ih t kept
    | done t | failed e t =>
      rw [hp] at kept
      refine ⟨rfl, fun o ho => ?_⟩
      cases ho
      exact kept

end

/-! ## What a render never says -/

/-- No directive fails because a render is going on. -/
theorem Leads.not_reentrant {r : Setting α σ} {body : List Char} {start stop : Nat}
    {d : Directive} {s t : State α σ} (h : r.Leads body start stop d s (.failed .reentrant t)) :
    False := by
  have evaluated {ctx : Context α} {e : List Char} : evaluate ctx e ≠ .error .reentrant := by
    intro hv
    obtain ⟨_, hc⟩ := error_of_evaluate hv
    cases hc
  have named {ctx : Context α} {e : List Char} : evaluateName ctx e ≠ .error .reentrant := by
    intro hn
    obtain ⟨_, hc⟩ := error_of_evaluateName hn
    cases hc
  cases h with
  | outputFails _ hv | conditionFails _ hv | loopFails _ hv | againFails _ hv =>
    exact evaluated (error_of_map hv)
  | valueFails _ _ hv | sourceFails _ _ hv => exact evaluated hv
  | nameFails _ _ _ hn | targetFails _ _ _ hn => exact named hn

/-- A render that has begun does not fail because a render is going on, and leaves its engine with
the mark off. -/
theorem Ends.guarded {r : Setting α σ} {s : State α σ} {o : Outcome α σ} (h : r.Ends s o) :
    o.result ≠ .error .reentrant ∧ o.engine = { r.engine with rendering := false } := by
  rcases h with ⟨t, _, rfl⟩ | ⟨e, t, hs, rfl⟩
  · exact ⟨nofun, rfl⟩
  · refine ⟨fun he => ?_, rfl⟩
    cases he
    cases hr : s.rest with
    | nil =>
      rw [step, hr] at hs
      cases hf : s.frames <;> rw [hf] at hs <;> cases hs
    | cons segment rest =>
      cases segment with
      | literal text =>
        rw [step_literal hr] at hs
        cases hs
      | directive body start stop =>
        rw [step_directive hr] at hs
        obtain ⟨d, _, leads⟩ := r.exists_leads body start stop { s with rest := rest }
        rw [hs] at leads
        exact leads.not_reentrant
      | unterminated start =>
        rw [step, hr] at hs
        cases hs

theorem guarded_of_run {r : Setting α σ} {s : State α σ} {o : Outcome α σ} {fuel : Nat}
    (h : r.run fuel s = some o) :
    o.result ≠ .error .reentrant ∧ o.engine = { r.engine with rendering := false } := by
  obtain ⟨t, _, ends⟩ := exists_run_iff.1 ⟨fuel, h⟩
  exact ends.guarded

end Setting

/-! ## Hooks that try to render -/

/-- An attempt to render: all that it takes but the engine. -/
structure Attempt (α : Type) where
  /-- What the hook of the attempt remembers. -/
  Memory : Type
  /-- Who is asked about directives. -/
  mode : Mode
  /-- The hook of the attempt. -/
  hook : Hook α Memory
  /-- How many steps it may take. -/
  fuel : Nat
  /-- The template. -/
  template : String
  /-- The variables. -/
  env : Environment α
  /-- The memory of the hook. -/
  memory : Memory

/-- What a hook does when it is asked: in the end it answers, and before that it may evaluate
expressions and try to render with the engine that is asking, and go by what comes of it. -/
inductive Conduct (α σ : Type) where
  /-- It answers, and leaves these variables and this memory. -/
  | answer (reply : Except String String) (env : Environment α) (memory : σ)
  /-- It evaluates an expression. -/
  | evaluate (env : Environment α) (text : String) (next : Except Error (Value α) → Conduct α σ)
  /-- It tries to render; there is an outcome if the attempt ends within its steps. -/
  | render (attempt : Attempt α) (next : Option (Outcome α attempt.Memory) → Conduct α σ)

/-- What comes of the conduct of a hook. -/
structure Performed (α σ : Type) where
  /-- The answer, the variables and the memory of the hook. -/
  answer : Except String String × Environment α × σ
  /-- The engine, as the hook leaves it. -/
  engine : Engine α
  /-- What came of the attempts to render, in order: a text or an error, if the attempt ended. -/
  tried : List (Option (Except Error String))

/-- A hook, by its conduct for each directive: its body, the offset just past it, the variables and
the memory of the hook. -/
structure ActiveHook (α σ : Type) where
  /-- What the hook does when it is asked. -/
  conduct : String → Nat → Environment α → σ → Conduct α σ

/-- What a hook remembers if the engine is where it has left it. -/
structure Shared (α σ : Type) where
  /-- What the hook itself remembers. -/
  own : σ
  /-- The engine, as the hook has left it. -/
  engine : Engine α
  /-- What has come of the attempts to render so far. -/
  tried : List (Option (Except Error String))

/-- Before the hook has been asked, the engine is marked. -/
def Shared.begun (engine : Engine α) (memory : σ) : Shared α σ :=
  ⟨memory, { engine with rendering := true }, []⟩

/-- Whether an engine is still marked after all that a hook has done, and whether all that the hook
has tried to render was refused. -/
structure Shared.Guarded (engine : Engine α) (memory : Shared α σ) : Prop where
  /-- The engine is marked and otherwise as it was. -/
  marked : memory.engine = { engine with rendering := true }
  /-- Every attempt was refused. -/
  refused : ∀ result ∈ memory.tried, result = some (.error .reentrant)

section

variable [HostObject α]

/-- What an attempt comes to with an engine. -/
def Attempt.on (a : Attempt α) (engine : Engine α) : Option (Outcome α a.Memory) :=
  engine.renderIn a.mode a.hook a.fuel a.template a.env a.memory

/-- The engine after an attempt. It stays marked if the attempt does not end. -/
def Attempt.after (a : Attempt α) (engine : Engine α) : Engine α :=
  match a.on engine with
  | some o => o.engine
  | none => { engine with rendering := true }

/-- A refusal: there is no text, and nothing else has changed. -/
def Attempt.refused (a : Attempt α) (engine : Engine α) : Outcome α a.Memory :=
  ⟨.error .reentrant, a.env, a.memory, engine⟩

/-- What comes of a conduct, with an engine that goes from each attempt to the next. -/
def Conduct.perform : Conduct α σ → Engine α → Performed α σ
  | answer reply env memory, engine => ⟨(reply, env, memory), engine, []⟩
  | evaluate env text next, engine => (next (engine.evaluate env text)).perform engine
  | render a next, engine =>
    let done := (next (a.on engine)).perform (a.after engine)
    { done with tried := (a.on engine).map Outcome.result :: done.tried }

/-- The answer of a conduct that takes for granted that all its attempts are refused. -/
def Conduct.told (engine : Engine α) : Conduct α σ → Except String String × Environment α × σ
  | answer reply env memory => (reply, env, memory)
  | evaluate env text next => (next (engine.evaluate env text)).told engine
  | render a next => (next (some (a.refused { engine with rendering := true }))).told engine

/-- The hook that does what its conduct says with the engine where it has left it. -/
def ActiveHook.shared (hook : ActiveHook α σ) : Hook α (Shared α σ) where
  handle _ body stop env memory :=
    let done := (hook.conduct body stop env memory.own).perform memory.engine
    (done.answer.1, done.answer.2.1, ⟨done.answer.2.2, done.engine, memory.tried ++ done.tried⟩)

/-- The hook that never tries to render, and takes it for granted that it would be refused. -/
def ActiveHook.told (hook : ActiveHook α σ) (engine : Engine α) : Hook α σ where
  handle _ body stop env memory := (hook.conduct body stop env memory).told engine

/-- While an engine is marked, every attempt is refused and leaves it marked; so the answer is the
one that takes this for granted. -/
theorem Conduct.perform_marked (engine : Engine α) (c : Conduct α σ) :
    (c.perform { engine with rendering := true }).answer = c.told engine ∧
      (c.perform { engine with rendering := true }).engine = { engine with rendering := true } ∧
      ∀ result ∈ (c.perform { engine with rendering := true }).tried,
        result = some (.error .reentrant) := by
  induction c with
  | answer reply env memory => exact ⟨rfl, rfl, nofun⟩
  | evaluate env text next ih => exact ih (engine.evaluate env text)
  | render a next ih =>
    have refusal : a.on { engine with rendering := true } =
        some (a.refused { engine with rendering := true }) := by
      rw [Attempt.on, Engine.renderIn, if_pos rfl, Attempt.refused]
    have unchanged : a.after { engine with rendering := true } =
        { engine with rendering := true } := by
      rw [Attempt.after, refusal]
      rfl
    obtain ⟨answer, left, refused⟩ := ih (some (a.refused { engine with rendering := true }))
    rw [perform, refusal, unchanged, told]
    exact ⟨answer, left, List.forall_mem_cons.2 ⟨rfl, refused⟩⟩

/-- What a hook answers that has not lost the mark, and what it remembers then. -/
theorem ActiveHook.shared_handle {engine : Engine α} {memory : Shared α σ}
    (guarded : memory.Guarded engine) (hook : ActiveHook α σ) (asking : Engine α) (body : String)
    (stop : Nat) (env : Environment α) :
    ∃ tried : List (Option (Except Error String)),
      (∀ result ∈ tried, result = some (.error .reentrant)) ∧
      hook.shared.handle asking body stop env memory =
        let (reply, env', own) := (hook.conduct body stop env memory.own).told engine
        (reply, env', ⟨own, { engine with rendering := true }, memory.tried ++ tried⟩) := by
  obtain ⟨answer, left, refused⟩ :=
    (hook.conduct body stop env memory.own).perform_marked engine
  refine ⟨_, refused, ?_⟩
  dsimp only [shared]
  rw [guarded.marked, answer, left]

/-- With a marked engine, a hook answers as if it took the refusals for granted. -/
theorem ActiveHook.told_mimics (hook : ActiveHook α σ) (engine : Engine α) :
    (hook.told engine).Mimics { engine with rendering := true } hook.shared Shared.own
      (Shared.Guarded engine) := by
  constructor
  · intro body stop env memory reply env' memory' guarded h
    obtain ⟨tried, _, answered⟩ := hook.shared_handle guarded _ body stop env
    rw [answered] at h
    cases h
    rfl
  · intro body stop env memory reply env' memory' guarded h
    obtain ⟨tried, refused, answered⟩ := hook.shared_handle guarded _ body stop env
    rw [answered] at h
    cases h
    exact ⟨rfl, List.forall_mem_append.2 ⟨guarded.refused, refused⟩⟩

end

end MicroTemplate.Template

namespace MicroTemplate.Engine

open Template

variable {α σ : Type} [HostObject α]

/-- Renders a template with a hook that may try to render with the same engine. The engine is marked
for the hook, and at the end the mark is taken off the engine that the hook has left, if it was this
render that had set it. -/
def renderActive (engine : Engine α) (mode : Mode) (hook : ActiveHook α σ) (fuel : Nat)
    (template : String) (env : Environment α) (memory : σ) : Option (Outcome α (Shared α σ)) :=
  (engine.renderIn mode hook.shared fuel template env (.begun engine memory)).map fun o =>
    if engine.rendering then o
    else { o with engine := { o.memory.engine with rendering := false } }

end MicroTemplate.Engine

namespace MicroTemplate.Template

variable {α σ : Type} [HostObject α]

/-! ## Sessions -/

/-- What an application does with an engine. -/
inductive Action (α : Type) where
  /-- It evaluates an expression. -/
  | evaluate (env : Environment α) (text : String)
  /-- It renders a template, with a hook that may try to render with the same engine. -/
  | render {σ : Type} (mode : Mode) (hook : ActiveHook α σ) (fuel : Nat) (template : String)
    (env : Environment α) (memory : σ)

/-- The engine that an action leaves, if the action comes to an end. -/
def Action.leaves (engine : Engine α) : Action α → Option (Engine α)
  | evaluate _ _ => some engine
  | render mode hook fuel template env memory =>
    (engine.renderActive mode hook fuel template env memory).map Outcome.engine

/-- The engine that actions leave, one after the other. -/
def session (engine : Engine α) : List (Action α) → Option (Engine α)
  | [] => some engine
  | action :: actions => (action.leaves engine).bind fun engine => session engine actions

/-- A render goes through the states of one with a hook that takes the refusals for granted, and up
to each of them every attempt was refused. -/
theorem reaches_guarded {engine : Engine α} (mode : Mode) (hook : ActiveHook α σ)
    {template : String} {env : Environment α} {memory : σ} {t : State α (Shared α σ)}
    (h : (engine.settingWith mode hook.shared template).Reaches
      (Setting.start template.toList env (.begun engine memory)) t) :
    (engine.settingWith mode (hook.told engine) template).Reaches
        (Setting.start template.toList env memory) (t.map Shared.own) ∧
      t.memory.Guarded engine :=
  Setting.Reaches.map (hook.told_mimics engine) h ⟨rfl, nofun⟩

/-- With an engine that is not marked, a render is that of a hook that takes the refusals for
granted; all attempts are refused, and at the end the engine is not marked. -/
theorem renderActive_guarded {engine : Engine α} (idle : engine.rendering = false) (mode : Mode)
    (hook : ActiveHook α σ) (fuel : Nat) (template : String) (env : Environment α) (memory : σ) :
    (engine.renderActive mode hook fuel template env memory).map (Outcome.map Shared.own) =
        engine.renderIn mode (hook.told engine) fuel template env memory ∧
      ∀ o, engine.renderActive mode hook fuel template env memory = some o →
        o.result ≠ .error .reentrant ∧ o.engine = engine ∧
          ∀ result ∈ o.memory.tried, result = some (.error .reentrant) := by
  have begun : (Shared.begun engine memory).Guarded engine := ⟨rfl, nofun⟩
  obtain ⟨same, kept⟩ := Setting.run_map (hook.told_mimics engine) mode template.utf8ByteSize fuel
    (Setting.start template.toList env (.begun engine memory)) begun
  have told : engine.renderIn mode (hook.told engine) fuel template env memory =
      (engine.renderIn mode hook.shared fuel template env (.begun engine memory)).map
        (Outcome.map Shared.own) := by
    rw [Engine.renderIn_eq_run idle, Engine.renderIn_eq_run idle]
    exact same
  rw [Engine.renderActive, told]
  cases ho : engine.renderIn mode hook.shared fuel template env (.begun engine memory) with
  | none => exact ⟨rfl, fun _ h => by cases h⟩
  | some o =>
    rw [Engine.renderIn_eq_run idle] at ho
    obtain ⟨started, left⟩ := Setting.guarded_of_run ho
    rw [Engine.settingWith_engine idle] at left
    have guarded := kept o ho
    have cleared : { o.memory.engine with rendering := false } = o.engine := by
      rw [guarded.marked, left, ← idle]
    rw [Option.map_some, idle, if_neg Bool.false_ne_true, cleared]
    refine ⟨rfl, fun o' h => ?_⟩
    cases h
    exact ⟨started, left, guarded.refused⟩

/-- Actions with an engine that is not marked leave it as it is, if they come to an end. -/
theorem eq_of_session {engine left : Engine α} (idle : engine.rendering = false)
    (actions : List (Action α)) (h : session engine actions = some left) : left = engine := by
  induction actions with
  | nil =>
    cases h
    rfl
  | cons action actions ih =>
    obtain ⟨next, hn, hs⟩ := Option.bind_eq_some_iff.1 h
    suffices next = engine by
      rw [this] at hs
      exact ih hs
    cases action with
    | evaluate env text =>
      cases hn
      rfl
    | render mode hook fuel template env memory =>
      obtain ⟨o, ho, rfl⟩ := Option.map_eq_some_iff.1 hn
      exact ((renderActive_guarded idle mode hook fuel template env memory).2 o ho).2.1

/-- The guard against a render inside a render. Whatever an application has evaluated and rendered
with an engine before, with whatever hooks and whether it failed or not, the engine is not marked
and as it was made. A render that is started then does not fail because a render is going on.
Whatever its hook tries to render is refused, each time, whether the render comes to an end or not;
at every moment its position, its open blocks, its text and its variables are those of a render with
a hook that never tries, and takes the refusals for granted, and so is what it leaves behind.
Expressions are evaluated inside the hook as they are outside. At the end of the render the mark is
off. -/
theorem sessions_guarded (functions : Functions α) (types : TypeRegistry α)
    (actions : List (Action α)) (engine : Engine α)
    (h : session (.of functions types) actions = some engine) :
    engine = .of functions types ∧
      ∀ (mode : Mode) (hook : ActiveHook α σ) (template : String) (env : Environment α)
          (memory : σ),
        (∀ t, (engine.settingWith mode hook.shared template).Reaches
            (Setting.start template.toList env (.begun engine memory)) t →
          (engine.settingWith mode (hook.told engine) template).Reaches
              (Setting.start template.toList env memory) (t.map Shared.own) ∧
            t.memory.Guarded engine) ∧
        ∀ fuel,
          (engine.renderActive mode hook fuel template env memory).map (Outcome.map Shared.own) =
              engine.renderIn mode (hook.told engine) fuel template env memory ∧
            ∀ o, engine.renderActive mode hook fuel template env memory = some o →
              o.result ≠ .error .reentrant ∧ o.engine = engine ∧
                ∀ result ∈ o.memory.tried, result = some (.error .reentrant) := by
  have same : engine = .of functions types := eq_of_session rfl actions h
  have idle : engine.rendering = false := by
    rw [same]
    rfl
  refine ⟨same, fun mode hook template env memory => ⟨fun t ht => ?_, fun fuel => ?_⟩⟩
  · exact reaches_guarded mode hook ht
  · exact renderActive_guarded idle mode hook fuel template env memory

/-- The hook that tries twice to render the directive and then answers, for examples. -/
def stubborn (reply : Except String String) : ActiveHook Empty Unit where
  conduct body _ env _ :=
    let attempt : Attempt Empty := ⟨Unit, .interpret, .silent, 1, body, env, ()⟩
    .render attempt fun _ => .render attempt fun _ => .answer reply env ()

/-- After a render that fails in a hook which has been refused twice, and after an evaluation, there
is a render whose hook is refused twice at each of two directives. -/
theorem sessions_guarded_stubborn :
    session Engine.bare [.render .interpret (stubborn (.error "no")) 3 "a@[x]" .empty (),
        .evaluate .empty "1"] = some .bare ∧
      ∃ o, Engine.bare.renderActive .delegate (stubborn (.ok "!")) 3 "@[x]@[y]" .empty () =
          some o ∧
        o.result = .ok "!!" ∧ o.engine = .bare ∧ o.memory.tried.length = 4 ∧
          ∀ result ∈ o.memory.tried, result = some (.error .reentrant) := by
  have before : session Engine.bare [
      .render .interpret (stubborn (.error "no")) 3 "a@[x]" .empty (),
      .evaluate .empty "1"] = some .bare := by
    cbv
  have rendered : ∃ o,
      Engine.bare.renderActive .delegate (stubborn (.ok "!")) 3 "@[x]@[y]" .empty () = some o ∧
        o.result = .ok "!!" ∧ o.memory.tried.length = 4 :=
    ⟨_, by cbv, rfl, rfl⟩
  obtain ⟨o, ho, text, attempts⟩ := rendered
  have guarded := (sessions_guarded _ _ _ _ before).2 .delegate (stubborn (.ok "!")) "@[x]@[y]"
    .empty ()
  obtain ⟨_, left, refused⟩ := (guarded.2 3).2 o ho
  exact ⟨before, o, ho, text, left, attempts, refused⟩

end MicroTemplate.Template
