import Mathlib
import MicroTemplate.Proofs.Expression.Stacks
import MicroTemplate.Template.Render

/-!
# What a step of a render can do

`Leads` lists everything that a directive of the engine can lead to, one rule for each way, with the
conditions under which it is taken. The rules are read off the operations once, here; what is said
about whole renders goes by the rules. The steps of a render make up the relation `Reaches`, and a
render has an outcome exactly if it reaches a state in which it ends.
-/

namespace MicroTemplate.Template

open Expression

variable {α σ : Type}

/-- Whether nothing happens at a directive while text is not shown. -/
def Directive.isSilent : Directive → Bool
  | .output _ | .assign _ | .foreign => true
  | _ => false

/-- What an operation leads to in a state. A failure leaves the state as it is. -/
def Progress.of (s : State α σ) : Except Error (State α σ) → Progress α σ
  | .ok t => .next t
  | .error e => .failed e s

/-- Text changes nothing but the output. -/
theorem State.emit_eq (s : State α σ) (text : String) :
    s.emit text = { s with output := if s.emitting then s.output ++ text else s.output } := by
  rw [State.emit]
  split
  · rfl
  · rfl

namespace Setting

variable [HostObject α]

/-- What a directive leads to, which begins at the byte `start` and ends before `stop`. The state is
the one in which the segments after the directive come next. -/
inductive Leads (r : Setting α σ) (body : List Char) (start stop : Nat) :
    Directive → State α σ → Progress α σ → Prop where
  /-- While text is not shown, directives without blocks are passed over, except listings. -/
  | ignored {d s} (he : s.emitting = false) (hd : d.isSilent) :
    Leads r body start stop d s (.next s)
  /-- The value of an expression is shown. -/
  | output {e s text} (he : s.emitting = true) (hv : evaluateText (r.context s) e = .ok text) :
    Leads r body start stop (.output e) s (.next { s with output := s.output ++ text })
  /-- An expression to be shown fails. -/
  | outputFails {e s error} (he : s.emitting = true)
    (hv : evaluateText (r.context s) e = .error error) :
    Leads r body start stop (.output e) s (.failed error s)
  /-- A name is bound. -/
  | assign {a s target e value name} (he : s.emitting = true)
    (hs : Text.splitFirst? (· == '=') a = some (target, e))
    (hv : evaluate (r.context s) e = .ok value)
    (hn : evaluateName (r.context s) target = .ok name) :
    Leads r body start stop (.assign a) s (.next { s with env := s.env.set name value })
  /-- An assignment without an equals sign does nothing. -/
  | unassigned {a s} (he : s.emitting = true)
    (hs : Text.splitFirst? (· == '=') a = none) :
    Leads r body start stop (.assign a) s (.next s)
  /-- The value of an assignment fails. -/
  | valueFails {a s target e error} (he : s.emitting = true)
    (hs : Text.splitFirst? (· == '=') a = some (target, e))
    (hv : evaluate (r.context s) e = .error error) :
    Leads r body start stop (.assign a) s (.failed error s)
  /-- The name of an assignment fails. -/
  | nameFails {a s target e value error} (he : s.emitting = true)
    (hs : Text.splitFirst? (· == '=') a = some (target, e))
    (hv : evaluate (r.context s) e = .ok value)
    (hn : evaluateName (r.context s) target = .error error) :
    Leads r body start stop (.assign a) s (.failed error s)
  /-- The variables are shown, whether text is or not. -/
  | listing {s} :
    Leads r body start stop .listing s (.next { s with output := s.output ++ s.env.list })
  /-- The hook answers. -/
  | foreign {s text env memory} (he : s.emitting = true)
    (hh : r.hook.handle r.engine (.ofList body) stop s.env s.memory = (.ok text, env, memory)) :
    Leads r body start stop .foreign s
      (.next { s with output := s.output ++ text, env := env, memory := memory })
  /-- The hook fails. -/
  | foreignFails {s message env memory} (he : s.emitting = true)
    (hh : r.hook.handle r.engine (.ofList body) stop s.env s.memory =
      (.error message, env, memory)) :
    Leads r body start stop .foreign s
      (.failed (.hook (.ofList body) message) { s with env := env, memory := memory })
  /-- A conditional section opens and is shown or not. -/
  | openConditional {c s holds} (he : s.emitting = true)
    (hv : evaluateBool (r.context s) c = .ok holds) :
    Leads r body start stop (.openConditional c) s
      (.next { s.push (.conditional true) with emitting := holds })
  /-- The condition of a section fails. -/
  | conditionFails {c s error} (he : s.emitting = true)
    (hv : evaluateBool (r.context s) c = .error error) :
    Leads r body start stop (.openConditional c) s (.failed error s)
  /-- A conditional section opens inside one that is passed over. -/
  | openConditionalIgnored {c s} (he : s.emitting = false) :
    Leads r body start stop (.openConditional c) s (.next (s.push (.conditional false)))
  /-- A loop opens and is shown or not. -/
  | openLoop {c s holds} (he : s.emitting = true)
    (hv : evaluateBool (r.context s) c = .ok holds) :
    Leads r body start stop (.openLoop c) s
      (.next { s.push (.loop s.rest c true) with emitting := holds })
  /-- The condition of a loop fails at its beginning. -/
  | loopFails {c s error} (he : s.emitting = true)
    (hv : evaluateBool (r.context s) c = .error error) :
    Leads r body start stop (.openLoop c) s (.failed error s)
  /-- A loop opens inside a section that is passed over. -/
  | openLoopIgnored {c s} (he : s.emitting = false) :
    Leads r body start stop (.openLoop c) s (.next (s.push (.loop s.rest c false)))
  /-- An iteration opens and the first element is bound. -/
  | openIteration {header s target source value name first items} (he : s.emitting = true)
    (hh : splitHeader? header = some (target, source))
    (hv : evaluate (r.context s) source = .ok value)
    (hn : evaluateName (r.context s) target = .ok name)
    (hi : value.elements?.getD [] = first :: items) :
    Leads r body start stop (.openIteration header) s
      (.next { s.push (.iteration s.rest name items true) with env := s.env.set name first })
  /-- An iteration without elements opens. -/
  | openEmpty {header s target source value name} (he : s.emitting = true)
    (hh : splitHeader? header = some (target, source))
    (hv : evaluate (r.context s) source = .ok value)
    (hn : evaluateName (r.context s) target = .ok name)
    (hi : value.elements?.getD [] = []) :
    Leads r body start stop (.openIteration header) s
      (.next { s.push (.iteration s.rest name [] true) with emitting := false })
  /-- An iteration whose header does not name both opens. -/
  | openHeadless {header s} (he : s.emitting = true) (hh : splitHeader? header = none) :
    Leads r body start stop (.openIteration header) s
      (.next { s.push (.iteration s.rest "" [] true) with emitting := false })
  /-- The source of an iteration fails. -/
  | sourceFails {header s target source error} (he : s.emitting = true)
    (hh : splitHeader? header = some (target, source))
    (hv : evaluate (r.context s) source = .error error) :
    Leads r body start stop (.openIteration header) s (.failed error s)
  /-- The name of an iteration fails. -/
  | targetFails {header s target source value error} (he : s.emitting = true)
    (hh : splitHeader? header = some (target, source))
    (hv : evaluate (r.context s) source = .ok value)
    (hn : evaluateName (r.context s) target = .error error) :
    Leads r body start stop (.openIteration header) s (.failed error s)
  /-- An iteration opens inside a section that is passed over. -/
  | openIterationIgnored {header s} (he : s.emitting = false) :
    Leads r body start stop (.openIteration header) s
      (.next (s.push (.iteration s.rest "" [] false)))
  /-- A section that may be shown turns to its other part. -/
  | otherwise {s frames} (hf : s.frames = .conditional true :: frames) :
    Leads r body start stop (.close .otherwise) s (.next { s with emitting := !s.emitting })
  /-- A section that is passed over stays so. -/
  | otherwiseIgnored {s frames} (hf : s.frames = .conditional false :: frames) :
    Leads r body start stop (.close .otherwise) s (.next s)
  /-- A section ends after which text is shown. -/
  | endConditional {s frames} (hf : s.frames = .conditional true :: frames) :
    Leads r body start stop (.close .endConditional) s
      (.next { s with frames := frames, emitting := true })
  /-- A section ends that was passed over. -/
  | endConditionalIgnored {s frames} (hf : s.frames = .conditional false :: frames) :
    Leads r body start stop (.close .endConditional) s (.next { s with frames := frames })
  /-- A loop goes back to its beginning. -/
  | again {s resume c frames} (hf : s.frames = .loop resume c true :: frames)
    (hv : evaluateBool (r.context s) c = .ok true) :
    Leads r body start stop (.close .endLoop) s (.next { s with rest := resume, emitting := true })
  /-- A loop ends. -/
  | endLoop {s resume c frames} (hf : s.frames = .loop resume c true :: frames)
    (hv : evaluateBool (r.context s) c = .ok false) :
    Leads r body start stop (.close .endLoop) s
      (.next { s with frames := frames, emitting := true })
  /-- The condition of a loop fails at its end. -/
  | againFails {s resume c frames error} (hf : s.frames = .loop resume c true :: frames)
    (hv : evaluateBool (r.context s) c = .error error) :
    Leads r body start stop (.close .endLoop) s (.failed error s)
  /-- A loop ends that was passed over. -/
  | endLoopIgnored {s resume c frames} (hf : s.frames = .loop resume c false :: frames) :
    Leads r body start stop (.close .endLoop) s
      (.next { s with frames := frames, emitting := false })
  /-- An iteration goes back to its beginning with the next element. -/
  | nextItem {s resume name item items active frames}
    (hf : s.frames = .iteration resume name (item :: items) active :: frames) :
    Leads r body start stop (.close .endIteration) s (.next { s with
      rest := resume, frames := .iteration resume name items active :: frames, emitting := true,
      env := s.env.set name item })
  /-- An iteration ends. -/
  | endIteration {s resume name active frames}
    (hf : s.frames = .iteration resume name [] active :: frames) :
    Leads r body start stop (.close .endIteration) s
      (.next { s with frames := frames, emitting := active })
  /-- The innermost open block is missing or of another kind than a closer wants. -/
  | unmatched {closer s} (hf : s.frames.head?.map Frame.block ≠ some closer.block) :
    Leads r body start stop (.close closer) s (.failed (unexpected closer start) s)

section

variable (r : Setting α σ) (body : List Char) (start stop : Nat)

/-- What showing a value leads to. -/
theorem output_leads (e : List Char) (s : State α σ) :
    r.Leads body start stop (.output e) s (.of s (r.output e s)) := by
  rw [Setting.output]
  by_cases he : s.emitting = true
  · rw [if_pos he]
    cases hv : evaluateText (r.context s) e with
    | error error => exact .outputFails he hv
    | ok text => exact .output he hv
  · rw [if_neg he]
    exact .ignored (eq_false_of_ne_true he) rfl

/-- What an assignment leads to. -/
theorem assign_leads (a : List Char) (s : State α σ) :
    r.Leads body start stop (.assign a) s (.of s (r.assign a s)) := by
  rw [Setting.assign]
  by_cases he : s.emitting = true
  · rw [if_pos he]
    cases hs : Text.splitFirst? (· == '=') a with
    | none => exact .unassigned he hs
    | some split =>
      obtain ⟨target, e⟩ := split
      dsimp only
      cases hv : evaluate (r.context s) e with
      | error error => exact .valueFails he hs hv
      | ok value =>
        rw [ok_bind]
        cases hn : evaluateName (r.context s) target with
        | error error => exact .nameFails he hs hv hn
        | ok name => exact .assign he hs hv hn
  · rw [if_neg he]
    exact .ignored (eq_false_of_ne_true he) rfl

/-- What opening a conditional section leads to. -/
theorem openConditional_leads (c : List Char) (s : State α σ) :
    r.Leads body start stop (.openConditional c) s (.of s (r.openConditional c s)) := by
  rw [Setting.openConditional]
  by_cases he : s.emitting = true
  · rw [if_pos he, he]
    cases hv : evaluateBool (r.context s) c with
    | error error => exact .conditionFails he hv
    | ok holds => exact .openConditional he hv
  · rw [if_neg he, eq_false_of_ne_true he]
    exact .openConditionalIgnored (eq_false_of_ne_true he)

/-- What opening a loop leads to. -/
theorem openLoop_leads (c : List Char) (s : State α σ) :
    r.Leads body start stop (.openLoop c) s (.of s (r.openLoop c s)) := by
  rw [Setting.openLoop]
  by_cases he : s.emitting = true
  · rw [if_pos he, he]
    cases hv : evaluateBool (r.context s) c with
    | error error => exact .loopFails he hv
    | ok holds => exact .openLoop he hv
  · rw [if_neg he, eq_false_of_ne_true he]
    exact .openLoopIgnored (eq_false_of_ne_true he)

/-- What opening an iteration leads to. -/
theorem openIteration_leads (header : List Char) (s : State α σ) :
    r.Leads body start stop (.openIteration header) s (.of s (r.openIteration header s)) := by
  rw [Setting.openIteration]
  dsimp only
  by_cases he : s.emitting = true
  · rw [if_pos he, he]
    cases hh : splitHeader? header with
    | none => exact .openHeadless he hh
    | some split =>
      obtain ⟨target, source⟩ := split
      dsimp only
      cases hv : evaluate (r.context s) source with
      | error error => exact .sourceFails he hh hv
      | ok value =>
        rw [ok_bind]
        cases hn : evaluateName (r.context s) target with
        | error error => exact .targetFails he hh hv hn
        | ok name =>
          rw [ok_bind]
          cases hi : value.elements?.getD [] with
          | nil => exact .openEmpty he hh hv hn hi
          | cons first items => exact .openIteration he hh hv hn hi
  · have hs : s.emitting = false := eq_false_of_ne_true he
    have same : ({ s.push (.iteration s.rest "" [] false) with emitting := false } : State α σ) =
        s.push (.iteration s.rest "" [] false) := by
      rw [← hs]
      rfl
    rw [if_neg he, hs, same]
    exact .openIterationIgnored hs

/-- What the end of a loop leads to. -/
theorem endLoop_leads {resume : List Segment} {c : List Char} {active : Bool}
    {frames : List (Frame α)} {s : State α σ} (hf : s.frames = .loop resume c active :: frames) :
    r.Leads body start stop (.close .endLoop) s (.of s (r.endLoop resume c active frames s)) := by
  rw [Setting.endLoop]
  cases active with
  | false => exact .endLoopIgnored hf
  | true =>
    rw [if_pos rfl]
    cases hv : evaluateBool (r.context s) c with
    | error error => exact .againFails hf hv
    | ok holds =>
      cases holds with
      | false => exact .endLoop hf hv
      | true => exact .again hf hv

/-- What a closer leads to. -/
theorem close_leads (closer : Closer) (s : State α σ) :
    r.Leads body start stop (.close closer) s (.of s (r.close closer start s)) := by
  rw [Setting.close.eq_def]
  cases hf : s.frames with
  | nil => cases closer <;> exact .unmatched (by rw [hf]; exact nofun)
  | cons f frames =>
    cases closer with
    | otherwise =>
      cases f with
      | conditional active =>
        cases active with
        | false => exact .otherwiseIgnored hf
        | true =>
          have leads : r.Leads body start stop (.close .otherwise) s _ := .otherwise hf
          rw [hf] at leads
          exact leads
      | loop _ _ _ | iteration _ _ _ _ => exact .unmatched (by rw [hf]; exact nofun)
    | endConditional =>
      cases f with
      | conditional active =>
        cases active with
        | false => exact .endConditionalIgnored hf
        | true => exact .endConditional hf
      | loop _ _ _ | iteration _ _ _ _ => exact .unmatched (by rw [hf]; exact nofun)
    | endLoop =>
      cases f with
      | loop resume c active => exact r.endLoop_leads body start stop hf
      | conditional _ | iteration _ _ _ _ => exact .unmatched (by rw [hf]; exact nofun)
    | endIteration =>
      cases f with
      | iteration resume name items active =>
        cases items with
        | nil => exact .endIteration hf
        | cons item items => exact .nextItem hf
      | conditional _ | loop _ _ _ => exact .unmatched (by rw [hf]; exact nofun)

/-- What a foreign directive leads to. -/
theorem external_leads (s : State α σ) :
    r.Leads body start stop .foreign s (r.external body stop s) := by
  rw [Setting.external]
  by_cases he : s.emitting = true
  · rw [if_pos he]
    split
    · next hh => exact .foreign he hh
    · next hh => exact .foreignFails he hh
  · rw [if_neg he]
    exact .ignored (eq_false_of_ne_true he) rfl

/-- Every directive leads to what one of the rules says. -/
theorem directive_leads (hm : r.mode = .interpret) (s : State α σ) :
    r.Leads body start stop (Directive.ofBody body) s (r.directive body start stop s) := by
  rw [Setting.directive, hm]
  cases hd : Directive.ofBody body with
  | output e => exact r.output_leads body start stop e s
  | openConditional c => exact r.openConditional_leads body start stop c s
  | openLoop c => exact r.openLoop_leads body start stop c s
  | openIteration header => exact r.openIteration_leads body start stop header s
  | close closer => exact r.close_leads body start stop closer s
  | assign a => exact r.assign_leads body start stop a s
  | listing => exact .listing
  | foreign => exact r.external_leads body start stop s

/-- In either mode, a directive leads to what one of the rules says of it, or of a foreign one. -/
theorem exists_leads (s : State α σ) :
    ∃ d, (d = .foreign ∨ d = Directive.ofBody body) ∧
      r.Leads body start stop d s (r.directive body start stop s) := by
  cases hm : r.mode with
  | interpret => exact ⟨_, .inr rfl, r.directive_leads body start stop hm s⟩
  | delegate =>
    have asked := r.external_leads body start stop s
    refine ⟨_, .inl rfl, ?_⟩
    rwa [Setting.directive, hm]

end

/-- The rules leave no choice. -/
theorem Leads.unique {r : Setting α σ} {body : List Char} {start stop : Nat} {d : Directive}
    {s : State α σ} {p q : Progress α σ} (h : r.Leads body start stop d s p)
    (h' : r.Leads body start stop d s q) : p = q := by
  cases h <;> cases h' <;> simp_all [Directive.isSilent, Frame.block, Closer.block]

/-- No directive is the end of a render. -/
theorem Leads.not_done {r : Setting α σ} {body : List Char} {start stop : Nat} {d : Directive}
    {s t : State α σ} (h : r.Leads body start stop d s (.done t)) : False := by
  cases h

/-! ## Failures of expressions and failures of structure -/

/-- Only a closer fails because of the structure of a template. -/
theorem Leads.structural {r : Setting α σ} {body : List Char} {start stop offset : Nat}
    {d : Directive} {s t : State α σ} {fault : StructuralFault}
    (h : r.Leads body start stop d s (.failed (.structural offset fault) t)) :
    ∃ closer, d = .close closer ∧ s.frames.head?.map Frame.block ≠ some closer.block ∧
      offset = start ∧ fault = .unexpectedCloser closer := by
  cases h with
  | outputFails _ hv => exact absurd hv evaluateText_ne_structural
  | valueFails _ _ hv => exact absurd hv evaluate_ne_structural
  | nameFails _ _ _ hn => exact absurd hn evaluateName_ne_structural
  | conditionFails _ hv => exact absurd hv evaluateBool_ne_structural
  | loopFails _ hv => exact absurd hv evaluateBool_ne_structural
  | sourceFails _ _ hv => exact absurd hv evaluate_ne_structural
  | targetFails _ _ _ hn => exact absurd hn evaluateName_ne_structural
  | againFails _ hv => exact absurd hv evaluateBool_ne_structural
  | unmatched hf => exact ⟨_, rfl, hf, rfl, rfl⟩

/-! ## Steps -/

/-- What a step leads to. -/
inductive Takes (r : Setting α σ) (s : State α σ) : Progress α σ → Prop where
  /-- The template ends outside of all blocks. -/
  | done (hr : s.rest = []) (hf : s.frames = []) : Takes r s (.done s)
  /-- The template ends inside a block. -/
  | unclosed {f frames} (hr : s.rest = []) (hf : s.frames = f :: frames) :
    Takes r s (.failed (.structural r.size (.unclosed f.block)) s)
  /-- Literal text comes next. -/
  | literal {text rest} (hr : s.rest = .literal text :: rest) :
    Takes r s (.next ({ s with rest := rest }.emit (.ofList text)))
  /-- A directive comes next that is not closed. -/
  | unterminated {start rest} (hr : s.rest = .unterminated start :: rest) :
    Takes r s (.failed (.structural start .unterminatedDirective) s)
  /-- A directive comes next and leads to something. -/
  | directive {body start stop rest p} (hr : s.rest = .directive body start stop :: rest)
    (leads : r.Leads body start stop (Directive.ofBody body) { s with rest := rest } p) :
    Takes r s p

section

variable {r : Setting α σ} {s t : State α σ}

/-- A step at a literal text. -/
theorem step_literal {text : List Char} {rest : List Segment}
    (hs : s.rest = .literal text :: rest) :
    r.step s = .next ({ s with rest := rest }.emit (.ofList text)) := by
  rw [step, hs]

/-- A step at a directive. -/
theorem step_directive {body : List Char} {start stop : Nat} {rest : List Segment}
    (hs : s.rest = .directive body start stop :: rest) :
    r.step s = r.directive body start stop { s with rest := rest } := by
  rw [step, hs]

/-- A step at a directive leads to what the rules say. -/
theorem Leads.step_eq (hm : r.mode = .interpret) {body : List Char} {start stop : Nat}
    {rest : List Segment} {p : Progress α σ} (hs : s.rest = .directive body start stop :: rest)
    (h : r.Leads body start stop (Directive.ofBody body) { s with rest := rest } p) :
    r.step s = p := by
  rw [step_directive hs]
  exact (r.directive_leads body start stop hm _).unique h

/-- Every step is what one of the rules says. -/
theorem step_takes (hm : r.mode = .interpret) (s : State α σ) : r.Takes s (r.step s) := by
  cases hs : s.rest with
  | nil =>
    rw [step, hs]
    cases hf : s.frames with
    | nil => exact .done hs hf
    | cons f frames => exact .unclosed hs hf
  | cons segment rest =>
    cases segment with
    | literal text =>
      rw [step_literal hs]
      exact .literal hs
    | directive body start stop =>
      rw [step_directive hs]
      exact .directive hs (r.directive_leads body start stop hm _)
    | unterminated start =>
      rw [step, hs]
      exact .unterminated hs

/-- What a step says, by the rules. -/
theorem takes_of_step (hm : r.mode = .interpret) {p : Progress α σ} (h : r.step s = p) :
    r.Takes s p := by
  rw [← h]
  exact step_takes hm s

end

/-! ## Runs -/

/-- The states that a render comes to from a state, itself included. -/
def Reaches (r : Setting α σ) : State α σ → State α σ → Prop :=
  Relation.ReflTransGen fun s t => r.step s = .next t

/-- Whether a render ends in a state, with what outcome. -/
def Ends (r : Setting α σ) (s : State α σ) (o : Outcome α σ) : Prop :=
  (∃ t, r.step s = .done t ∧
      o = ⟨.ok t.output, t.env, t.memory, { r.engine with rendering := false }⟩) ∨
    ∃ e t, r.step s = .failed e t ∧
      o = ⟨.error e, t.env, t.memory, { r.engine with rendering := false }⟩

section

variable {r : Setting α σ} {s t : State α σ} {o : Outcome α σ}

/-- The step that a run begins with. -/
theorem run_succ (r : Setting α σ) (fuel : Nat) (s : State α σ) (o : Outcome α σ) :
    r.run (fuel + 1) s = some o ↔
      r.Ends s o ∨ ∃ t, r.step s = .next t ∧ r.run fuel t = some o := by
  rw [run, Ends]
  cases h : r.step s with
  | next t => simp
  | done t => simp [eq_comm]
  | failed e t =>
    constructor
    · intro ho
      cases ho
      exact .inl (.inr ⟨e, t, rfl, rfl⟩)
    · rintro ((⟨_, hd, _⟩ | ⟨_, _, hf, rfl⟩) | ⟨_, hn, _⟩)
      · cases hd
      · cases hf
        rfl
      · cases hn

theorem run_next (hs : r.step s = .next t) (fuel : Nat) : r.run (fuel + 1) s = r.run fuel t := by
  rw [run, hs]

theorem run_failed {e : Error} (hs : r.step s = .failed e t) (fuel : Nat) :
    r.run (fuel + 1) s =
      some ⟨.error e, t.env, t.memory, { r.engine with rendering := false }⟩ := by
  rw [run, hs]

/-- A run from a state that a render comes to makes up the end of the render. -/
theorem Reaches.run (h : r.Reaches s t) {fuel : Nat} (ht : r.run fuel t = some o) :
    ∃ fuel', r.run fuel' s = some o := by
  induction h using Relation.ReflTransGen.head_induction_on with
  | refl => exact ⟨fuel, ht⟩
  | head hs _ ih =>
    obtain ⟨fuel', hf⟩ := ih
    exact ⟨fuel' + 1, (run_next hs fuel').trans hf⟩

/-- A run goes through the states that the render comes to. -/
theorem Reaches.run_of_run (h : r.Reaches s t) {fuel : Nat} (hs : r.run fuel s = some o) :
    ∃ fuel' ≤ fuel, r.run fuel' t = some o := by
  induction h with
  | refl => exact ⟨fuel, Nat.le_refl _, hs⟩
  | tail _ hstep ih =>
    obtain ⟨fuel', hle, hf⟩ := ih
    cases fuel' with
    | zero => cases hf
    | succ n =>
      rw [run_next hstep] at hf
      exact ⟨n, by omega, hf⟩

/-- A render has an outcome exactly if it reaches a state in which it ends. -/
theorem exists_run_iff :
    (∃ fuel, r.run fuel s = some o) ↔ ∃ t, r.Reaches s t ∧ r.Ends t o := by
  constructor
  · rintro ⟨fuel, h⟩
    induction fuel generalizing s with
    | zero => cases h
    | succ fuel ih =>
      rcases (run_succ r fuel s o).1 h with he | ⟨t, ht, hr⟩
      · exact ⟨s, .refl, he⟩
      · obtain ⟨u, hu, he⟩ := ih hr
        exact ⟨u, .head ht hu, he⟩
  · rintro ⟨t, ht, he⟩
    have ended : r.run 1 t = some o := (run_succ r 0 t o).2 (.inl he)
    exact ht.run ended

/-- What a run comes to within some steps, it comes to within more. -/
theorem run_mono {o : Outcome α σ} {fuel more : Nat} (h : r.run fuel s = some o)
    (hle : fuel ≤ more) : r.run more s = some o := by
  induction fuel generalizing s more with
  | zero => cases h
  | succ fuel ih =>
    cases more with
    | zero => omega
    | succ more =>
      rcases (run_succ r fuel s o).1 h with he | ⟨t, ht, hr⟩
      · exact (run_succ r more s o).2 (.inl he)
      · exact (run_succ r more s o).2 (.inr ⟨t, ht, ih hr (by omega)⟩)

/-- A render has at most one outcome, however many steps it may take. -/
theorem run_unique {o' : Outcome α σ} {fuel fuel' : Nat} (h : r.run fuel s = some o)
    (h' : r.run fuel' s = some o') : o = o' := by
  induction fuel generalizing s fuel' with
  | zero => cases h
  | succ fuel ih =>
    cases fuel' with
    | zero => cases h'
    | succ fuel' =>
      rw [run] at h h'
      cases hs : r.step s with
      | next t =>
        rw [hs] at h h'
        exact ih h h'
      | done t =>
        rw [hs] at h h'
        exact Option.some.inj (h.symm.trans h')
      | failed e t =>
        rw [hs] at h h'
        exact Option.some.inj (h.symm.trans h')

/-- From a state that a render comes to it has the same outcomes. -/
theorem Reaches.exists_run_iff (h : r.Reaches s t) :
    (∃ fuel, r.run fuel s = some o) ↔ ∃ fuel, r.run fuel t = some o := by
  constructor
  · rintro ⟨fuel, hs⟩
    obtain ⟨fuel', _, ht⟩ := h.run_of_run hs
    exact ⟨fuel', ht⟩
  · rintro ⟨fuel, ht⟩
    exact h.run ht

/-- At the end of a template, outside of all blocks, the text so far is the outcome. -/
theorem exists_run_iff_of_end (hr : s.rest = []) (hf : s.frames = []) :
    (∃ fuel, r.run fuel s = some o) ↔
      o = ⟨.ok s.output, s.env, s.memory, { r.engine with rendering := false }⟩ := by
  have ended : r.step s = .done s := by rw [step, hr, hf]
  constructor
  · rintro ⟨fuel, h⟩
    cases fuel with
    | zero => cases h
    | succ fuel =>
      rw [run, ended] at h
      cases h
      rfl
  · rintro rfl
    exact ⟨1, by rw [run, ended]⟩

/-- Where a step fails, the failure is the outcome. -/
theorem exists_run_iff_of_failed {e : Error} (hs : r.step s = .failed e t) :
    (∃ fuel, r.run fuel s = some o) ↔
      o = ⟨.error e, t.env, t.memory, { r.engine with rendering := false }⟩ := by
  constructor
  · rintro ⟨fuel, h⟩
    exact run_unique h (run_failed hs 0)
  · rintro rfl
    exact ⟨1, run_failed hs 0⟩

/-- Literal text is taken over if text is shown. -/
theorem reaches_literalBefore (r : Setting α σ) (s : State α σ) (text : List Char)
    (rest : List Segment) :
    r.Reaches { s with rest := literalBefore text rest }
      ({ s with rest := rest }.emit (.ofList text)) := by
  cases text with
  | nil =>
    have same : ({ s with rest := rest } : State α σ).emit (.ofList []) =
        { s with rest := rest } := by
      simp [State.emit]
    rw [same]
    exact .refl
  | cons c text => exact .single (step_literal rfl)

/-- What holds at the beginning of a render and is kept by every step holds in every state that the
render reaches. -/
theorem Reaches.invariant {holds : State α σ → Prop} (h : r.Reaches s t)
    (kept : ∀ t u, holds t → r.step t = .next u → holds u) (hs : holds s) : holds t := by
  induction h with
  | refl => exact hs
  | tail _ hstep ih => exact kept _ _ ih hstep

end

end Setting

end MicroTemplate.Template

namespace MicroTemplate.Engine

open Calendar Template

/-- What stays the same while an engine renders a template without a hook. -/
def setting {α : Type} (engine : Engine α) (template : String) : Setting α Unit :=
  ⟨{ engine with rendering := true }, .silent, .interpret, template.utf8ByteSize⟩

/-- What stays the same while an engine renders a template with a hook. -/
def settingWith {α σ : Type} (engine : Engine α) (mode : Mode) (hook : Hook α σ)
    (template : String) : Setting α σ :=
  ⟨{ engine with rendering := true }, hook, mode, template.utf8ByteSize⟩

/-- With the mark taken off, the engine of a render is the one that it was begun with. -/
theorem settingWith_engine {α σ : Type} {engine : Engine α} (hr : engine.rendering = false)
    (mode : Mode) (hook : Hook α σ) (template : String) :
    ({ (engine.settingWith mode hook template).engine with rendering := false } : Engine α) =
      engine := by
  rw [settingWith, ← hr]

section

variable {α : Type} [HostObject α] {engine : Engine α} (hr : engine.rendering = false)

include hr

/-- An engine that is not rendering takes the steps of a render. -/
theorem renderIn_eq_run {σ : Type} (mode : Mode) (hook : Hook α σ) (fuel : Nat) (template : String)
    (env : Environment α) (memory : σ) :
    engine.renderIn mode hook fuel template env memory =
      (engine.settingWith mode hook template).run fuel
        (Setting.start template.toList env memory) := by
  rw [renderIn, hr, if_neg Bool.false_ne_true]
  rfl

/-- The same of a render without a hook. -/
theorem render_eq_run (fuel : Nat) (template : String) (env : Environment α) :
    engine.render fuel template env =
      (engine.setting template).run fuel (Setting.start template.toList env ()) :=
  renderIn_eq_run hr .interpret .silent fuel template env ()

/-- A render that comes to the end of its template, outside of all blocks, has one outcome. -/
theorem exists_renderIn_iff {σ : Type} {mode : Mode} {hook : Hook α σ} {template : String}
    {env : Environment α} {memory : σ} {t : State α σ}
    (h : (engine.settingWith mode hook template).Reaches
      (Setting.start template.toList env memory) t)
    (ht : t.rest = []) (hf : t.frames = []) (o : Outcome α σ) :
    (∃ fuel, engine.renderIn mode hook fuel template env memory = some o) ↔
      o = ⟨.ok t.output, t.env, t.memory, engine⟩ := by
  simp only [renderIn_eq_run hr]
  rw [h.exists_run_iff, Setting.exists_run_iff_of_end ht hf, settingWith_engine hr]

/-- The same of a render without a hook. -/
theorem exists_render_iff {template : String} {env : Environment α} {t : State α Unit}
    (h : (engine.setting template).Reaches (Setting.start template.toList env ()) t)
    (ht : t.rest = []) (hf : t.frames = []) (o : Outcome α Unit) :
    (∃ fuel, engine.render fuel template env = some o) ↔ o = ⟨.ok t.output, t.env, (), engine⟩ :=
  exists_renderIn_iff hr h ht hf o

end

/-- The beginning of the year 2000, for examples. -/
def firstMoment : Calendar.DateTime :=
  (Calendar.DateTime.of? ((Calendar.Date.of? 2000 1 1).get rfl) 0 0 0).get rfl

/-- An engine without functions and without registered members, for examples. -/
def bare : Engine Empty := .of (.none firstMoment 0) .empty

/-- An engine with the built-in functions at some moment, for examples. Its lists can have as many
values as 72 bytes go into the addresses that there are. -/
def stocked (moment : Calendar.DateTime) : Engine Empty :=
  .of (.standard moment (9223372036854775807 / 72)) .empty

end MicroTemplate.Engine
