import MicroTemplate.Proofs.Template.Interpretation
import MicroTemplate.Proofs.Template.Joining

/-!
# Rendering two texts put together

A render of a text that succeeds leaves no block open, so the same text with another one behind it
is rendered to the same point; there the second text begins, with the variables as the first left
them. From then on every step is the step of the second text by itself, with other offsets and with
more text before what it shows.
-/

namespace MicroTemplate

/-- An error of a text that comes `n` bytes later. -/
def Error.later (n : Nat) : Error → Error
  | .structural offset fault => .structural (n + offset) fault
  | e => e

theorem Error.later_eq_self {n : Nat} {e : Error}
    (h : ∀ offset fault, e ≠ .structural offset fault) : e.later n = e := by
  cases e with
  | structural offset fault => exact absurd rfl (h offset fault)
  | evaluation expression cause => rfl
  | reentrant => rfl
  | hook directive message => rfl

end MicroTemplate

namespace MicroTemplate.Template

open Expression Text

variable {α σ : Type}

/-! ## The same render at a later place -/

/-- An open block of a text that comes `n` bytes later. -/
def Frame.later (n : Nat) : Frame α → Frame α
  | conditional active => conditional active
  | loop resume c active => loop (resume.map (Segment.later n)) c active
  | iteration resume name items active =>
    iteration (resume.map (Segment.later n)) name items active

/-- A state of a text that comes `n` bytes later, behind something that has shown `before`. -/
def State.later (before : String) (n : Nat) (s : State α σ) : State α σ :=
  { s with
    rest := s.rest.map (Segment.later n), frames := s.frames.map (Frame.later n),
    output := before ++ s.output }

/-- What a step leads to in a text that comes later. -/
def Progress.later (before : String) (n : Nat) : Progress α σ → Progress α σ
  | .next s => .next (s.later before n)
  | .done s => .done (s.later before n)
  | .failed e s => .failed (e.later n) (s.later before n)

/-- What a render leaves behind of a text that comes `n` bytes later, behind something that has
shown `before`. -/
def Outcome.later (before : String) (n : Nat) (o : Outcome α σ) : Outcome α σ :=
  { o with
    result := match o.result with
      | .ok text => .ok (before ++ text)
      | .error e => .error (e.later n) }

theorem Frame.block_later (n : Nat) (f : Frame α) : (f.later n).block = f.block := by
  cases f <;> rfl

theorem State.emit_later (before : String) (n : Nat) (s : State α σ) (text : String) :
    (s.later before n).emit text = (s.emit text).later before n := by
  obtain ⟨rest, frames, shown, output, env, memory⟩ := s
  cases shown with
  | false => rfl
  | true =>
    simp only [State.later, State.emit, if_true]
    rw [String.append_assoc]

namespace Setting

variable [HostObject α] {engine : Engine α} {size : Nat}

/-- A directive leads to the same in a text that comes later. -/
theorem Leads.later (before : String) (n : Nat) {body : List Char} {start stop : Nat}
    {d : Directive} {s : State α Unit} {p : Progress α Unit}
    (leads : Leads ⟨engine, .silent, .interpret, size⟩ body start stop d s p) :
    Leads ⟨engine, .silent, .interpret, n + size⟩ body (n + start) (n + stop) d
      (s.later before n) (p.later before n) := by
  have shown (output text : String) : before ++ (output ++ text) = before ++ output ++ text :=
    (String.append_assoc ..).symm
  have failed {e : Error} (t : State α Unit) (h : ∀ offset fault, e ≠ .structural offset fault) :
      Progress.later before n (.failed e t) = .failed e (t.later before n) := by
    rw [Progress.later, Error.later_eq_self h]
  cases leads with
  | ignored he hd => exact .ignored he hd
  | @output e s text he hv =>
    have next : Leads ⟨engine, .silent, .interpret, n + size⟩ body (n + start) (n + stop)
        (.output e) (s.later before n) _ := .output he hv
    rw [State.later, ← shown] at next
    exact next
  | outputFails he hv =>
    rw [failed s (by rintro _ _ rfl; exact evaluateText_ne_structural hv)]
    exact .outputFails he hv
  | assign he hs hv hn => exact .assign he hs hv hn
  | unassigned he hs => exact .unassigned he hs
  | valueFails he hs hv =>
    rw [failed s (by rintro _ _ rfl; exact evaluate_ne_structural hv)]
    exact .valueFails he hs hv
  | nameFails he hs hv hn =>
    rw [failed s (by rintro _ _ rfl; exact evaluateName_ne_structural hn)]
    exact .nameFails he hs hv hn
  | listing =>
    have next : Leads ⟨engine, .silent, .interpret, n + size⟩ body (n + start) (n + stop)
        .listing (s.later before n) _ := .listing
    rw [State.later, ← shown] at next
    exact next
  | foreign he hh =>
    cases hh
    have next : Leads ⟨engine, .silent, .interpret, n + size⟩ body (n + start) (n + stop)
        .foreign (s.later before n) _ := .foreign he rfl
    rw [State.later, ← shown] at next
    exact next
  | foreignFails he hh => cases hh
  | openConditional he hv => exact .openConditional he hv
  | conditionFails he hv =>
    rw [failed s (by rintro _ _ rfl; exact evaluateBool_ne_structural hv)]
    exact .conditionFails he hv
  | openConditionalIgnored he => exact .openConditionalIgnored he
  | openLoop he hv => exact .openLoop he hv
  | loopFails he hv =>
    rw [failed s (by rintro _ _ rfl; exact evaluateBool_ne_structural hv)]
    exact .loopFails he hv
  | openLoopIgnored he => exact .openLoopIgnored he
  | openIteration he hh hv hn hi => exact .openIteration he hh hv hn hi
  | openEmpty he hh hv hn hi => exact .openEmpty he hh hv hn hi
  | openHeadless he hh => exact .openHeadless he hh
  | sourceFails he hh hv =>
    rw [failed s (by rintro _ _ rfl; exact evaluate_ne_structural hv)]
    exact .sourceFails he hh hv
  | targetFails he hh hv hn =>
    rw [failed s (by rintro _ _ rfl; exact evaluateName_ne_structural hn)]
    exact .targetFails he hh hv hn
  | openIterationIgnored he => exact .openIterationIgnored he
  | otherwise hf => exact .otherwise (congrArg (List.map (Frame.later n)) hf)
  | otherwiseIgnored hf => exact .otherwiseIgnored (congrArg (List.map (Frame.later n)) hf)
  | endConditional hf => exact .endConditional (congrArg (List.map (Frame.later n)) hf)
  | endConditionalIgnored hf =>
    exact .endConditionalIgnored (congrArg (List.map (Frame.later n)) hf)
  | again hf hv => exact .again (congrArg (List.map (Frame.later n)) hf) hv
  | endLoop hf hv => exact .endLoop (congrArg (List.map (Frame.later n)) hf) hv
  | againFails hf hv =>
    rw [failed s (by rintro _ _ rfl; exact evaluateBool_ne_structural hv)]
    exact .againFails (congrArg (List.map (Frame.later n)) hf) hv
  | endLoopIgnored hf => exact .endLoopIgnored (congrArg (List.map (Frame.later n)) hf)
  | nextItem hf => exact .nextItem (congrArg (List.map (Frame.later n)) hf)
  | endIteration hf => exact .endIteration (congrArg (List.map (Frame.later n)) hf)
  | unmatched hf =>
    refine .unmatched ?_
    simpa [State.later, Function.comp_def, Frame.block_later] using hf

/-- Each step of a text that comes later is the step of the text by itself. -/
theorem step_later (before : String) (n : Nat) (s : State α Unit) :
    step ⟨engine, .silent, .interpret, n + size⟩ (s.later before n) =
      (step ⟨engine, .silent, .interpret, size⟩ s).later before n := by
  generalize hp : step ⟨engine, .silent, .interpret, size⟩ s = p
  have takes : Takes ⟨engine, .silent, .interpret, size⟩ s p := takes_of_step rfl hp
  have rest {segments : List Segment} (hr : s.rest = segments) :
      (s.later before n).rest = segments.map (Segment.later n) := by
    rw [← hr]
    rfl
  have frames {opened : List (Frame α)} (hf : s.frames = opened) :
      (s.later before n).frames = opened.map (Frame.later n) := by
    rw [← hf]
    rfl
  cases takes with
  | done hr hf => rw [step, rest hr, frames hf]; rfl
  | @unclosed f _ hr hf =>
    rw [step, rest hr, frames hf]
    change Progress.failed (.structural (n + size) (.unclosed (f.later n).block)) _ = _
    rw [f.block_later]
    rfl
  | @literal text others hr =>
    rw [step_literal (rest hr)]
    exact congrArg Progress.next
      (State.emit_later before n { s with rest := others } (.ofList text))
  | unterminated hr => rw [step, rest hr]; rfl
  | directive hr leads => exact (leads.later before n).step_eq rfl (rest hr)

/-- A text that comes later is rendered as by itself. -/
theorem run_later (before : String) (n fuel : Nat) (s : State α Unit) :
    run ⟨engine, .silent, .interpret, n + size⟩ fuel (s.later before n) =
      (run ⟨engine, .silent, .interpret, size⟩ fuel s).map (Outcome.later before n) := by
  induction fuel generalizing s with
  | zero => rfl
  | succ fuel ih =>
    rw [run, run, step_later]
    cases step ⟨engine, .silent, .interpret, size⟩ s with
    | next t => exact ih t
    | done t => rfl
    | failed e t => rfl

/-! ## Literal text at the seam -/

section

variable {σ : Type} {r : Setting α σ}

/-- Literal text goes on into the text behind it. -/
theorem exists_run_joinLiteral (u : Store α σ) (text : List Char) (segments : List Segment)
    (o : Outcome α σ) :
    (∃ fuel, r.run fuel (u.at (joinLiteral text segments) [] true) = some o) ↔
      ∃ fuel, r.run fuel ((u.shown (.ofList text)).at segments [] true) = some o := by
  have apart (segments : List Segment) :
      (∃ fuel, r.run fuel (u.at (literalBefore text segments) [] true) = some o) ↔
        ∃ fuel, r.run fuel ((u.shown (.ofList text)).at segments [] true) = some o :=
    (reaches_literalBefore r (u.at [] [] true) text segments).exists_run_iff
  cases segments with
  | nil => exact apart []
  | cons s rest =>
    cases s with
    | directive body start stop => exact apart _
    | unterminated start => exact apart _
    | literal more =>
      -- Both are one literal text, shown in one step or in two.
      have joined : r.step (u.at (.literal (text ++ more) :: rest) [] true) = .next
          ((u.shown (.ofList (text ++ more))).at rest [] true) := step_literal rfl
      have alone : r.step ((u.shown (.ofList text)).at (.literal more :: rest) [] true) = .next
          (((u.shown (.ofList text)).shown (.ofList more)).at rest [] true) := step_literal rfl
      rw [Store.shown_shown, ← String.ofList_append] at alone
      have first := Reaches.exists_run_iff (o := o) (.single joined)
      have second := Reaches.exists_run_iff (o := o) (.single alone)
      exact first.trans second.symm

/-- At the end of a text, literal text is the last of what is shown. -/
theorem exists_run_last (u : Store α σ) (text : List Char) (o : Outcome α σ) :
    (∃ fuel, r.run fuel (u.at (literalBefore text []) [] true) = some o) ↔
      o = (Ending.done (u.shown (.ofList text))).outcome r.engine := by
  have joined := exists_run_joinLiteral (r := r) u text [] o
  exact joined.trans (exists_run_iff_of_end rfl rfl)

end

/-! ## The first text -/

section

variable {r r' : Setting α σ} {s s' : State α σ} {leave leave' : Store α σ → State α σ}
  {endings : Ending α σ → Prop} {u : Store α σ} {o : Outcome α σ}

/-- What is computed with one ending has the outcomes of what takes over. -/
theorem Computes.exists_run_iff (h : r.Computes s leave endings) (hu : endings (.done u))
    (unique : ∀ ending, endings ending → ending = .done u) :
    (∃ fuel, r.run fuel s = some o) ↔ ∃ fuel, r.run fuel (leave u) = some o := by
  constructor
  · rintro ⟨fuel, hr⟩
    obtain ⟨ending, he, n, _, hf⟩ := h.back hr
    rw [unique ending he] at hf
    exact ⟨n, hf⟩
  · rintro ⟨fuel, hr⟩
    exact h.forth fuel hu hr

/-- What has a text as its outcome, after which literal text takes over, has one ending. -/
theorem Computes.exists_ending {last : List Char}
    (h : r.Computes s (·.at (literalBefore last []) [] true) endings) {fuel : Nat}
    (hr : r.run fuel s = some o) {text : String} (ho : o.result = .ok text) :
    ∃ u, endings (.done u) ∧ o = (Ending.done (u.shown (.ofList last))).outcome r.engine ∧
      ∀ ending, endings ending → ending = .done u := by
  have all : ∀ ending, endings ending →
      ∃ u, ending = .done u ∧ o = (Ending.done (u.shown (.ofList last))).outcome r.engine := by
    intro ending he
    cases ending with
    | done u =>
      obtain ⟨n, hn⟩ := (exists_run_last u last _).2 rfl
      obtain ⟨m, hm⟩ := h.forth n he hn
      exact ⟨u, rfl, run_unique hr hm⟩
    | failed e u =>
      obtain ⟨m, hm⟩ := h.forth 0 he rfl
      rw [run_unique hr hm] at ho
      cases ho
  obtain ⟨ending, he, _⟩ := h.back hr
  obtain ⟨u, rfl, hu⟩ := all ending he
  refine ⟨u, he, hu, fun other ht => ?_⟩
  obtain ⟨v, rfl, hv⟩ := all other ht
  rw [hu] at hv
  obtain ⟨output, env, memory⟩ := u
  obtain ⟨output', env', memory'⟩ := v
  simp only [Ending.outcome, Store.shown, Outcome.mk.injEq, Except.ok.injEq, and_true] at hv
  obtain ⟨houtput, rfl, rfl⟩ := hv
  rw [(String.append_left_inj _).1 houtput]

end

end Setting

variable [HostObject α] {engine : Engine α}

/-- An engine that renders is not rendering already. -/
theorem rendering_of_render {fuel : Nat} {template : String} {env : Environment α}
    {o : Outcome α Unit} (h : engine.render fuel template env = some o) {text : String}
    (ho : o.result = .ok text) : engine.rendering = false := by
  cases hr : engine.rendering with
  | false => rfl
  | true =>
    rw [Engine.render, Engine.renderIn, if_pos hr] at h
    cases h
    cases ho

/-- A text comes only out of a template without an offence. -/
theorem offence?_of_render (hr : engine.rendering = false) {fuel : Nat} {template : String}
    {env : Environment α} {o : Outcome α Unit} (h : engine.render fuel template env = some o)
    {text : String} (ho : o.result = .ok text) : offence? template = none := by
  rw [Engine.render_eq_run hr] at h
  obtain ⟨t, reached, ended⟩ := Setting.exists_run_iff.1 ⟨fuel, h⟩
  have start : Agrees template.utf8ByteSize (offence? template)
      (Setting.start template.toList env ()) := ⟨rfl, trivial⟩
  have agrees := reached.invariant (fun _ _ => Setting.agrees_step rfl) start
  exact (ended.of_agrees rfl agrees).1 text ho

/-- Behind a text with no block open, another one is rendered as by itself. -/
theorem run_behind (engine : Engine α) (first second : String) (u : Store α Unit) (fuel : Nat) :
    (engine.setting (first ++ second)).run fuel
        (u.at ((segments second.toList).map (Segment.later first.utf8ByteSize)) [] true) =
      ((engine.setting second).run fuel (Setting.start second.toList u.env ())).map
        (Outcome.later u.output first.utf8ByteSize) := by
  have state : u.at ((segments second.toList).map (Segment.later first.utf8ByteSize)) [] true =
      (Setting.start second.toList u.env ()).later u.output first.utf8ByteSize := by
    simp [Store.at, Setting.start, State.later]
  rw [state, Engine.setting, String.utf8ByteSize_append, Setting.run_later]
  rfl

/-- Rendering is compositional. Where a text is rendered and no marker comes about at the seam, the
outcomes of the same text with another one behind it are those of the other text by itself, with the
variables that the first leaves: its text behind that of the first, or its failure with structural
offsets counted from the beginning of the first. Neither comes to an end without the other. -/
theorem render_append (engine : Engine α) (first second : String) (env : Environment α)
    (apart : ¬Collide first.toList second.toList) (fuel : Nat) (o : Outcome α Unit)
    (h : engine.render fuel first env = some o) (text : String) (ho : o.result = .ok text)
    (p : Outcome α Unit) :
    (∃ fuel, engine.render fuel (first ++ second) env = some p) ↔
      ∃ q, (∃ fuel, engine.render fuel second o.env = some q) ∧
        p = q.later text first.utf8ByteSize := by
  have hr := rendering_of_render h ho
  have none := offence?_of_render hr h ho
  obtain ⟨parts, last, hfirst, hjoined⟩ := exists_parts_of_offence? none apart
  have alone : (engine.setting first).Computes (Setting.start first.toList env ())
      (·.at (literalBefore last []) [] true)
      (parts.meaning { engine with rendering := true } .silent ⟨"", env, ()⟩) := by
    rw [Setting.start, hfirst]
    exact Setting.computes_parts rfl parts _ [] ⟨"", env, ()⟩
  have joined : (engine.setting (first ++ second)).Computes
      (Setting.start (first ++ second).toList env ())
      (·.at (joinLiteral last ((segments second.toList).map (Segment.later first.utf8ByteSize)))
        [] true)
      (parts.meaning { engine with rendering := true } .silent ⟨"", env, ()⟩) := by
    rw [Setting.start, hjoined]
    exact Setting.computes_parts rfl parts _ [] ⟨"", env, ()⟩
  simp only [Engine.render_eq_run hr] at h ⊢
  obtain ⟨u, hu, rfl, unique⟩ := alone.exists_ending h ho
  cases ho
  rw [joined.exists_run_iff hu unique, Setting.exists_run_joinLiteral]
  simp only [run_behind, Option.map_eq_some_iff]
  constructor
  · rintro ⟨fuel, q, hq, rfl⟩
    exact ⟨q, ⟨fuel, hq⟩, rfl⟩
  · rintro ⟨q, ⟨fuel, hq⟩, rfl⟩
    exact ⟨fuel, q, hq, rfl⟩

/-- Behind a loop that counts to two, a text shows the two, and a closer without its block fails at
an offset from the beginning of the loop. -/
theorem render_append_after_loop :
    (∃ fuel, Engine.bare.render fuel ("@[WHILE:n < 2]@[SET:n=n+1]@[ENDWHILE]n" ++ "=@[=n]")
        (.ofList [("n", .int 0)]) =
      some ⟨.ok "n=2", .ofList [("n", .int 2)], (), .bare⟩) ∧
    ∃ fuel, Engine.bare.render fuel ("@[WHILE:n < 2]@[SET:n=n+1]@[ENDWHILE]n" ++ "=@[ENDIF]")
        (.ofList [("n", .int 0)]) =
      some ⟨.error (.structural 39 (.unexpectedCloser .endConditional)),
        .ofList [("n", .int 2)], (), .bare⟩ := by
  have first : Engine.bare.render 9 "@[WHILE:n < 2]@[SET:n=n+1]@[ENDWHILE]n"
      (.ofList [("n", .int 0)]) = some ⟨.ok "n", .ofList [("n", .int 2)], (), .bare⟩ := by
    cbv
  have shown : Engine.bare.render 3 "=@[=n]" (.ofList [("n", .int 2)]) =
      some ⟨.ok "=2", .ofList [("n", .int 2)], (), .bare⟩ := by
    cbv
  have failed : Engine.bare.render 2 "=@[ENDIF]" (.ofList [("n", .int 2)]) =
      some ⟨.error (.structural 1 (.unexpectedCloser .endConditional)),
        .ofList [("n", .int 2)], (), .bare⟩ := by
    cbv
  constructor
  · exact (render_append .bare _ "=@[=n]" _ (by decide) _ _ first _ rfl _).2 ⟨_, ⟨3, shown⟩, rfl⟩
  · exact (render_append .bare _ "=@[ENDIF]" _ (by decide) _ _ first _ rfl _).2
      ⟨_, ⟨2, failed⟩, rfl⟩

end MicroTemplate.Template
