import MicroTemplate.Proofs.Expression.Failure
import MicroTemplate.Proofs.Template.Offsets

/-!
# What a failed render shows of its template

Every expression that a render evaluates is a part of its template: it stands in the body of a
directive, from which white space and keywords have been taken, or it is the condition of an open
loop, which is kept on the stack and was in the body of the directive that opened the loop. So is
the expression that a failed render shows, and what lies behind its failure are parts of this
expression in turn.
-/

namespace MicroTemplate.Template

open Expression Text

/-! ## The expressions of a directive -/

/-- The text that a directive evaluates, as a whole or in parts. -/
def Directive.text : Directive → List Char
  | .output text | .openConditional text | .openLoop text | .openIteration text
  | .assign text => text
  | .close _ | .listing | .foreign => []

/-- The two texts that a text is split into are parts of it. -/
theorem isInfix_of_splitFirst? {p : Char → Bool} {cs front back : List Char}
    (h : splitFirst? p cs = some (front, back)) : front <:+: cs ∧ back <:+: cs := by
  obtain ⟨c, _, rfl, _⟩ := splitFirst?_eq_some_iff.1 h
  have behind : back <:+ front ++ c :: back :=
    (List.suffix_cons _ _).trans (List.suffix_append _ _)
  exact ⟨(List.prefix_append _ _).isInfix, behind.isInfix⟩

/-- What a directive evaluates is a part of its body. -/
theorem Directive.isInfix_text (body : List Char) : (ofBody body).text <:+: body := by
  refine List.IsInfix.trans ?_ (isInfix_trim body)
  rw [ofBody]
  split
  · next expression he =>
    rw [he]
    exact (List.suffix_cons '=' expression).isInfix
  · split
    · next keyword argument hs =>
      have part : argument <:+: trim body := (isInfix_of_splitFirst? hs).2
      rw [ofArgument]
      split
      all_goals first | exact part | exact List.nil_infix
    · rw [ofKeyword]
      split <;> exact List.nil_infix

/-- A header is its target and its source with an `IN` between them. -/
theorem eq_append_of_splitHeaderAfter {passed cs target source : List Char}
    (h : splitHeaderAfter passed cs = some (target, source)) :
    passed.reverse ++ cs = target ++ 'I' :: 'N' :: source := by
  fun_induction splitHeaderAfter passed cs with
  | case1 passed rest hs =>
    cases h
    rfl
  | case2 passed rest hs ih =>
    rw [← ih h]
    simp
  | case3 passed c rest hn ih =>
    rw [← ih h]
    simp
  | case4 => cases h

/-- The target and the source of an iteration are parts of its header. -/
theorem isInfix_of_splitHeader? {header target source : List Char}
    (h : splitHeader? header = some (target, source)) :
    target <:+: header ∧ source <:+: header := by
  have whole := eq_append_of_splitHeaderAfter h
  rw [List.reverse_nil, List.nil_append] at whole
  rw [whole]
  have behind : source <:+ 'I' :: 'N' :: source :=
    (List.suffix_cons _ _).trans (List.suffix_cons _ _)
  exact ⟨(List.prefix_append _ _).isInfix, (behind.trans (List.suffix_append _ _)).isInfix⟩

/-! ## The conditions of open loops -/

variable {α σ : Type}

/-- The condition of an open block, if it is a loop. -/
def Frame.condition? : Frame α → Option (List Char)
  | .loop _ condition _ => some condition
  | _ => none

/-- The conditions of the open loops. -/
def State.conditions (s : State α σ) : List (List Char) := s.frames.filterMap Frame.condition?

namespace Setting

variable [HostObject α] {r : Setting α σ} {s t : State α σ}

/-- Of conditions, a directive adds at most its own text. -/
theorem Leads.conditions_subset {body : List Char} {start stop : ℕ} {d : Directive}
    (leads : r.Leads body start stop d s (.next t)) : t.conditions ⊆ d.text :: s.conditions := by
  have around {f : Frame α} {frames : List (Frame α)} (hf : s.frames = f :: frames) :
      frames.filterMap Frame.condition? ⊆ d.text :: s.conditions := by
    rw [State.conditions, hf]
    exact List.subset_cons_of_subset _ ((List.sublist_cons_self f frames).filterMap _).subset
  cases leads with
  | endConditional hf | endConditionalIgnored hf | endLoop hf _ | endLoopIgnored hf
  | endIteration hf => exact around hf
  | @nextItem _ resume name item items active frames hf =>
    change frames.filterMap Frame.condition? ⊆ _
    exact around hf
  | openLoop _ _ | openLoopIgnored _ => exact List.Subset.refl _
  | _ => exact List.subset_cons_self _ _

/-- The error of an expression that a directive leads to is what the evaluation of the expression
gives, and the expression is a part of what the directive evaluates, or the condition of an open
loop. -/
theorem Leads.of_failed {body : List Char} {start stop : ℕ} {d : Directive}
    {expression : String} {cause : Cause}
    (leads : r.Leads body start stop d s (.failed (.evaluation expression cause) t)) :
    evaluate (r.context s) expression.toList = .error (.evaluation expression cause) ∧
      (expression.toList <:+: d.text ∨ expression.toList ∈ s.conditions) := by
  -- What fails is the evaluation of a text or of a name.
  have evaluated {e : List Char}
      (hv : evaluate (r.context s) e = .error (.evaluation expression cause)) :
      e = expression.toList ∧
        evaluate (r.context s) expression.toList = .error (.evaluation expression cause) := by
    obtain ⟨_, heq⟩ := error_of_evaluate hv
    cases heq
    rw [String.toList_ofList]
    exact ⟨rfl, hv⟩
  have named {e whole : List Char}
      (hn : evaluateName (r.context s) e = .error (.evaluation expression cause))
      (part : e <:+: whole) :
      evaluate (r.context s) expression.toList = .error (.evaluation expression cause) ∧
        expression.toList <:+: whole := by
    obtain ⟨same, fails⟩ := evaluated (evaluate_trim_of_evaluateName hn)
    exact ⟨fails, same ▸ (isInfix_trim e).trans part⟩
  cases leads with
  | outputFails _ hv | conditionFails _ hv | loopFails _ hv =>
    obtain ⟨rfl, fails⟩ := evaluated (error_of_map hv)
    exact ⟨fails, .inl List.infix_rfl⟩
  | valueFails _ hs hv =>
    obtain ⟨rfl, fails⟩ := evaluated hv
    exact ⟨fails, .inl (isInfix_of_splitFirst? hs).2⟩
  | nameFails _ hs _ hn =>
    obtain ⟨fails, part⟩ := named hn (isInfix_of_splitFirst? hs).1
    exact ⟨fails, .inl part⟩
  | sourceFails _ hh hv =>
    obtain ⟨rfl, fails⟩ := evaluated hv
    exact ⟨fails, .inl (isInfix_of_splitHeader? hh).2⟩
  | targetFails _ hh _ hn =>
    obtain ⟨fails, part⟩ := named hn (isInfix_of_splitHeader? hh).1
    exact ⟨fails, .inl part⟩
  | againFails hf hv =>
    obtain ⟨rfl, fails⟩ := evaluated (error_of_map hv)
    refine ⟨fails, .inr ?_⟩
    rw [State.conditions, hf]
    exact List.mem_cons_self

variable {template : String} {env : Environment α} {memory : σ}

/-- What the directive that comes next evaluates is a part of the template. -/
theorem isInfix_of_reaches (h : r.Reaches (Setting.start template.toList env memory) t)
    {body : List Char} {start stop : ℕ} {rest : List Segment}
    (hr : t.rest = .directive body start stop :: rest) : body <:+: template.toList := by
  have left := leftFrom_of_reaches h _ List.mem_cons_self
  rw [hr] at left
  obtain ⟨_, ⟨front, back, whole, _⟩, _⟩ := left.directive
  refine ⟨front.toList ++ ['@', '['], ']' :: back.toList, ?_⟩
  rw [whole]
  simp

/-- The conditions of open loops are parts of the template. -/
theorem isInfix_of_mem_conditions (h : r.Reaches (Setting.start template.toList env memory) t) :
    ∀ c ∈ t.conditions, c <:+: template.toList := by
  induction h with
  | refl => exact nofun
  | @tail t u reached hstep ih =>
    cases hr : t.rest with
    | nil =>
      rw [step, hr] at hstep
      cases hf : t.frames <;> rw [hf] at hstep <;> cases hstep
    | cons segment rest =>
      cases segment with
      | literal text =>
        rw [step_literal hr, State.emit_eq] at hstep
        cases hstep
        exact ih
      | unterminated start =>
        rw [step, hr] at hstep
        cases hstep
      | directive body start stop =>
        rw [step_directive hr] at hstep
        obtain ⟨d, hd, leads⟩ := r.exists_leads body start stop { t with rest := rest }
        rw [hstep] at leads
        have text : d.text <:+: template.toList := by
          rcases hd with rfl | rfl
          · exact List.nil_infix
          · exact (Directive.isInfix_text body).trans (isInfix_of_reaches reached hr)
        intro c hc
        rcases List.mem_cons.1 (leads.conditions_subset hc) with rfl | hm
        · exact text
        · exact ih c hm

/-- The error of an expression that a render fails with is what the evaluation of the expression
gives, and the expression is a part of the template. -/
theorem evaluate_of_step_failed (h : r.Reaches (Setting.start template.toList env memory) s)
    {expression : String} {cause : Cause}
    (hs : r.step s = .failed (.evaluation expression cause) t) :
    evaluate (r.context s) expression.toList = .error (.evaluation expression cause) ∧
      expression.toList <:+: template.toList := by
  cases hr : s.rest with
  | nil =>
    rw [step, hr] at hs
    cases hf : s.frames <;> rw [hf] at hs <;> cases hs
  | cons segment rest =>
    cases segment with
    | literal text =>
      rw [step_literal hr] at hs
      cases hs
    | unterminated start =>
      rw [step, hr] at hs
      cases hs
    | directive body start stop =>
      rw [step_directive hr] at hs
      obtain ⟨d, hd, leads⟩ := r.exists_leads body start stop { s with rest := rest }
      rw [hs] at leads
      obtain ⟨fails, part | condition⟩ := leads.of_failed
      · refine ⟨fails, part.trans ?_⟩
        rcases hd with rfl | rfl
        · exact List.nil_infix
        · exact (Directive.isInfix_text body).trans (isInfix_of_reaches h hr)
      · exact ⟨fails, isInfix_of_mem_conditions h _ condition⟩

end Setting

/-- The failure of an expression is traced to its cause. Whatever an expression is evaluated for,
its error carries its text; an error inside is that of the first argument that fails, which is a
shorter part of the text, and so on down to a cause without an error inside. The error counts as one
of arithmetic exactly if that cause is a division by zero or an overflow. A name is evaluated
without the white space around it. And the expression that a failed render shows is a part of its
template. -/
theorem failures_traced {α σ : Type} [HostObject α] :
    (∀ (ctx : Context α) (text : List Char) (e : Error), FailsWith ctx text e →
      ∃ root, Traced ctx text e root ∧ (e.isArithmetic = true ↔
        root = .arithmetic .divisionByZero ∨ root = .arithmetic .overflow)) ∧
    (∀ (ctx : Context α) (text : List Char) (e : Error), evaluateName ctx text = .error e →
      ∃ root, Traced ctx (trim text) e root ∧ (e.isArithmetic = true ↔
        root = .arithmetic .divisionByZero ∨ root = .arithmetic .overflow)) ∧
    ∀ (engine : Engine α) (mode : Mode) (hook : Hook α σ) (fuel : ℕ) (template : String)
        (env : Environment α) (memory : σ) (o : Outcome α σ),
      engine.renderIn mode hook fuel template env memory = some o →
      ∀ expression cause, o.result = .error (.evaluation expression cause) →
        expression.toList <:+: template.toList := by
  refine ⟨fun ctx text e fails => ?_, fun ctx text e fails => ?_, ?_⟩
  · obtain ⟨root, traced⟩ := fails.exists_traced
    exact ⟨root, traced, traced.isArithmetic_iff⟩
  · obtain ⟨root, traced⟩ := exists_traced (trim text) (evaluate_trim_of_evaluateName fails)
    exact ⟨root, traced, traced.isArithmetic_iff⟩
  · intro engine mode hook fuel template env memory o ho expression cause he
    rw [Engine.renderIn] at ho
    split at ho
    · cases ho
      cases he
    · obtain ⟨t, reached, ends⟩ := Setting.exists_run_iff.1 ⟨fuel, ho⟩
      rcases ends with ⟨u, _, rfl⟩ | ⟨e, u, hs, rfl⟩
      · cases he
      · cases he
        exact (Setting.evaluate_of_step_failed reached hs).2

/-- The quotient in the second argument of a call in the second argument of a call fails before the
third one, which is no expression, and a render shows the condition that holds it. -/
theorem failures_traced_nested :
    (∃ e root, FailsWith (Engine.bare.context .empty) "f(a, 1 + g(2, 3 / 0), 4 +)".toList e ∧
      Traced (Engine.bare.context .empty) "f(a, 1 + g(2, 3 / 0), 4 +)".toList e root ∧
      e.isArithmetic = true ∧
      (root = .arithmetic .divisionByZero ∨ root = .arithmetic .overflow)) ∧
    (∃ e root, evaluateName (Engine.bare.context .empty) " f(1 / 0) ".toList = .error e ∧
      Traced (Engine.bare.context .empty) "f(1 / 0)".toList e root) ∧
    ∃ o cause, Engine.bare.renderIn .interpret .silent 4 "é@[IF : f(1 / 0) ]x@[ENDIF]" .empty () =
        some o ∧ o.result = .error (.evaluation " f(1 / 0)" cause) ∧
      " f(1 / 0)".toList <:+: "é@[IF : f(1 / 0) ]x@[ENDIF]".toList := by
  obtain ⟨expressions, names, renders⟩ := failures_traced (α := Empty) (σ := Unit)
  refine ⟨?_, ?_, ?_⟩
  · have fails : evaluate (Engine.bare.context .empty) "f(a, 1 + g(2, 3 / 0), 4 +)".toList =
        .error (.evaluation "f(a, 1 + g(2, 3 / 0), 4 +)" (.nested (.evaluation " 1 + g(2, 3 / 0)"
          (.nested (.evaluation " 3 / 0" (.arithmetic .divisionByZero)))))) := by
      cbv
    obtain ⟨root, traced, arithmetic⟩ := expressions _ _ _ (.value fails)
    exact ⟨_, root, .value fails, traced, rfl, arithmetic.1 rfl⟩
  · have fails : evaluateName (Engine.bare.context .empty) " f(1 / 0) ".toList =
        .error (.evaluation "f(1 / 0)" (.nested (.evaluation "1 / 0"
          (.arithmetic .divisionByZero)))) := by
      cbv
    obtain ⟨root, traced, _⟩ := names _ _ _ fails
    exact ⟨_, root, fails, traced⟩
  · have ended : Engine.bare.renderIn .interpret .silent 4 "é@[IF : f(1 / 0) ]x@[ENDIF]" .empty () =
        some ⟨.error (.evaluation " f(1 / 0)" (.nested (.evaluation "1 / 0"
          (.arithmetic .divisionByZero)))), .empty, (), Engine.bare⟩ := by
      cbv
    exact ⟨_, _, ended, rfl, renders _ _ _ _ _ _ _ _ ended _ _ rfl⟩

end MicroTemplate.Template
