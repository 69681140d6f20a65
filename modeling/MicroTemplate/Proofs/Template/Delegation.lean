import MicroTemplate.Proofs.Template.Joining

/-!
# Leaving all directives to the hook

A render that leaves all directives to the hook is a substitution: the template is cut into literal
texts and directives without loss, the hook is asked for the directives one after the other, and its
answers stand in the text where the directives stood. Where the engine knows none of the directives
it makes no difference who is asked first, and the two ways of rendering are one.
-/

namespace MicroTemplate.Template

open Text

variable {α σ : Type}

/-! ## What segments were cut from -/

/-- The text that a segment was cut from. Of a directive that is not closed it is the marker. -/
def Segment.source : Segment → List Char
  | literal text => text
  | directive body _ _ => '@' :: '[' :: (body ++ [']'])
  | unterminated _ => ['@', '[']

/-- Whether all directives among some segments are closed. -/
def AllClosed (segments : List Segment) : Prop := ∀ start, .unterminated start ∉ segments

theorem AllClosed.tail {s : Segment} {rest : List Segment} (h : AllClosed (s :: rest)) :
    AllClosed rest := fun start hm => h start (List.mem_cons_of_mem _ hm)

theorem flatMap_source_literalBefore (text : List Char) (segments : List Segment) :
    (literalBefore text segments).flatMap Segment.source =
      text ++ segments.flatMap Segment.source := by
  cases text with
  | nil => rfl
  | cons c text => rw [literalBefore, if_neg (by simp), List.flatMap_cons]; rfl

theorem mem_literalBefore_iff {s : Segment} {text : List Char} {segments : List Segment} :
    s ∈ literalBefore text segments ↔ text ≠ [] ∧ s = .literal text ∨ s ∈ segments := by
  cases text with
  | nil => simp [literalBefore]
  | cons c text => simp [literalBefore]

/-- Nothing is lost when a text is cut into segments. -/
theorem flatMap_source_segmentsFrom (offset : Nat) (pending cs : List Char)
    (closed : AllClosed (segmentsFrom offset pending cs)) :
    (segmentsFrom offset pending cs).flatMap Segment.source = pending.reverse ++ cs := by
  induction offset, pending, cs using segmentsFrom.induct with
  | case1 offset pending rest ih =>
    cases hs : splitBody? 0 false rest with
    | none =>
      rw [segmentsFrom_unterminated _ _ hs] at closed
      exact absurd (mem_literalBefore_iff.2 (.inr (List.mem_singleton.2 rfl))) (closed offset)
    | some split =>
      obtain ⟨body, after⟩ := split
      rw [segmentsFrom_directive _ _ hs] at closed ⊢
      have others := ih body after hs fun start hm =>
        closed start (mem_literalBefore_iff.2 (.inr (List.mem_cons_of_mem _ hm)))
      rw [flatMap_source_literalBefore, List.flatMap_cons, others, eq_append_of_splitBody? hs]
      simp [Segment.source]
  | case2 offset pending c rest hc ih =>
    rw [segmentsFrom.eq_2 _ _ _ _ hc] at closed ⊢
    rw [ih closed]
    simp
  | case3 offset pending =>
    rw [segmentsFrom, flatMap_source_literalBefore]
    rfl

/-- A marker comes about behind a text only where the text ends and something else begins. -/
theorem not_isInfix_concat {text rest : List Char} {c : Char} (clear : ¬['@', '['] <:+: text)
    (apart : ¬Collide text (c :: rest)) : ¬['@', '['] <:+: text ++ [c] := by
  intro h
  rcases List.infix_concat_iff.1 h with hs | hi
  · obtain hn | ⟨front, heq, back, rfl⟩ := List.suffix_concat_iff.1 hs
    · cases hn
    · obtain ⟨rfl, hc⟩ := List.append_inj' (show ['@'] ++ ['['] = front ++ [c] from heq) rfl
      cases hc
      exact apart ⟨by simp, rfl⟩
  · exact clear hi

/-- No literal text holds a marker: where a marker stands outside of directives, a directive
begins. -/
theorem not_isInfix_of_mem_segmentsFrom (offset : Nat) (pending cs : List Char)
    (clear : ¬['@', '['] <:+: pending.reverse) (apart : ¬Collide pending.reverse cs)
    {text : List Char} (h : .literal text ∈ segmentsFrom offset pending cs) :
    ¬['@', '['] <:+: text := by
  induction offset, pending, cs using segmentsFrom.induct with
  | case1 offset pending rest ih =>
    cases hs : splitBody? 0 false rest with
    | none =>
      rw [segmentsFrom_unterminated _ _ hs, mem_literalBefore_iff] at h
      rcases h with ⟨_, hp⟩ | hm
      · cases hp
        exact clear
      · cases List.mem_singleton.1 hm
    | some split =>
      obtain ⟨body, after⟩ := split
      rw [segmentsFrom_directive _ _ hs, mem_literalBefore_iff] at h
      rcases h with ⟨_, hp⟩ | hm
      · cases hp
        exact clear
      · rcases List.mem_cons.1 hm with hd | hm
        · cases hd
        · exact ih body after hs (by simp) (fun hc => by cases hc.1) hm
  | case2 offset pending c rest hc ih =>
    rw [segmentsFrom.eq_2 _ _ _ _ hc] at h
    refine ih ?_ ?_ h
    · rw [List.reverse_cons]
      exact not_isInfix_concat clear apart
    · rw [List.reverse_cons]
      rintro ⟨hl, hh⟩
      obtain ⟨tail, rfl⟩ := List.head?_eq_some_iff.1 hh
      exact hc tail (by simpa using hl) rfl
  | case3 offset pending =>
    rw [segmentsFrom, mem_literalBefore_iff] at h
    rcases h with ⟨_, hp⟩ | hm
    · cases hp
      exact clear
    · cases hm

/-! ## Questions and answers -/

/-- What a hook is asked about the directives among some segments: their bodies, and the offsets
just past them. -/
def questions (segments : List Segment) : List (String × ℕ) :=
  segments.filterMap fun
    | .directive body _ stop => some (.ofList body, stop)
    | _ => none

/-- The text of segments with other texts in the place of their directives. -/
def fill : List Segment → List String → String
  | .literal text :: rest, texts => .ofList text ++ fill rest texts
  | .directive _ _ _ :: rest, text :: texts => text ++ fill rest texts
  | _, _ => ""

/-- The hook gives these texts to questions that it is asked one after the other, and leaves these
variables and this memory. -/
inductive Hook.Answers (hook : Hook α σ) (engine : Engine α) :
    List (String × ℕ) → Environment α → σ → List String → Environment α → σ → Prop where
  /-- Nothing is asked. -/
  | nil {env memory} : Answers hook engine [] env memory [] env memory
  /-- A question is answered, and then the others. -/
  | cons {body stop questions env memory text texts env₁ memory₁ env₂ memory₂}
    (first : hook.handle engine body stop env memory = (.ok text, env₁, memory₁))
    (others : Answers hook engine questions env₁ memory₁ texts env₂ memory₂) :
    Answers hook engine ((body, stop) :: questions) env memory (text :: texts) env₂ memory₂

/-- Whether a hook has an answer to every question. -/
def Hook.Succeeds (hook : Hook α σ) : Prop :=
  ∀ engine body stop env memory, ∃ text, (hook.handle engine body stop env memory).1 = .ok text

/-- The hook that also writes down what it is asked. -/
def Hook.recorded (hook : Hook α σ) : Hook α (σ × List (String × ℕ)) where
  handle engine body stop env memory :=
    let (answer, env, inner) := hook.handle engine body stop env memory.1
    (answer, env, inner, memory.2 ++ [(body, stop)])

/-- Whether a hook answers every directive with the directive. -/
def Hook.Echoes (hook : Hook α σ) : Prop :=
  ∀ engine body stop env memory,
    (hook.handle engine body stop env memory).1 = .ok ("@[" ++ body ++ "]")

section

variable {hook : Hook α σ} {engine : Engine α}

/-- A hook that has an answer to every question gives answers to any questions. -/
theorem Hook.Succeeds.exists_answers (h : hook.Succeeds) (engine : Engine α)
    (questions : List (String × ℕ)) (env : Environment α) (memory : σ) :
    ∃ texts env' memory', hook.Answers engine questions env memory texts env' memory' := by
  induction questions generalizing env memory with
  | nil => exact ⟨[], env, memory, .nil⟩
  | cons question questions ih =>
    obtain ⟨body, stop⟩ := question
    obtain ⟨text, ht⟩ := h engine body stop env memory
    obtain ⟨texts, env', memory', others⟩ := ih _ _
    exact ⟨text :: texts, env', memory', .cons (Prod.ext ht rfl) others⟩

/-- What a hook is asked is what it writes down. -/
theorem Hook.Answers.recorded {questions : List (String × ℕ)} {env env' : Environment α}
    {memory memory' : σ} {texts : List String}
    (h : hook.Answers engine questions env memory texts env' memory') (before : List (String × ℕ)) :
    hook.recorded.Answers engine questions env (memory, before) texts env'
      (memory', before ++ questions) := by
  induction h generalizing before with
  | nil =>
    rw [List.append_nil]
    exact .nil
  | @cons body stop questions env memory text texts env₁ memory₁ env₂ memory₂ first _ ih =>
    have others := ih (before ++ [(body, stop)])
    rw [List.append_assoc, List.singleton_append] at others
    refine .cons ?_ others
    simp only [Hook.recorded, first]

/-- A hook that echoes gives the directives back. -/
theorem Hook.Answers.fill_of_echoes (he : hook.Echoes) {segments : List Segment}
    (closed : AllClosed segments) {env env' : Environment α} {memory memory' : σ}
    {texts : List String}
    (h : hook.Answers engine (questions segments) env memory texts env' memory') :
    fill segments texts = .ofList (segments.flatMap Segment.source) := by
  induction segments generalizing env memory texts with
  | nil => rfl
  | cons s rest ih =>
    rw [List.flatMap_cons, String.ofList_append]
    cases s with
    | unterminated start => exact absurd List.mem_cons_self (closed start)
    | literal text =>
      rw [fill, ih closed.tail h]
      rfl
    | directive body start stop =>
      cases h with
      | cons first others =>
        have echo := he engine (.ofList body) stop env memory
        rw [first] at echo
        cases echo
        have marked : String.ofList (Segment.directive body start stop).source =
            "@[" ++ .ofList body ++ "]" := by
          rw [Segment.source, ← List.cons_append, ← List.cons_append, String.ofList_append]
          exact congrArg (· ++ "]") (@String.ofList_append ['@', '['] body)
        rw [fill, ih closed.tail others, marked]

end

/-! ## Renders that ask the hook first -/

namespace Setting

variable [HostObject α] {r : Setting α σ}

/-- A render that leaves all directives to the hook comes to the end of the template with the
answers in the place of the directives. -/
theorem reaches_of_answers (hm : r.mode = .delegate) {segments : List Segment}
    (closed : AllClosed segments) {env env' : Environment α} {memory memory' : σ}
    {texts : List String}
    (h : r.hook.Answers r.engine (questions segments) env memory texts env' memory')
    (output : String) :
    r.Reaches ⟨segments, [], true, output, env, memory⟩
      ⟨[], [], true, output ++ fill segments texts, env', memory'⟩ := by
  induction segments generalizing env memory texts output with
  | nil =>
    cases h
    have whole : output ++ fill [] [] = output := String.append_empty
    rw [whole]
    exact .refl
  | cons s rest ih =>
    cases s with
    | unterminated start => exact absurd List.mem_cons_self (closed start)
    | literal text =>
      have onwards := ih closed.tail h (output ++ .ofList text)
      rw [fill, ← String.append_assoc]
      exact .head (step_literal rfl) onwards
    | directive body start stop =>
      cases h with
      | @cons _ _ _ _ _ text texts env₁ memory₁ _ _ first others =>
        have onwards := ih closed.tail others (output ++ text)
        have asked : r.step ⟨.directive body start stop :: rest, [], true, output, env, memory⟩ =
            .next ⟨rest, [], true, output ++ text, env₁, memory₁⟩ := by
          rw [step_directive rfl, directive, hm, external, if_pos rfl, first]
        rw [fill, ← String.append_assoc]
        exact .head asked onwards

end Setting

/-- The outcome of a render that leaves all directives to the hook. -/
theorem exists_renderDelegated_iff [HostObject α] {engine : Engine α}
    (idle : engine.rendering = false) {hook : Hook α σ} {template : String}
    (closed : AllClosed (segments template.toList)) {env env' : Environment α}
    {memory memory' : σ} {texts : List String}
    (h : hook.Answers { engine with rendering := true } (questions (segments template.toList)) env
      memory texts env' memory') (o : Outcome α σ) :
    (∃ fuel, engine.renderDelegated hook fuel template env memory = some o) ↔
      o = ⟨.ok (fill (segments template.toList) texts), env', memory', engine⟩ := by
  have reached := Setting.reaches_of_answers (r := engine.settingWith .delegate hook template) rfl
    closed h ""
  rw [String.empty_append] at reached
  exact Engine.exists_renderIn_iff idle reached rfl rfl o

/-! ## Templates without directives of the engine -/

/-- Whether a body asks for a directive of the engine's own. -/
inductive IsNative (body : List Char) : Prop where
  /-- An equals sign comes first. -/
  | output {e} (h : trim body = '=' :: e)
  /-- A keyword stands before the first colon. -/
  | argument {keyword argument} (h : trim body = keyword ++ ':' :: argument) (hc : ':' ∉ keyword)
    (hk : String.ofList (trimEnd keyword) ∈ ["IF", "WHILE", "FOREACH", "SET"])
  /-- There is nothing but a keyword. -/
  | alone (hk : String.ofList (trim body) ∈ ["ELSE", "ENDIF", "ENDWHILE", "ENDFOREACH", "LIST"])

theorem ofArgument_eq_foreign_iff (keyword argument : List Char) :
    Directive.ofArgument keyword argument = .foreign ↔
      String.ofList keyword ∉ ["IF", "WHILE", "FOREACH", "SET"] := by
  rw [Directive.ofArgument]
  split <;> simp_all

theorem ofKeyword_eq_foreign_iff (keyword : List Char) :
    Directive.ofKeyword keyword = .foreign ↔
      String.ofList keyword ∉ ["ELSE", "ENDIF", "ENDWHILE", "ENDFOREACH", "LIST"] := by
  rw [Directive.ofKeyword]
  split <;> simp_all

/-- A keyword that is a whole body has no colon. -/
theorem splitFirst?_of_alone {cs : List Char}
    (hk : String.ofList cs ∈ ["ELSE", "ENDIF", "ENDWHILE", "ENDFOREACH", "LIST"]) :
    splitFirst? (· == ':') cs = none := by
  have known : cs ∈ ["ELSE", "ENDIF", "ENDWHILE", "ENDFOREACH", "LIST"].map String.toList := by
    have listed := List.mem_map_of_mem (f := String.toList) hk
    rwa [String.toList_ofList] at listed
  have none : ∀ ds ∈ ["ELSE", "ENDIF", "ENDWHILE", "ENDFOREACH", "LIST"].map String.toList,
      splitFirst? (· == ':') ds = none := by decide
  exact none cs known

/-- The hook is asked about exactly those bodies that are not native. -/
theorem ofBody_eq_foreign_iff (body : List Char) :
    Directive.ofBody body = .foreign ↔ ¬IsNative body := by
  rw [Directive.ofBody]
  split
  · next e hb =>
    refine ⟨fun hf => ?_, fun hn => absurd (.output hb) hn⟩
    cases hf
  · next hb =>
    cases hs : splitFirst? (· == ':') (trim body) with
    | none =>
      dsimp only
      rw [ofKeyword_eq_foreign_iff]
      refine ⟨fun hk native => ?_, fun hn hk => hn (.alone hk)⟩
      cases native with
      | output ho => exact hb _ ho
      | argument ha hc _ =>
        rw [ha, splitFirst?_append_cons hc] at hs
        cases hs
      | alone ha => exact hk ha
    | some split =>
      obtain ⟨keyword, argument⟩ := split
      dsimp only
      rw [ofArgument_eq_foreign_iff]
      constructor
      · intro hk native
        cases native with
        | output ho => exact hb _ ho
        | argument ha hc hm =>
          rw [ha, splitFirst?_append_cons hc] at hs
          cases hs
          exact hk hm
        | alone ha =>
          rw [splitFirst?_of_alone ha] at hs
          cases hs
      · intro hn hk
        obtain ⟨c, hc, heq, hbefore⟩ := splitFirst?_eq_some_iff.1 hs
        have colon : c = ':' := by simpa using hc
        subst colon
        have first : ':' ∉ keyword := fun hm => by simpa using hbefore _ hm
        exact hn (.argument heq first hk)

namespace Setting

/-- The hook does not change what comes next. -/
theorem rest_of_external {r : Setting α σ} {body : List Char} {stop : ℕ} {s t : State α σ}
    (h : r.external body stop s = .next t) : t.rest = s.rest := by
  rw [external] at h
  split at h
  · split at h <;> cases h
    rfl
  · cases h
    rfl

variable [HostObject α]

/-- A step that leaves directives to the hook takes the next segment and no other. -/
theorem rest_of_step_delegate {r : Setting α σ} (hm : r.mode = .delegate) {s t : State α σ}
    (h : r.step s = .next t) : t.rest = s.rest.tail := by
  cases hr : s.rest with
  | nil =>
    rw [step, hr] at h
    cases hf : s.frames <;> rw [hf] at h <;> cases h
  | cons segment rest =>
    cases segment with
    | unterminated start =>
      rw [step, hr] at h
      cases h
    | literal text =>
      rw [step_literal hr, State.emit_eq] at h
      cases h
      rfl
    | directive body start stop =>
      rw [step_directive hr, directive, hm] at h
      exact rest_of_external h

variable {engine : Engine α} {hook : Hook α σ} {size : ℕ}

/-- At a directive that is not native, it makes no difference who is asked first. -/
theorem step_interpret_eq_step_delegate {s : State α σ}
    (h : ∀ body start stop, .directive body start stop ∈ s.rest → ¬IsNative body) :
    step ⟨engine, hook, .interpret, size⟩ s = step ⟨engine, hook, .delegate, size⟩ s := by
  cases hr : s.rest with
  | nil => rw [step, step, hr]
  | cons segment rest =>
    cases segment with
    | unterminated start => rw [step, step, hr]
    | literal text => rw [step_literal hr, step_literal hr]
    | directive body start stop =>
      have foreign : Directive.ofBody body = .foreign :=
        (ofBody_eq_foreign_iff body).2 (h body start stop (by rw [hr]; exact List.mem_cons_self))
      rw [step_directive hr, step_directive hr, directive, directive, foreign]
      rfl

/-- Where no directive is native, a run does not depend on who is asked first. -/
theorem run_interpret_eq_run_delegate (fuel : ℕ) {s : State α σ}
    (h : ∀ body start stop, .directive body start stop ∈ s.rest → ¬IsNative body) :
    run ⟨engine, hook, .interpret, size⟩ fuel s = run ⟨engine, hook, .delegate, size⟩ fuel s := by
  induction fuel generalizing s with
  | zero => rfl
  | succ fuel ih =>
    rw [run, run, step_interpret_eq_step_delegate h]
    cases hs : step ⟨engine, hook, .delegate, size⟩ s with
    | next t =>
      refine ih fun body start stop hm => h body start stop ?_
      rw [rest_of_step_delegate rfl hs] at hm
      exact List.mem_of_mem_tail hm
    | done t => rfl
    | failed e t => rfl

end Setting

/-- Passing directives through loses nothing. Where all directives of a template are closed, its
segments make it up again, with no marker in a literal text; and a render that leaves all directives
to a hook with an answer to each of them asks for them in their order, each of them once and with
what stands between its brackets, and gives the template with the answers in their place. If the
answers are the directives, that is the template. Where no directive is native, closed or not, the
hook being asked first or last is the same render. -/
theorem delegation_lossless [HostObject α] (engine : Engine α) (idle : engine.rendering = false)
    (template : String) :
    (AllClosed (segments template.toList) →
      (segments template.toList).flatMap Segment.source = template.toList ∧
      (∀ text, .literal text ∈ segments template.toList → ¬['@', '['] <:+: text) ∧
      ∀ hook : Hook α σ, hook.Succeeds → ∀ env memory, ∃ texts env' memory',
        hook.Answers { engine with rendering := true } (questions (segments template.toList))
          env memory texts env' memory' ∧
        (∀ o, (∃ fuel, engine.renderDelegated hook fuel template env memory = some o) ↔
          o = ⟨.ok (fill (segments template.toList) texts), env', memory', engine⟩) ∧
        (∀ o, (∃ fuel,
            engine.renderDelegated hook.recorded fuel template env (memory, []) = some o) ↔
          o = ⟨.ok (fill (segments template.toList) texts), env',
            (memory', questions (segments template.toList)), engine⟩) ∧
        (hook.Echoes → fill (segments template.toList) texts = template)) ∧
    ((∀ body start stop, .directive body start stop ∈ segments template.toList →
        ¬IsNative body) →
      ∀ (hook : Hook α σ) fuel env memory,
        engine.renderWithHook hook fuel template env memory =
          engine.renderDelegated hook fuel template env memory) := by
  constructor
  · intro closed
    have whole : (segments template.toList).flatMap Segment.source = template.toList :=
      flatMap_source_segmentsFrom 0 [] template.toList closed
    refine ⟨whole, ?_, ?_⟩
    · intro text hm
      exact not_isInfix_of_mem_segmentsFrom 0 [] _ (by simp) (fun hc => by cases hc.1) hm
    · intro hook succeeds env memory
      obtain ⟨texts, env', memory', answers⟩ :=
        succeeds.exists_answers { engine with rendering := true }
          (questions (segments template.toList)) env memory
      have noted := answers.recorded []
      rw [List.nil_append] at noted
      refine ⟨texts, env', memory', answers, exists_renderDelegated_iff idle closed answers,
        exists_renderDelegated_iff idle closed noted, fun echoes => ?_⟩
      rw [answers.fill_of_echoes echoes closed, whole, String.ofList_toList]
  · intro foreign hook fuel env memory
    rw [Engine.renderWithHook, Engine.renderDelegated, Engine.renderIn_eq_run idle,
      Engine.renderIn_eq_run idle]
    exact Setting.run_interpret_eq_run_delegate fuel foreign

/-- A template with a marker after an at sign, with brackets inside a directive and with a character
of two bytes, under a hook that counts and echoes; and under any hook, whoever is asked first. -/
theorem delegation_lossless_counted :
    (∃ fuel, Engine.bare.renderDelegated
        ⟨fun _ body _ env n => (.ok ("@[" ++ body ++ "]"), env, n + 1)⟩ fuel
        "@@[x\"]\"[y]]é@[z:1]" .empty 0 =
      some ⟨.ok "@@[x\"]\"[y]]é@[z:1]", .empty, 2, .bare⟩) ∧
    ∀ (hook : Hook Empty ℕ) fuel env memory,
      Engine.bare.renderWithHook hook fuel "@@[x\"]\"[y]]é@[z:1]" env memory =
        Engine.bare.renderDelegated hook fuel "@@[x\"]\"[y]]é@[z:1]" env memory := by
  have cut : segments "@@[x\"]\"[y]]é@[z:1]".toList =
      [.literal ['@'], .directive "x\"]\"[y]".toList 1 11, .literal ['é'],
        .directive "z:1".toList 13 19] := by
    cbv
  have closed : AllClosed (segments "@@[x\"]\"[y]]é@[z:1]".toList) := by
    intro start
    rw [cut]
    simp
  have foreign : ∀ body start stop,
      .directive body start stop ∈ segments "@@[x\"]\"[y]]é@[z:1]".toList → ¬IsNative body := by
    intro body start stop hm
    rw [cut] at hm
    refine (ofBody_eq_foreign_iff body).1 ?_
    simp only [List.mem_cons, List.not_mem_nil, or_false, Segment.directive.injEq, reduceCtorEq,
      false_or] at hm
    rcases hm with ⟨rfl, _⟩ | ⟨rfl, _⟩ <;> decide
  have lossless := delegation_lossless (σ := ℕ) .bare rfl "@@[x\"]\"[y]]é@[z:1]"
  refine ⟨?_, lossless.2 foreign⟩
  obtain ⟨texts, env', count, answers, outcome, _, echoed⟩ := (lossless.1 closed).2.2
    ⟨fun _ body _ env n => (.ok ("@[" ++ body ++ "]"), env, n + 1)⟩
    (fun _ body _ _ _ => ⟨_, rfl⟩) .empty 0
  have text := echoed fun _ _ _ _ _ => rfl
  rw [text] at outcome
  rw [cut] at answers
  cases answers with
  | cons first others =>
    cases first
    cases others with
    | cons second rest =>
      cases second
      cases rest
      exact (outcome _).2 rfl

end MicroTemplate.Template
