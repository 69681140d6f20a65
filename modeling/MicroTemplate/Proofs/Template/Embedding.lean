import MicroTemplate.Proofs.Template.Segments

/-!
# Expressions in directives

An expression that evaluates can be put into a directive as it is, whatever brackets, colons and
equals signs stand between its quotation marks. The directive ends where it was meant to end, and
the render goes on with the value that the expression has by itself.
-/

namespace MicroTemplate.Template

open Expression Text

/-! ## Bodies -/

/-- What a body means that begins with an equals sign. -/
theorem ofBody_output (e : List Char) : Directive.ofBody ('=' :: e) = .output (trimEnd e) := by
  have body : trim ('=' :: e) = '=' :: trimEnd e := trimEnd_append_cons [] (by decide) e
  rw [Directive.ofBody, body]
  rfl

/-- What a body means that begins with the keyword of a section. -/
theorem ofBody_condition (e : List Char) :
    Directive.ofBody ('I' :: 'F' :: ':' :: e) = .openConditional (trimEnd e) := by
  have body : trim ('I' :: 'F' :: ':' :: e) = 'I' :: 'F' :: ':' :: trimEnd e :=
    trimEnd_append_cons ['I', 'F'] (by decide) e
  rw [Directive.ofBody, body]
  rfl

/-- What a body means that begins with the keyword of an assignment. -/
theorem ofBody_assignment (name e : List Char) :
    Directive.ofBody ('S' :: 'E' :: 'T' :: ':' :: (name ++ '=' :: e)) =
      .assign (name ++ '=' :: trimEnd e) := by
  have body : trim ('S' :: 'E' :: 'T' :: ':' :: (name ++ '=' :: e)) =
      'S' :: 'E' :: 'T' :: ':' :: (name ++ '=' :: trimEnd e) :=
    trimEnd_append_cons ('S' :: 'E' :: 'T' :: ':' :: name) (by decide) e
  rw [Directive.ofBody, body]
  rfl

variable {α : Type} [HostObject α]

/-- White space at the end of an expression does not change its value. -/
theorem evaluate_trimEnd {ctx : Context α} {e : List Char} {v : Value α}
    (h : evaluate ctx e = .ok v) : evaluate ctx (trimEnd e) = .ok v := by
  obtain ⟨blanks, he, hb⟩ := exists_of_trimEnd e
  obtain ⟨result, trimmed, whole⟩ := evaluate_append_blank ctx (trimEnd e) hb
  rw [← he, h] at whole
  rw [trimmed, ok_of_mapError whole.symm]
  rfl

/-- Nor does it change the cause of a failure. -/
theorem evaluate_trimEnd_of_error {ctx : Context α} {e : List Char} {cause : Cause}
    (h : evaluate ctx e = .error (.evaluation (.ofList e) cause)) :
    evaluate ctx (trimEnd e) = .error (.evaluation (.ofList (trimEnd e)) cause) := by
  obtain ⟨blanks, he, hb⟩ := exists_of_trimEnd e
  obtain ⟨result, trimmed, whole⟩ := evaluate_append_blank ctx (trimEnd e) hb
  rw [← he, h] at whole
  obtain ⟨_, rfl, same⟩ := error_of_mapError whole.symm
  cases same
  exact trimmed

/-- There is no equals sign in a name. -/
theorem ne_equals_of_isName {name : List Char} (hname : isName name = true) :
    ∀ c ∈ name, c ≠ '=' := by
  rintro c hc rfl
  have word := isWordChar_of_isName hname _ hc
  revert word
  decide

/-- A name is what stands before the first equals sign behind it. -/
theorem splitFirst?_assignment {name : List Char} (hname : isName name = true) (e : List Char) :
    splitFirst? (· == '=') (name ++ '=' :: e) = some (name, e) :=
  splitFirst?_append_cons (fun hm => ne_equals_of_isName hname _ hm rfl) e

/-- A name gives itself. -/
theorem evaluateName_of_isName (ctx : Context α) {name : List Char} (hname : isName name = true) :
    evaluateName ctx name = .ok (.ofList name) := by
  have whole : trim name = name :=
    trim_eq_self fun c hc => isSpace_of_isWordChar (isWordChar_of_isName hname c hc)
  rw [evaluateName, whole, if_pos hname]

/-! ## Steps -/

section

variable {σ : Type} {r : Setting α σ} (hm : r.mode = .interpret) {s : State α σ}
  (he : s.emitting = true) {e : List Char} {v : Value α}
  (hv : evaluate (r.context s) e = .ok v) {start stop : Nat} {rest : List Segment}

include hm he hv

/-- An expression is shown. -/
theorem step_output (hs : s.rest = .directive ('=' :: e) start stop :: rest) :
    r.step s = .next { s with rest := rest, output := s.output ++ v.write } := by
  have text : evaluateText (r.context s) (trimEnd e) = .ok v.write := by
    rw [evaluateText, evaluate_trimEnd hv]
    rfl
  refine Setting.Leads.step_eq hm hs ?_
  rw [ofBody_output]
  exact .output he text

/-- A section is opened. -/
theorem step_condition (hs : s.rest = .directive ('I' :: 'F' :: ':' :: e) start stop :: rest) :
    r.step s = .next
      { s with rest := rest, frames := .conditional true :: s.frames, emitting := v.truth } := by
  have holds : evaluateBool (r.context s) (trimEnd e) = .ok v.truth := by
    rw [evaluateBool, evaluate_trimEnd hv]
    rfl
  refine Setting.Leads.step_eq hm hs ?_
  rw [ofBody_condition]
  exact .openConditional he holds

/-- A name is bound. -/
theorem step_assignment {name : List Char} (hname : isName name = true)
    (hs : s.rest =
      .directive ('S' :: 'E' :: 'T' :: ':' :: (name ++ '=' :: e)) start stop :: rest) :
    r.step s = .next { s with rest := rest, env := s.env.set (.ofList name) v } := by
  refine Setting.Leads.step_eq hm hs ?_
  rw [ofBody_assignment]
  exact .assign he (splitFirst?_assignment hname _) (evaluate_trimEnd hv)
    (evaluateName_of_isName _ hname)

end

/-- A section shows one of its two parts. -/
theorem reaches_conditional {σ : Type} {r : Setting α σ} (hm : r.mode = .interpret)
    (frames : List (Frame α)) (shown : Bool) (output : String) (env : Environment α) (memory : σ)
    (a b : List Char) (i j k l : Nat) (rest : List Segment) :
    r.Reaches
      ⟨literalBefore a (.directive "ELSE".toList i j ::
        literalBefore b (.directive "ENDIF".toList k l :: rest)),
        .conditional true :: frames, shown, output, env, memory⟩
      ⟨rest, frames, true, output ++ .ofList (if shown then a else b), env, memory⟩ := by
  have literal (shown : Bool) (output : String) (text : List Char) (rest : List Segment) :
      r.Reaches ⟨literalBefore text rest, .conditional true :: frames, shown, output, env, memory⟩
        ⟨rest, .conditional true :: frames, shown,
          if shown then output ++ .ofList text else output, env, memory⟩ := by
    have reached := Setting.reaches_literalBefore r
      ⟨[], .conditional true :: frames, shown, output, env, memory⟩ text rest
    rwa [State.emit_eq] at reached
  have turns (output : String) (rest : List Segment) : r.step
      ⟨.directive "ELSE".toList i j :: rest, .conditional true :: frames, shown, output, env,
        memory⟩ = .next ⟨rest, .conditional true :: frames, !shown, output, env, memory⟩ :=
    Setting.Leads.step_eq hm rfl (.otherwise rfl)
  have ends (output : String) : r.step
      ⟨.directive "ENDIF".toList k l :: rest, .conditional true :: frames, !shown, output, env,
        memory⟩ = .next ⟨rest, frames, true, output, env, memory⟩ :=
    Setting.Leads.step_eq hm rfl (.endConditional rfl)
  have first := (literal shown output a _).tail
    (turns _ (literalBefore b (.directive "ENDIF".toList k l :: rest)))
  have second := (first.trans (literal (!shown) _ b _)).tail (ends _)
  cases shown <;> exact second

/-! ## Renders -/

/-- Text without a marker and then a directive. -/
theorem segmentsFrom_literal_directive (offset : Nat) (text : List Char)
    {cs body after : List Char} (ht : ¬marker <:+: text)
    (hs : splitBody? 0 false cs = some (body, after)) :
    ∃ start stop, segmentsFrom offset [] (text ++ '@' :: '[' :: cs) =
      literalBefore text (.directive body start stop :: segmentsFrom stop [] after) := by
  rw [segmentsFrom_literal offset [] ht (by simp), segmentsFrom_directive _ _ hs,
    List.append_nil, List.reverse_reverse]
  exact ⟨_, _, rfl⟩

/-- The scanner of directives passes over a name. -/
theorem seamless_of_isName {name : List Char} (h : isName name = true) : Seamless name :=
  seamless_run fun c hc => not_mem_marks_of_isWordChar (isWordChar_of_isName h c hc)

/-- An assignment of an expression that the scanner of directives passes over is one directive. -/
theorem exists_segments_assignment {x e : String} (hx : isName x.toList = true)
    (he : Seamless e.toList) :
    ∃ start stop, segments ("@[SET:" ++ x ++ "=" ++ e ++ "]").toList =
      [.directive ('S' :: 'E' :: 'T' :: ':' :: (x.toList ++ '=' :: e.toList)) start stop] := by
  have binding : Seamless (x.toList ++ '=' :: e.toList) :=
    (seamless_of_isName hx).append (he.cons (by decide) (by decide) (by decide))
  have keyword : Seamless "SET:".toList := seamless_of_all (by decide)
  have text : ("@[SET:" ++ x ++ "=" ++ e ++ "]").toList =
      [] ++ '@' :: '[' :: ("SET:".toList ++ (x.toList ++ '=' :: e.toList) ++ [']']) := by
    simp
  obtain ⟨start, stop, segments⟩ :=
    segmentsFrom_literal_directive 0 [] (by decide) ((keyword.append binding).splitBody? [])
  rw [← text, segmentsFrom] at segments
  exact ⟨start, stop, segments⟩

section

variable {engine : Engine α} (hr : engine.rendering = false) {env : Environment α} {e : String}
  {v : Value α} (hv : engine.evaluate env e = .ok v)

include hr hv

/-- An expression in an output directive. -/
theorem exists_render_output (o : Outcome α Unit) :
    (∃ fuel, engine.render fuel ("@[=" ++ e ++ "]") env = some o) ↔
      o = ⟨.ok v.write, env, (), engine⟩ := by
  have whole : Seamless e.toList := seamless_of_evaluate hv
  have body : Seamless ('=' :: e.toList) := whole.cons (by decide) (by decide) (by decide)
  have text : ("@[=" ++ e ++ "]").toList = [] ++ '@' :: '[' :: ('=' :: e.toList ++ [']']) := by
    simp
  obtain ⟨start, stop, segments⟩ :=
    segmentsFrom_literal_directive 0 [] (by decide) (body.splitBody? [])
  rw [← text, segmentsFrom] at segments
  have shown := step_output (r := engine.setting ("@[=" ++ e ++ "]"))
    (s := Setting.start ("@[=" ++ e ++ "]").toList env ()) rfl rfl hv segments
  rw [Engine.exists_render_iff hr (.single shown) rfl rfl]
  simp [Setting.start]

/-- An expression as the condition of a section. -/
theorem exists_render_conditional {a b : String} (ha : '@' ∉ a.toList) (hb : '@' ∉ b.toList)
    (o : Outcome α Unit) :
    (∃ fuel, engine.render fuel
        ("@[IF:" ++ e ++ "]" ++ a ++ "@[ELSE]" ++ b ++ "@[ENDIF]") env = some o) ↔
      o = ⟨.ok (if v.truth then a else b), env, (), engine⟩ := by
  have whole : Seamless e.toList := seamless_of_evaluate hv
  have keyword : Seamless "IF:".toList := seamless_of_all (by decide)
  have otherwise : Seamless "ELSE".toList := seamless_of_all (by decide)
  have ends : Seamless "ENDIF".toList := seamless_of_all (by decide)
  have text : ("@[IF:" ++ e ++ "]" ++ a ++ "@[ELSE]" ++ b ++ "@[ENDIF]").toList =
      [] ++ '@' :: '[' :: ("IF:".toList ++ e.toList ++ ']' ::
        (a.toList ++ '@' :: '[' :: ("ELSE".toList ++ ']' ::
          (b.toList ++ '@' :: '[' :: ("ENDIF".toList ++ [']']))))) := by
    simp
  obtain ⟨start, stop, segments⟩ :=
    segmentsFrom_literal_directive 0 [] (by decide) ((keyword.append whole).splitBody? _)
  obtain ⟨i, j, second⟩ :=
    segmentsFrom_literal_directive stop a.toList (not_isInfix_marker ha) (otherwise.splitBody? _)
  obtain ⟨k, l, third⟩ :=
    segmentsFrom_literal_directive j b.toList (not_isInfix_marker hb) (ends.splitBody? [])
  have last : segmentsFrom l [] [] = [] := by
    rw [segmentsFrom]
    rfl
  rw [third, last] at second
  rw [second, ← text] at segments
  have opened := step_condition
    (r := engine.setting ("@[IF:" ++ e ++ "]" ++ a ++ "@[ELSE]" ++ b ++ "@[ENDIF]"))
    (s := Setting.start
      ("@[IF:" ++ e ++ "]" ++ a ++ "@[ELSE]" ++ b ++ "@[ENDIF]").toList env ())
    rfl rfl hv segments
  have parts := reaches_conditional (r := engine.setting
    ("@[IF:" ++ e ++ "]" ++ a ++ "@[ELSE]" ++ b ++ "@[ENDIF]")) rfl [] v.truth "" env ()
    a.toList b.toList i j k l []
  rw [Engine.exists_render_iff hr (parts.head opened) rfl rfl]
  cases v.truth <;> simp

/-- An expression in an assignment. -/
theorem exists_render_assignment {x : String} (hx : isName x.toList = true)
    (o : Outcome α Unit) :
    (∃ fuel, engine.render fuel ("@[SET:" ++ x ++ "=" ++ e ++ "]") env = some o) ↔
      o = ⟨.ok "", env.set x v, (), engine⟩ := by
  obtain ⟨start, stop, segments⟩ := exists_segments_assignment hx (seamless_of_evaluate hv)
  have bound := step_assignment (r := engine.setting ("@[SET:" ++ x ++ "=" ++ e ++ "]"))
    (s := Setting.start ("@[SET:" ++ x ++ "=" ++ e ++ "]").toList env ()) rfl rfl hv hx segments
  rw [Engine.exists_render_iff hr (.single bound) rfl rfl, String.ofList_toList]
  rfl

end

/-- An expression that fails in an assignment. -/
theorem exists_render_assignment_failed {engine : Engine α} (hr : engine.rendering = false)
    {env : Environment α} {x e : String} (he : Seamless e.toList) (hx : isName x.toList = true)
    {error : Error} (hv : evaluate (engine.context env) (trimEnd e.toList) = .error error)
    (o : Outcome α Unit) :
    (∃ fuel, engine.render fuel ("@[SET:" ++ x ++ "=" ++ e ++ "]") env = some o) ↔
      o = ⟨.error error, env, (), engine⟩ := by
  obtain ⟨start, stop, segments⟩ := exists_segments_assignment hx he
  have fails : (engine.setting ("@[SET:" ++ x ++ "=" ++ e ++ "]")).step
      (Setting.start ("@[SET:" ++ x ++ "=" ++ e ++ "]").toList env ()) =
        .failed error ⟨[], [], true, "", env, ()⟩ := by
    refine Setting.Leads.step_eq rfl segments ?_
    rw [ofBody_assignment]
    exact .valueFails rfl (splitFirst?_assignment hx _) hv
  have idle : ({ (engine.setting ("@[SET:" ++ x ++ "=" ++ e ++ "]")).engine with
      rendering := false } : Engine α) = engine :=
    Engine.settingWith_engine hr .interpret .silent _
  simp only [Engine.render_eq_run hr]
  rw [Setting.exists_run_iff_of_failed fails, idle]

/-- An expression that evaluates can be put into a directive as it is. Where its value is to be
shown, the outcome is the text form of the value; a section goes by the truth of the value; and an
assignment binds the name to the value. -/
theorem render_embedded (engine : Engine α) (hr : engine.rendering = false) (env : Environment α)
    (e : String) (v : Value α) (hv : engine.evaluate env e = .ok v) :
    (∀ o, (∃ fuel, engine.render fuel ("@[=" ++ e ++ "]") env = some o) ↔
        o = ⟨.ok v.write, env, (), engine⟩) ∧
      (∀ a b : String, '@' ∉ a.toList → '@' ∉ b.toList → ∀ o,
        (∃ fuel, engine.render fuel
            ("@[IF:" ++ e ++ "]" ++ a ++ "@[ELSE]" ++ b ++ "@[ENDIF]") env = some o) ↔
          o = ⟨.ok (if v.truth then a else b), env, (), engine⟩) ∧
      ∀ x : String, isName x.toList = true → ∀ o,
        (∃ fuel, engine.render fuel ("@[SET:" ++ x ++ "=" ++ e ++ "]") env = some o) ↔
          o = ⟨.ok "", env.set x v, (), engine⟩ :=
  ⟨exists_render_output hr hv, fun _ _ ha hb => exists_render_conditional hr hv ha hb,
    fun _ hx => exists_render_assignment hr hv hx⟩

/-- The expression `"]@[:=" . n` in the three directives, where `n` is two. -/
theorem render_embedded_brackets :
    (∃ fuel, Engine.bare.render fuel "@[=\"]@[:=\" . n]" (.ofList [("n", .int 2)]) =
        some ⟨.ok "]@[:=2", .ofList [("n", .int 2)], (), .bare⟩) ∧
      (∃ fuel, Engine.bare.render fuel "@[IF:\"]@[:=\" . n]A@[ELSE]B@[ENDIF]"
          (.ofList [("n", .int 2)]) =
        some ⟨.ok "A", .ofList [("n", .int 2)], (), .bare⟩) ∧
      ∃ fuel, Engine.bare.render fuel "@[SET:x=\"]@[:=\" . n]" (.ofList [("n", .int 2)]) =
        some ⟨.ok "", .ofList [("n", .int 2), ("x", .text "]@[:=2")], (), .bare⟩ := by
  have value : Engine.bare.evaluate (.ofList [("n", .int 2)]) "\"]@[:=\" . n" =
      .ok (.text "]@[:=2") := by
    cbv
  obtain ⟨output, conditional, assignment⟩ := render_embedded .bare rfl _ _ _ value
  refine ⟨(output _).2 rfl, (conditional "A" "B" (by decide) (by decide) _).2 rfl, ?_⟩
  exact (assignment "x" (by decide) _).2 rfl

end MicroTemplate.Template
