import MicroTemplate.Proofs.Template.Offsets

/-!
# The order of the variables

Variables are kept in the order in which they were first bound, and only a listing shows it.
Expressions see what a name is bound to; assignments and iterations bind the names that expressions
give. So two renders of a template without listings, begun with the same variables in different
orders, take the same steps side by side, whatever loops they go through, and the variables they
leave differ in their order at most.
-/

namespace MicroTemplate.Environment

variable {α : Type} {env env' : Environment α}

/-- Whether two environments bind the same names to the same values, in whatever order. -/
def Alike (env env' : Environment α) : Prop := env.get? = env'.get?

/-- A name that has one value at most in a list of bindings has it in every order of them. -/
theorem lookup_of_perm {bs bs' : List (String × Value α)} (p : bs.Perm bs')
    (nodup : (bs.map Prod.fst).Nodup) (name : String) : bs.lookup name = bs'.lookup name := by
  induction p with
  | nil => rfl
  | @cons b _ _ _ ih =>
    obtain ⟨n, v⟩ := b
    rw [List.lookup_cons, List.lookup_cons, ih (List.nodup_cons.1 nodup).2]
  | swap b c bs =>
    obtain ⟨n, v⟩ := b
    obtain ⟨m, w⟩ := c
    have apart : m ≠ n := fun h => (List.nodup_cons.1 nodup).1 (by simp [h])
    rw [List.lookup_cons, List.lookup_cons, List.lookup_cons, List.lookup_cons]
    by_cases hn : name = n
    · have hm : (name == m) = false := beq_eq_false_iff_ne.2 (hn ▸ Ne.symm apart)
      rw [hm]
    · rw [beq_eq_false_iff_ne.2 hn]
  | trans p _ ih ih' => exact (ih nodup).trans (ih' ((p.map Prod.fst).nodup nodup))

/-- Other orders of the same bindings are alike. -/
theorem Alike.of_perm (p : env.bindings.Perm env'.bindings) : env.Alike env' :=
  funext (lookup_of_perm p env.nodup)

/-- A name that is bound in both stands for the same value in both. -/
theorem Alike.set (h : env.Alike env') (name : String) (value : Value α) :
    (env.set name value).Alike (env'.set name value) := by
  funext other
  by_cases hn : other = name
  · subst hn
    rw [get?_set_self, get?_set_self]
  · rw [get?_set_of_ne hn, get?_set_of_ne hn]
    exact congrFun h other

end MicroTemplate.Environment

namespace MicroTemplate.Template

open Expression Text

variable {α σ : Type}

/-! ## Two renders side by side -/

/-- A state with other variables. -/
def State.withEnv (s : State α σ) (env : Environment α) : State α σ := { s with env := env }

/-- Two states that differ at most in the order of the variables. -/
inductive State.Alike (s : State α σ) : State α σ → Prop where
  /-- The variables are alike, and nothing else differs. -/
  | withEnv {env} (h : s.env.Alike env) : State.Alike s (s.withEnv env)

/-- Two steps that lead to the same but for the order of the variables. -/
inductive Progress.Alike : Progress α σ → Progress α σ → Prop where
  /-- Both go on. -/
  | next {s t} (h : s.Alike t) : Progress.Alike (.next s) (.next t)
  /-- Both are at the end. -/
  | done {s t} (h : s.Alike t) : Progress.Alike (.done s) (.done t)
  /-- Both fail with the same error. -/
  | failed {e s t} (h : s.Alike t) : Progress.Alike (.failed e s) (.failed e t)

/-- Two outcomes with the same text or error, and with the same variables in whatever order. -/
structure Outcome.Alike (o o' : Outcome α σ) : Prop where
  /-- The text or the error is the same. -/
  result : o.result = o'.result
  /-- The same names are bound to the same values. -/
  env : o.env.Alike o'.env
  /-- The memory of the hook is the same. -/
  memory : o.memory = o'.memory
  /-- The engine is the same. -/
  engine : o.engine = o'.engine

/-- The body of a listing is the keyword alone. -/
theorem ofBody_eq_listing_iff (body : List Char) :
    Directive.ofBody body = .listing ↔ trim body = "LIST".toList := by
  constructor
  · intro h
    rw [Directive.ofBody] at h
    split at h
    · cases h
    · split at h
      · rw [Directive.ofArgument] at h
        split at h <;> cases h
      · rw [Directive.ofKeyword] at h
        split at h <;> try cases h
        next hk => rw [← hk, String.toList_ofList]
  · intro h
    rw [Directive.ofBody, h]
    decide

/-- Whether there is no listing among some segments. -/
def Unlisted (segments : List Segment) : Prop :=
  ∀ body start stop, .directive body start stop ∈ segments → trim body ≠ "LIST".toList

namespace Setting

variable [HostObject α] {r : Setting α Unit} {s t : State α Unit} {env : Environment α}

/-- Expressions do not see the order of the variables. -/
theorem context_of_alike (h : s.env.Alike env) :
    r.context (s.withEnv env) = r.context s := by
  rw [context, context, Engine.context, Engine.context, h]
  rfl

/-- A directive that is no listing leads to the same in another order of the variables. -/
theorem Leads.alike (silent : r.hook = .silent) {body : List Char} {start stop : ℕ}
    {d : Directive} {p : Progress α Unit} (leads : r.Leads body start stop d s p)
    (hd : d ≠ .listing) (h : s.env.Alike env) :
    ∃ q, p.Alike q ∧ r.Leads body start stop d (s.withEnv env) q := by
  have seen : r.context (s.withEnv env) = r.context s := context_of_alike h
  have stays {t : State α Unit} (ht : t.env = s.env) : t.Alike (t.withEnv env) := .withEnv (ht ▸ h)
  have bound (name : String) (value : Value α) {t : State α Unit}
      (ht : t.env = s.env.set name value) :
      t.Alike (t.withEnv (env.set name value)) :=
    .withEnv (ht ▸ h.set name value)
  cases leads with
  | ignored he hd => exact ⟨_, .next (stays rfl), .ignored he hd⟩
  | output he hv => exact ⟨_, .next (stays rfl), .output he (seen ▸ hv)⟩
  | outputFails he hv => exact ⟨_, .failed (stays rfl), .outputFails he (seen ▸ hv)⟩
  | assign he hs hv hn =>
    exact ⟨_, .next (bound _ _ rfl), .assign he hs (seen ▸ hv) (seen ▸ hn)⟩
  | unassigned he hs => exact ⟨_, .next (stays rfl), .unassigned he hs⟩
  | valueFails he hs hv => exact ⟨_, .failed (stays rfl), .valueFails he hs (seen ▸ hv)⟩
  | nameFails he hs hv hn =>
    exact ⟨_, .failed (stays rfl), .nameFails he hs (seen ▸ hv) (seen ▸ hn)⟩
  | listing => exact absurd rfl hd
  | foreign he hh =>
    rw [silent] at hh
    cases hh
    exact ⟨_, .next (stays rfl), .foreign he (by rw [silent]; rfl)⟩
  | foreignFails he hh =>
    rw [silent] at hh
    cases hh
  | openConditional he hv => exact ⟨_, .next (stays rfl), .openConditional he (seen ▸ hv)⟩
  | conditionFails he hv => exact ⟨_, .failed (stays rfl), .conditionFails he (seen ▸ hv)⟩
  | openConditionalIgnored he => exact ⟨_, .next (stays rfl), .openConditionalIgnored he⟩
  | openLoop he hv => exact ⟨_, .next (stays rfl), .openLoop he (seen ▸ hv)⟩
  | loopFails he hv => exact ⟨_, .failed (stays rfl), .loopFails he (seen ▸ hv)⟩
  | openLoopIgnored he => exact ⟨_, .next (stays rfl), .openLoopIgnored he⟩
  | openIteration he hh hv hn hi =>
    exact ⟨_, .next (bound _ _ rfl), .openIteration he hh (seen ▸ hv) (seen ▸ hn) hi⟩
  | openEmpty he hh hv hn hi =>
    exact ⟨_, .next (stays rfl), .openEmpty he hh (seen ▸ hv) (seen ▸ hn) hi⟩
  | openHeadless he hh => exact ⟨_, .next (stays rfl), .openHeadless he hh⟩
  | sourceFails he hh hv => exact ⟨_, .failed (stays rfl), .sourceFails he hh (seen ▸ hv)⟩
  | targetFails he hh hv hn =>
    exact ⟨_, .failed (stays rfl), .targetFails he hh (seen ▸ hv) (seen ▸ hn)⟩
  | openIterationIgnored he => exact ⟨_, .next (stays rfl), .openIterationIgnored he⟩
  | otherwise hf => exact ⟨_, .next (stays rfl), .otherwise hf⟩
  | otherwiseIgnored hf => exact ⟨_, .next (stays rfl), .otherwiseIgnored hf⟩
  | endConditional hf => exact ⟨_, .next (stays rfl), .endConditional hf⟩
  | endConditionalIgnored hf => exact ⟨_, .next (stays rfl), .endConditionalIgnored hf⟩
  | again hf hv => exact ⟨_, .next (stays rfl), .again hf (seen ▸ hv)⟩
  | endLoop hf hv => exact ⟨_, .next (stays rfl), .endLoop hf (seen ▸ hv)⟩
  | againFails hf hv => exact ⟨_, .failed (stays rfl), .againFails hf (seen ▸ hv)⟩
  | endLoopIgnored hf => exact ⟨_, .next (stays rfl), .endLoopIgnored hf⟩
  | nextItem hf => exact ⟨_, .next (bound _ _ rfl), .nextItem hf⟩
  | endIteration hf => exact ⟨_, .next (stays rfl), .endIteration hf⟩
  | unmatched hf => exact ⟨_, .failed (stays rfl), .unmatched hf⟩

/-- Where no listing comes next, a step leads to the same in another order of the variables. -/
theorem step_alike (hm : r.mode = .interpret) (silent : r.hook = .silent) (hs : Unlisted s.rest)
    (h : s.env.Alike env) : (r.step s).Alike (r.step (s.withEnv env)) := by
  have stays {t : State α Unit} (ht : t.env = s.env) : t.Alike (t.withEnv env) := .withEnv (ht ▸ h)
  generalize hp : r.step s = p
  have takes : r.Takes s p := takes_of_step hm hp
  have rest {segments : List Segment} (hr : s.rest = segments) :
      (s.withEnv env).rest = segments := hr
  have frames {opened : List (Frame α)} (hf : s.frames = opened) :
      (s.withEnv env).frames = opened := hf
  cases takes with
  | done hr hf =>
    rw [step, rest hr, frames hf]
    exact .done (stays rfl)
  | unclosed hr hf =>
    rw [step, rest hr, frames hf]
    exact .failed (stays rfl)
  | @literal text others hr =>
    rw [step_literal (rest hr), State.emit_eq, State.emit_eq]
    exact .next (stays rfl)
  | unterminated hr =>
    rw [step, rest hr]
    exact .failed (stays rfl)
  | @directive body start stop others _ hr leads =>
    have unlisted : trim body ≠ "LIST".toList := hs body start stop (by rw [hr]; simp)
    have hd : Directive.ofBody body ≠ .listing := mt (ofBody_eq_listing_iff body).1 unlisted
    obtain ⟨q, alike, next⟩ := leads.alike silent hd h
    rwa [next.step_eq hm (rest hr)]

/-- Without listings anywhere, a whole run is the same in another order of the variables. -/
theorem run_alike (hm : r.mode = .interpret) (silent : r.hook = .silent)
    (hs : ∀ place ∈ s.places, Unlisted place) (h : s.env.Alike env) (fuel : ℕ) :
    Option.Rel Outcome.Alike (r.run fuel s) (r.run fuel (s.withEnv env)) := by
  induction fuel generalizing s env with
  | zero => exact .none
  | succ fuel ih =>
    have first := step_alike hm silent (hs _ List.mem_cons_self) h
    rw [run, run]
    generalize hp : r.step s = p at first
    generalize r.step (s.withEnv env) = q at first
    cases first with
    | @next t _ alike =>
      obtain ⟨ht⟩ := alike
      have places : ∀ place ∈ t.places, Unlisted place :=
        Reaches.places (fun segment rest _ hu body start stop hb =>
          hu body start stop (List.mem_cons_of_mem _ hb)) (.single hp) hs
      exact ih places ht
    | done alike =>
      obtain ⟨ht⟩ := alike
      exact .some ⟨rfl, ht, rfl, rfl⟩
    | failed alike =>
      obtain ⟨ht⟩ := alike
      exact .some ⟨rfl, ht, rfl, rfl⟩

end Setting

/-- The order in which variables were bound is seen by listings only: a template without one is
rendered to the same text or the same error from environments that are alike, in as many steps, and
leaves environments that are alike. -/
theorem render_alike [HostObject α] (engine : Engine α) (template : String)
    (hs : Unlisted (segments template.toList)) {env env' : Environment α} (h : env.Alike env')
    (fuel : ℕ) :
    Option.Rel Outcome.Alike (engine.render fuel template env)
      (engine.render fuel template env') := by
  rw [Engine.render, Engine.render, Engine.renderIn, Engine.renderIn]
  split
  · exact .some ⟨rfl, h, rfl, rfl⟩
  · exact Setting.run_alike (s := Setting.start template.toList env ()) rfl rfl
      (List.forall_mem_singleton.2 hs) h fuel

/-- A loop binds names that it computes, behind variables in either order. -/
theorem render_alike_swapped :
    ∃ o o', Engine.bare.render 12
        "@[WHILE:a < 3]@[SET:\"v\" . a=b]@[SET:a=a+1]@[ENDWHILE]@[=v1 . v2]"
        ⟨[("a", .int 1), ("b", .int 7)], by decide⟩ = some o ∧
      Engine.bare.render 12 "@[WHILE:a < 3]@[SET:\"v\" . a=b]@[SET:a=a+1]@[ENDWHILE]@[=v1 . v2]"
        ⟨[("b", .int 7), ("a", .int 1)], by decide⟩ = some o' ∧
      o.result = .ok "77" ∧ o.env.bindings.map Prod.fst = ["a", "b", "v1", "v2"] ∧
      o'.env.bindings.map Prod.fst = ["b", "a", "v1", "v2"] ∧ o.Alike o' := by
  have cut : segments
      "@[WHILE:a < 3]@[SET:\"v\" . a=b]@[SET:a=a+1]@[ENDWHILE]@[=v1 . v2]".toList =
      [.directive "WHILE:a < 3".toList 0 14, .directive "SET:\"v\" . a=b".toList 14 30,
        .directive "SET:a=a+1".toList 30 42, .directive "ENDWHILE".toList 42 53,
        .directive "=v1 . v2".toList 53 64] := by
    cbv
  have swapped : (⟨[("a", .int 1), ("b", .int 7)], by decide⟩ : Environment Empty).Alike
      ⟨[("b", .int 7), ("a", .int 1)], by decide⟩ :=
    .of_perm (.swap _ _ _)
  have unlisted : Unlisted (segments
      "@[WHILE:a < 3]@[SET:\"v\" . a=b]@[SET:a=a+1]@[ENDWHILE]@[=v1 . v2]".toList) := by
    intro body start stop hm
    rw [cut] at hm
    simp only [List.mem_cons, List.not_mem_nil, or_false, Segment.directive.injEq] at hm
    rcases hm with ⟨rfl, _⟩ | ⟨rfl, _⟩ | ⟨rfl, _⟩ | ⟨rfl, _⟩ | ⟨rfl, _⟩ <;> decide
  have ended : ∃ o o', Engine.bare.render 12
        "@[WHILE:a < 3]@[SET:\"v\" . a=b]@[SET:a=a+1]@[ENDWHILE]@[=v1 . v2]"
        ⟨[("a", .int 1), ("b", .int 7)], by decide⟩ = some o ∧
      Engine.bare.render 12 "@[WHILE:a < 3]@[SET:\"v\" . a=b]@[SET:a=a+1]@[ENDWHILE]@[=v1 . v2]"
        ⟨[("b", .int 7), ("a", .int 1)], by decide⟩ = some o' ∧
      o.result = .ok "77" ∧ o.env.bindings.map Prod.fst = ["a", "b", "v1", "v2"] ∧
      o'.env.bindings.map Prod.fst = ["b", "a", "v1", "v2"] :=
    ⟨_, _, by cbv, by cbv, rfl, rfl, rfl⟩
  obtain ⟨o, o', ho, ho', text, names, names'⟩ := ended
  have alike := render_alike Engine.bare _ unlisted swapped 12
  rw [ho, ho'] at alike
  cases alike with
  | some alike => exact ⟨o, o', ho, ho', text, names, names', alike⟩

end MicroTemplate.Template
