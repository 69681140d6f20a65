import MicroTemplate.Proofs.Template.Meaning

/-!
# Rendering computes what the block tree means

A render with its stack of blocks and its way of going back in the text does what the block tree of
the template means. `Computes` says of a state that runs from it have the endings of a meaning and
no others, up to where a following state takes over. Each way to put meanings together is matched by
the steps of a render, and the parts of a template are put together from these. Runs are compared by
their length, since the only induction that goes over all passes through a loop is that on the steps
that are left.
-/

namespace MicroTemplate.Template

open Expression

variable {α σ : Type} [HostObject α]

/-- The state of a render on a store, before some segments and inside some blocks. -/
def Store.at (s : Store α σ) (rest : List Segment) (frames : List (Frame α)) (emitting : Bool) :
    State α σ :=
  ⟨rest, frames, emitting, s.output, s.env, s.memory⟩

namespace Setting

/-- Whether the outcome `o` follows an ending: a failure is the outcome, and otherwise a run of at
most `fuel` steps from the state that takes over has the outcome. -/
def Follows (r : Setting α σ) (leave : Store α σ → State α σ) (o : Outcome α σ) (fuel : Nat) :
    Ending α σ → Prop
  | .done s => r.run fuel (leave s) = some o
  | .failed e s => o = (Ending.failed e s).outcome r.engine

/-- Whether runs from a state have certain endings, after which the states `leave` take over. -/
structure Computes (r : Setting α σ) (s : State α σ) (leave : Store α σ → State α σ)
    (endings : Ending α σ → Prop) : Prop where
  /-- What follows one of the endings is the outcome of a run. -/
  forth : ∀ {ending o} (fuel : Nat), endings ending → r.Follows leave o fuel ending →
    ∃ fuel', r.run fuel' s = some o
  /-- The outcome of a run follows one of the endings, with no more steps. -/
  back : ∀ {o fuel}, r.run fuel s = some o →
    ∃ ending, endings ending ∧ ∃ fuel' ≤ fuel, r.Follows leave o fuel' ending

section

variable {r : Setting α σ} {s t : State α σ} {leave : Store α σ → State α σ}
  {endings : Ending α σ → Prop} {store : Store α σ}

/-- A state computes what a later one does. -/
theorem Computes.of_reaches (h : r.Reaches s t) (ht : r.Computes t leave endings) :
    r.Computes s leave endings := by
  constructor
  · intro ending o fuel he hf
    obtain ⟨n, hn⟩ := ht.forth fuel he hf
    exact h.run hn
  · intro o fuel hs
    obtain ⟨n, hn, hr⟩ := h.run_of_run hs
    obtain ⟨ending, he, m, hm, hf⟩ := ht.back hr
    exact ⟨ending, he, m, by omega, hf⟩

/-- A state computes what the next one does. -/
theorem Computes.of_next (h : r.step s = .next t) (ht : r.Computes t leave endings) :
    r.Computes s leave endings :=
  ht.of_reaches (.single h)

/-- A state that takes over is done with what came before it. -/
theorem computes_done (r : Setting α σ) (leave : Store α σ → State α σ) (store : Store α σ) :
    r.Computes (leave store) leave (Meaning.does .done store) := by
  constructor
  · rintro ending o fuel rfl hf
    exact ⟨fuel, hf⟩
  · intro o fuel hs
    exact ⟨.done store, rfl, fuel, Nat.le_refl _, hs⟩

/-- A step that fails computes the failure. -/
theorem computes_failed {e : Error} (h : r.step s = .failed e t) (henv : t.env = store.env)
    (hmemory : t.memory = store.memory) :
    r.Computes s leave (fun ending => ending = .failed e store) := by
  have fails (fuel : Nat) :
      r.run (fuel + 1) s = some ((Ending.failed e store).outcome r.engine) := by
    rw [run_failed h, henv, hmemory]
    rfl
  constructor
  · rintro ending o fuel rfl hf
    cases hf
    exact ⟨1, fails 0⟩
  · intro o fuel hs
    cases fuel with
    | zero => cases hs
    | succ n =>
      rw [fails n] at hs
      cases hs
      exact ⟨_, rfl, 0, Nat.zero_le _, rfl⟩

/-- What is done in one step. -/
theorem computes_of_done {f : Store α σ → Ending α σ} {u : Store α σ} (h : f store = .done u)
    (hs : r.step s = .next (leave u)) : r.Computes s leave (Meaning.does f store) := by
  unfold Meaning.does
  rw [h]
  exact (r.computes_done leave u).of_next hs

/-- What fails in one step. -/
theorem computes_of_failed {f : Store α σ → Ending α σ} {e : Error} {u : Store α σ}
    (h : f store = .failed e u) (hs : r.step s = .failed e t) (henv : t.env = u.env)
    (hmemory : t.memory = u.memory) : r.Computes s leave (Meaning.does f store) := by
  unfold Meaning.does
  rw [h]
  exact computes_failed hs henv hmemory

/-- One thing is computed after another. -/
theorem Computes.andThen {first next : Meaning α σ} (mid : Store α σ → State α σ)
    (hf : r.Computes s mid (first store)) (hn : ∀ u, r.Computes (mid u) leave (next u)) :
    r.Computes s leave (first.andThen next store) := by
  constructor
  · rintro ending o fuel (⟨u, hu, he⟩ | ⟨e, u, hu, rfl⟩) ho
    · obtain ⟨n, hr⟩ := (hn u).forth fuel he ho
      exact hf.forth n hu hr
    · exact hf.forth fuel hu ho
  · intro o fuel hs
    obtain ⟨ending, he, n, hle, ho⟩ := hf.back hs
    cases ending with
    | done u =>
      obtain ⟨ending, hu, m, hm, hf⟩ := (hn u).back ho
      exact ⟨ending, .inl ⟨u, he, hu⟩, m, by omega, hf⟩
    | failed e u => exact ⟨.failed e u, .inr ⟨e, u, he, rfl⟩, n, hle, ho⟩

/-- The state that takes over may be a later one. -/
theorem Computes.upto {mid : Store α σ → State α σ} (h : r.Computes s mid endings)
    (hm : ∀ u, r.step (mid u) = .next (leave u)) : r.Computes s leave endings := by
  constructor
  · intro ending o fuel he hf
    cases ending with
    | done u => exact h.forth (fuel + 1) he ((run_next (hm u) fuel).trans hf)
    | failed e u => exact h.forth fuel he hf
  · intro o fuel hs
    obtain ⟨ending, he, n, hle, ho⟩ := h.back hs
    cases ending with
    | done u =>
      cases n with
      | zero => cases ho
      | succ n => exact ⟨.done u, he, n, by omega, (run_next (hm u) n).symm.trans ho⟩
    | failed e u => exact ⟨.failed e u, he, n, hle, ho⟩

/-- What depends on an evaluation is computed by a step that fails where the evaluation does, and
otherwise leads to where its branch is computed. -/
theorem computes_choose {β : Type} {test : Store α σ → Except Error β} {branch : β → Meaning α σ}
    (fails : ∀ e, test store = .error e →
      ∃ t, r.step s = .failed e t ∧ t.env = store.env ∧ t.memory = store.memory)
    (goes : ∀ b, test store = .ok b → r.Computes s leave (branch b store)) :
    r.Computes s leave (Meaning.choose test branch store) := by
  cases h : test store with
  | error e =>
    obtain ⟨t, hs, henv, hmemory⟩ := fails e h
    have he : Meaning.choose test branch store = fun ending => ending = .failed e store := by
      funext ending
      rw [Meaning.choose, h]
    rw [he]
    exact computes_failed hs henv hmemory
  | ok b =>
    have he : Meaning.choose test branch store = branch b store := by
      funext ending
      rw [Meaning.choose, h]
    rw [he]
    exact goes b h

end

/-! ## Parts out of sight -/

section

variable {r : Setting α σ} (hm : r.mode = .interpret)

include hm

/-- A directive leads to what the rules say of what it asks for. -/
theorem step_mark {d : Directive} (mark : Mark d) {s : Store α σ} {rest : List Segment}
    {frames : List (Frame α)} {emitting : Bool} {p : Progress α σ}
    (h : r.Leads mark.body mark.start mark.stop d (s.at rest frames emitting) p) :
    r.step (s.at (mark.segment :: rest) frames emitting) = p := by
  have leads : r.Leads mark.body mark.start mark.stop (Directive.ofBody mark.body)
      (s.at rest frames emitting) p := by
    rw [mark.asks]
    exact h
  exact leads.step_eq hm rfl

/-- Out of sight, a directive without a block shows its listing. -/
theorem step_single_hidden {d : Directive} (mark : Mark d) (hd : d.isSingle) (s : Store α σ)
    (rest : List Segment) (frames : List (Frame α)) :
    r.step (s.at (mark.segment :: rest) frames false) =
      .next ((s.shown (if d = .listing then s.env.list else "")).at rest frames false) := by
  by_cases h : d = .listing
  · subst h
    rw [if_pos rfl]
    exact step_mark hm mark .listing
  · have silent : d.isSilent := by
      cases d with
      | output _ | assign _ | foreign => rfl
      | listing => exact absurd rfl h
      | openConditional _ | openLoop _ | openIteration _ | close _ => cases hd
    rw [if_neg h, s.shown_empty]
    exact step_mark hm mark (.ignored rfl silent)

mutual

/-- A render passes over parts out of sight and shows their listings. -/
theorem reaches_parts (rest : List Segment) :
    ∀ (p : Parts) (s : Store α σ) (frames : List (Frame α)),
      r.Reaches (s.at (p.before rest) frames false)
        ((s.shown (p.listings s.env.list)).at rest frames false)
  | .nil, s, frames => by
    rw [Parts.listings, s.shown_empty]
    exact .refl
  | .literal text next, s, frames => by
    refine .head ?_ (reaches_parts rest next s frames)
    exact step_literal rfl
  | @Parts.single d mark single next, s, frames => by
    refine .head (step_single_hidden hm mark single s _ frames) ?_
    have h := reaches_parts rest next (s.shown (if d = .listing then s.env.list else "")) frames
    rw [s.shown_shown] at h
    have same : (if d = .listing then s.env.list else "") ++ next.listings s.env.list =
        (Parts.single mark single next).listings s.env.list := by
      rw [Parts.listings]
      split
      · rfl
      · exact String.empty_append
    rw [← same]
    exact h
  | .conditional opening sections closing next, s, frames => by
    refine .head (step_mark hm opening (.openConditionalIgnored rfl)) ?_
    refine (reaches_sections (closing.segment :: next.before rest) sections s frames).trans ?_
    refine .head (step_mark hm closing (.endConditionalIgnored rfl)) ?_
    have h := reaches_parts rest next (s.shown (sections.listings s.env.list)) frames
    rw [s.shown_shown] at h
    exact h
  | @Parts.loop c opening body closing next, s, frames => by
    refine .head (step_mark hm opening (.openLoopIgnored rfl)) ?_
    refine (reaches_parts (closing.segment :: next.before rest) body s
      (.loop _ c false :: frames)).trans ?_
    refine .head (step_mark hm closing (.endLoopIgnored rfl)) ?_
    have h := reaches_parts rest next (s.shown (body.listings s.env.list)) frames
    rw [s.shown_shown] at h
    exact h
  | .iteration opening body closing next, s, frames => by
    refine .head (step_mark hm opening (.openIterationIgnored rfl)) ?_
    refine (reaches_parts (closing.segment :: next.before rest) body s
      (.iteration _ "" [] false :: frames)).trans ?_
    refine .head (step_mark hm closing (.endIteration rfl)) ?_
    have h := reaches_parts rest next (s.shown (body.listings s.env.list)) frames
    rw [s.shown_shown] at h
    exact h

/-- A render passes over what a section holds that was opened out of sight. -/
theorem reaches_sections (rest : List Segment) :
    ∀ (sections : Sections) (s : Store α σ) (frames : List (Frame α)),
      r.Reaches (s.at (sections.before rest) (.conditional false :: frames) false)
        ((s.shown (sections.listings s.env.list)).at rest (.conditional false :: frames) false)
  | .last body, s, frames => reaches_parts rest body s (.conditional false :: frames)
  | .more body turn others, s, frames => by
    refine (reaches_parts (turn.segment :: others.before rest) body s
      (.conditional false :: frames)).trans ?_
    refine .head (step_mark hm turn (.otherwiseIgnored rfl)) ?_
    have h := reaches_sections rest others (s.shown (body.listings s.env.list)) frames
    rw [s.shown_shown] at h
    exact h

end

/-- Parts out of sight are passed over. -/
theorem computes_passing (p : Parts) (rest : List Segment) (frames : List (Frame α))
    (s : Store α σ) :
    r.Computes (s.at (p.before rest) frames false) (·.at rest frames false) (p.passing s) :=
  (r.computes_done (·.at rest frames false) _).of_reaches (reaches_parts hm rest p s frames)

/-! ## Parts in sight -/

/-- An assignment in sight does what it means. -/
theorem computes_assignment {a : List Char} (mark : Mark (.assign a)) (rest : List Segment)
    (frames : List (Frame α)) (s : Store α σ) :
    r.Computes (s.at (mark.segment :: rest) frames true) (·.at rest frames true)
      (perform r.engine r.hook mark.body mark.stop (.assign a) s) := by
  cases hs : Text.splitFirst? (· == '=') a with
  | none =>
    refine computes_choose ?_ ?_
    · intro e h
      rw [assignment?, hs] at h
      cases h
    · intro b h
      rw [assignment?, hs] at h
      cases h
      exact computes_of_done rfl (step_mark hm mark (.unassigned rfl hs))
  | some split =>
    obtain ⟨target, e⟩ := split
    have whole : assignment? r.engine a s = (do
        let value ← evaluate (r.engine.context s.env) e
        let name ← evaluateName (r.engine.context s.env) target
        return some (name, value)) := by
      rw [assignment?, hs]
    refine computes_choose ?_ ?_
    · intro error h
      rw [whole] at h
      rcases bind_eq_error h with hv | ⟨value, hv, h⟩
      · exact ⟨_, step_mark hm mark (.valueFails rfl hs hv), rfl, rfl⟩
      · rcases bind_eq_error h with hn | ⟨name, hn, h⟩
        · exact ⟨_, step_mark hm mark (.nameFails rfl hs hv hn), rfl, rfl⟩
        · cases h
    · intro b h
      rw [whole] at h
      obtain ⟨value, hv, h⟩ := bind_eq_ok h
      obtain ⟨name, hn, h⟩ := bind_eq_ok h
      cases h
      exact computes_of_done rfl (step_mark hm mark (.assign rfl hs hv hn))

/-- A directive of the application in sight does what it means. -/
theorem computes_foreign (mark : Mark .foreign) (rest : List Segment) (frames : List (Frame α))
    (s : Store α σ) :
    r.Computes (s.at (mark.segment :: rest) frames true) (·.at rest frames true)
      (perform r.engine r.hook mark.body mark.stop .foreign s) := by
  cases hh : r.hook.handle r.engine (.ofList mark.body) mark.stop s.env s.memory with
  | mk result changed =>
    obtain ⟨env, memory⟩ := changed
    cases result with
    | ok text =>
      have means : answer r.engine r.hook mark.body mark.stop s =
          .done ⟨s.output ++ text, env, memory⟩ := by
        rw [answer, hh]
      exact computes_of_done means (step_mark hm mark (.foreign rfl hh))
    | error message =>
      have means : answer r.engine r.hook mark.body mark.stop s =
          .failed (.hook (.ofList mark.body) message) ⟨s.output, env, memory⟩ := by
        rw [answer, hh]
      exact computes_of_failed means (step_mark hm mark (.foreignFails rfl hh)) rfl rfl

/-- A directive without a block in sight does what it means. -/
theorem computes_single {d : Directive} (mark : Mark d) (hd : d.isSingle) (rest : List Segment)
    (frames : List (Frame α)) (s : Store α σ) :
    r.Computes (s.at (mark.segment :: rest) frames true) (·.at rest frames true)
      (perform r.engine r.hook mark.body mark.stop d s) := by
  cases d with
  | output e =>
    unfold perform
    refine computes_choose ?_ ?_
    · intro error h
      exact ⟨_, step_mark hm mark (.outputFails rfl h), rfl, rfl⟩
    · intro text h
      exact computes_of_done rfl (step_mark hm mark (.output rfl h))
  | assign a => exact computes_assignment hm mark rest frames s
  | listing =>
    unfold perform
    exact computes_of_done rfl (step_mark hm mark .listing)
  | foreign => exact computes_foreign hm mark rest frames s
  | openConditional _ | openLoop _ | openIteration _ | close _ => cases hd

/-! ## Blocks in sight -/

/-- The passes through a loop are those that its condition asks for. The steps that are left carry
the induction, since every pass takes at least the step back to the beginning. -/
theorem computes_passes {c : List Char} {body : Meaning α σ} {resume next : List Segment}
    {frames : List (Frame α)} (closing : Mark (.close .endLoop))
    (hb : ∀ s : Store α σ, r.Computes (s.at resume (.loop resume c true :: frames) true)
      (·.at (closing.segment :: next) (.loop resume c true :: frames) true) (body s))
    (s : Store α σ) :
    r.Computes (s.at resume (.loop resume c true :: frames) true) (·.at next frames true)
      (Meaning.Passes (holds r.engine c) body s) := by
  have again (t : Store α σ) (hc : holds r.engine c t = .ok true) :
      r.step (t.at (closing.segment :: next) (.loop resume c true :: frames) true) =
        .next (t.at resume (.loop resume c true :: frames) true) :=
    step_mark hm closing (.again rfl hc)
  have ends (t : Store α σ) (hc : holds r.engine c t = .ok false) :
      r.step (t.at (closing.segment :: next) (.loop resume c true :: frames) true) =
        .next (t.at next frames true) :=
    step_mark hm closing (.endLoop rfl hc)
  have fails (t : Store α σ) {e : Error} (hc : holds r.engine c t = .error e) :
      r.step (t.at (closing.segment :: next) (.loop resume c true :: frames) true) =
        .failed e (t.at next (.loop resume c true :: frames) true) :=
    step_mark hm closing (.againFails rfl hc)
  constructor
  · intro ending o fuel passes hf
    induction passes with
    | @again s t ending hbody hc _ ih =>
      obtain ⟨n, hn⟩ := ih hf
      exact (hb s).forth (n + 1) hbody ((run_next (again t hc) n).trans hn)
    | @last s t hbody hc =>
      exact (hb s).forth (fuel + 1) hbody ((run_next (ends t hc) fuel).trans hf)
    | @conditionFails s t e hbody hc =>
      cases hf
      exact (hb s).forth 1 hbody (run_failed (fails t hc) 0)
    | @bodyFails s t e hbody => exact (hb s).forth fuel hbody hf
  · intro o fuel
    induction fuel using Nat.strongRecOn generalizing s with
    | _ fuel ih =>
      intro hs
      obtain ⟨ending, hbody, n, hle, hf⟩ := (hb s).back hs
      cases ending with
      | failed e t => exact ⟨.failed e t, .bodyFails hbody, n, hle, hf⟩
      | done t =>
        cases n with
        | zero => cases hf
        | succ n =>
          cases hc : holds r.engine c t with
          | error e =>
            have outcome := (run_failed (fails t hc) n).symm.trans hf
            cases outcome
            exact ⟨.failed e t, .conditionFails hbody hc, 0, Nat.zero_le _, rfl⟩
          | ok goesOn =>
            cases goesOn with
            | false =>
              have rest := (run_next (ends t hc) n).symm.trans hf
              exact ⟨.done t, .last hbody hc, n, by omega, rest⟩
            | true =>
              have rest := (run_next (again t hc) n).symm.trans hf
              obtain ⟨ending, passes, m, hm, ho⟩ := ih n (by omega) t rest
              exact ⟨ending, .again hbody hc passes, m, by omega, ho⟩

/-- The passes of an iteration are one for each of its elements. -/
theorem computes_each {name : String} {body : Meaning α σ} {resume next : List Segment}
    {frames : List (Frame α)} (closing : Mark (.close .endIteration))
    (hb : ∀ (items : List (Value α)) (s : Store α σ),
      r.Computes (s.at resume (.iteration resume name items true :: frames) true)
        (·.at (closing.segment :: next) (.iteration resume name items true :: frames) true)
        (body s))
    (items : List (Value α)) : ∀ (first : Value α) (s : Store α σ),
      r.Computes ((s.bound name first).at resume (.iteration resume name items true :: frames) true)
        (·.at next frames true) (Meaning.each name body (first :: items) s) := by
  induction items with
  | nil =>
    intro first s
    refine Computes.andThen _ (hb [] (s.bound name first)) ?_
    intro t
    exact computes_of_done rfl (step_mark hm closing (.endIteration rfl))
  | cons item items ih =>
    intro first s
    refine Computes.andThen _ (hb (item :: items) (s.bound name first)) ?_
    intro t
    exact (ih item t).of_next (step_mark hm closing (.nextItem rfl))

/-- A loop whose condition is false at once is passed over. Its condition is asked again at its end,
and is false there too, since no variable has changed. -/
theorem computes_loop_hidden {c : List Char} (opening : Mark (.openLoop c)) (body : Parts)
    (closing : Mark (.close .endLoop)) (next : List Segment) (frames : List (Frame α))
    (s : Store α σ) (hc : holds r.engine c s = .ok false) :
    r.Computes (s.at (opening.segment :: body.before (closing.segment :: next)) frames true)
      (·.at next frames true) (body.passing s) := by
  have opens : r.step (s.at (opening.segment :: body.before (closing.segment :: next)) frames
      true) =
      .next (s.at (body.before (closing.segment :: next))
        (.loop (body.before (closing.segment :: next)) c true :: frames) false) :=
    step_mark hm opening (.openLoop rfl hc)
  have passes := reaches_parts hm (closing.segment :: next) body s
    (.loop (body.before (closing.segment :: next)) c true :: frames)
  have ends : r.step ((s.shown (body.listings s.env.list)).at (closing.segment :: next)
      (.loop (body.before (closing.segment :: next)) c true :: frames) false) =
      .next ((s.shown (body.listings s.env.list)).at next frames true) :=
    step_mark hm closing (.endLoop rfl hc)
  have done := r.computes_done (·.at next frames true) (s.shown (body.listings s.env.list))
  exact ((done.of_next ends).of_reaches passes).of_next opens

/-- An iteration without elements is passed over. -/
theorem computes_iteration_hidden {name : String} (body : Parts)
    (closing : Mark (.close .endIteration)) (resume next : List Segment)
    (frames : List (Frame α)) (s : Store α σ) :
    r.Computes (s.at (body.before (closing.segment :: next))
      (.iteration resume name [] true :: frames) false) (·.at next frames true)
      (body.passing s) := by
  have passes := computes_passing hm body (closing.segment :: next)
    (.iteration resume name [] true :: frames) s
  have ends (t : Store α σ) : r.step (t.at (closing.segment :: next)
      (.iteration resume name [] true :: frames) false) = .next (t.at next frames true) :=
    step_mark hm closing (.endIteration rfl)
  exact passes.upto ends

/-- The header of an iteration is taken as its snapshot says, and the passes follow. -/
theorem computes_iteration {header : List Char} {meaning : Meaning α σ}
    (opening : Mark (.openIteration header)) (body : Parts) (closing : Mark (.close .endIteration))
    (next : List Segment) (frames : List (Frame α))
    (hb : ∀ (inside : List (Frame α)) (s : Store α σ),
      r.Computes (s.at (body.before (closing.segment :: next)) inside true)
        (·.at (closing.segment :: next) inside true) (meaning s))
    (s : Store α σ) :
    r.Computes (s.at (opening.segment :: body.before (closing.segment :: next)) frames true)
      (·.at next frames true)
      (Meaning.choose (snapshot r.engine header) (.iterate body.passing meaning) s) := by
  cases hh : splitHeader? header with
  | none =>
    have taken : snapshot r.engine header s = .ok ("", []) := by
      rw [snapshot, hh]
    refine computes_choose ?_ ?_
    · intro e h
      cases taken.symm.trans h
    · intro p h
      cases taken.symm.trans h
      exact (computes_iteration_hidden hm body closing _ next frames s).of_next
        (step_mark hm opening (.openHeadless rfl hh))
  | some split =>
    obtain ⟨target, source⟩ := split
    have taken : snapshot r.engine header s = (do
        let value ← evaluate (r.engine.context s.env) source
        let name ← evaluateName (r.engine.context s.env) target
        return (name, value.elements?.getD [])) := by
      rw [snapshot, hh]
    refine computes_choose ?_ ?_
    · intro e h
      rw [taken] at h
      rcases bind_eq_error h with hv | ⟨value, hv, h⟩
      · exact ⟨_, step_mark hm opening (.sourceFails rfl hh hv), rfl, rfl⟩
      · rcases bind_eq_error h with hn | ⟨name, hn, h⟩
        · exact ⟨_, step_mark hm opening (.targetFails rfl hh hv hn), rfl, rfl⟩
        · cases h
    · intro p h
      rw [taken] at h
      obtain ⟨value, hv, h⟩ := bind_eq_ok h
      obtain ⟨name, hn, h⟩ := bind_eq_ok h
      cases h
      cases hi : value.elements?.getD [] with
      | nil =>
        exact (computes_iteration_hidden hm body closing _ next frames s).of_next
          (step_mark hm opening (.openEmpty rfl hh hv hn hi))
      | cons first items =>
        refine Computes.of_next (step_mark hm opening (.openIteration rfl hh hv hn hi)) ?_
        exact computes_each hm closing (fun items => hb (.iteration _ name items true :: frames))
          items first s

mutual

/-- A render does what parts in sight mean. -/
theorem computes_parts : ∀ (p : Parts) (rest : List Segment) (frames : List (Frame α))
    (s : Store α σ), r.Computes (s.at (p.before rest) frames true) (·.at rest frames true)
      (p.meaning r.engine r.hook s)
  | .nil, rest, frames, s => r.computes_done (·.at rest frames true) s
  | .literal text next, rest, frames, s =>
    (computes_parts next rest frames (s.shown (.ofList text))).of_next (step_literal rfl)
  | .single mark single next, rest, frames, s =>
    Computes.andThen (·.at (next.before rest) frames true)
      (computes_single hm mark single (next.before rest) frames s)
      (computes_parts next rest frames)
  | .conditional opening sections closing next, rest, frames, s => by
    refine Computes.andThen (·.at (next.before rest) frames true) ?_
      (computes_parts next rest frames)
    refine computes_choose ?_ ?_
    · intro e h
      exact ⟨_, step_mark hm opening (.conditionFails rfl h), rfl, rfl⟩
    · intro shown h
      exact (computes_sections sections closing (next.before rest) frames shown s).of_next
        (step_mark hm opening (.openConditional rfl h))
  | .loop opening body closing next, rest, frames, s => by
    refine Computes.andThen (·.at (next.before rest) frames true) ?_
      (computes_parts next rest frames)
    refine computes_choose ?_ ?_
    · intro e h
      exact ⟨_, step_mark hm opening (.loopFails rfl h), rfl, rfl⟩
    · intro goesOn h
      cases goesOn with
      | false => exact computes_loop_hidden hm opening body closing (next.before rest) frames s h
      | true =>
        refine Computes.of_next (step_mark hm opening (.openLoop rfl h)) ?_
        exact computes_passes hm closing (computes_parts body _ _) s
  | .iteration opening body closing next, rest, frames, s => by
    refine Computes.andThen (·.at (next.before rest) frames true) ?_
      (computes_parts next rest frames)
    exact computes_iteration hm opening body closing (next.before rest) frames
      (computes_parts body _) s

/-- A render does what a conditional section means that was opened in sight. -/
theorem computes_sections : ∀ (sections : Sections) (closing : Mark (.close .endConditional))
    (rest : List Segment) (frames : List (Frame α)) (shown : Bool) (s : Store α σ),
    r.Computes
      (s.at (sections.before (closing.segment :: rest)) (.conditional true :: frames) shown)
      (·.at rest frames true) (sections.meaning r.engine r.hook shown s)
  | .last body, closing, rest, frames, shown, s => by
    have ends (t : Store α σ) : r.step (t.at (closing.segment :: rest)
        (.conditional true :: frames) shown) = .next (t.at rest frames true) :=
      step_mark hm closing (.endConditional rfl)
    cases shown with
    | false => exact (computes_passing hm body _ _ s).upto ends
    | true => exact (computes_parts body _ _ s).upto ends
  | .more body turn others, closing, rest, frames, shown, s => by
    refine Computes.andThen (·.at (others.before (closing.segment :: rest))
      (.conditional true :: frames) (!shown)) ?_
      (computes_sections others closing rest frames !shown)
    have turns (t : Store α σ) :
        r.step (t.at (turn.segment :: others.before (closing.segment :: rest))
          (.conditional true :: frames) shown) =
        .next (t.at (others.before (closing.segment :: rest)) (.conditional true :: frames)
          !shown) :=
      step_mark hm turn (.otherwise rfl)
    cases shown with
    | false => exact (computes_passing hm body _ _ s).upto turns
    | true => exact (computes_parts body _ _ s).upto turns

end

/-- A render of the template that a tree writes has the outcomes that the tree means. -/
theorem run_parts (p : Parts) (s : Store α σ) (o : Outcome α σ) :
    (∃ fuel, r.run fuel (s.at (p.before []) [] true) = some o) ↔
      ∃ ending, p.meaning r.engine r.hook s ending ∧ o = ending.outcome r.engine := by
  have computes := computes_parts hm p [] [] s
  have ended (fuel : Nat) (t : Store α σ) : r.run (fuel + 1) (t.at [] [] true) =
      some ((Ending.done t).outcome r.engine) := rfl
  constructor
  · rintro ⟨fuel, hr⟩
    obtain ⟨ending, he, n, _, hf⟩ := computes.back hr
    refine ⟨ending, he, ?_⟩
    cases ending with
    | failed e t => exact hf
    | done t =>
      cases n with
      | zero => cases hf
      | succ n =>
        have same := (ended n t).symm.trans hf
        cases same
        rfl
  · rintro ⟨ending, he, rfl⟩
    cases ending with
    | failed e t => exact computes.forth 0 he rfl
    | done t => exact computes.forth 1 he (ended 0 t)

end

end Setting

/-- Rendering is interpreting the block tree. A template without an offence has a block tree, and
for every such tree, every hook and every beginning, the render comes to an end with an outcome
exactly if the tree means an ending with that outcome: the same text or the same error, the same
variables and the same memory of the hook, in which it may keep every directive that it was asked
about. -/
theorem render_interprets (r : Setting α σ) (hm : r.mode = .interpret) (template : String)
    (h : offence? template = none) :
    (∃ p : Parts, p.before [] = segments template.toList) ∧
      ∀ p : Parts, p.before [] = segments template.toList →
        ∀ (env : Environment α) (memory : σ) (o : Outcome α σ),
          (∃ fuel, r.run fuel (Setting.start template.toList env memory) = some o) ↔
            ∃ ending, p.meaning r.engine r.hook ⟨"", env, memory⟩ ending ∧
              o = ending.outcome r.engine := by
  refine ⟨(offence?_eq_none_iff template).1 h, ?_⟩
  intro p hp env memory o
  rw [Setting.start, ← hp]
  exact Setting.run_parts hm p ⟨"", env, memory⟩ o

/-- A template that counts to two in a loop means the number two. -/
theorem render_interprets_loop :
    offence? "@[WHILE:n < 2]@[SET:n=n+1]@[ENDWHILE]@[=n]" = none ∧
      ∃ p : Parts, p.before [] = segments "@[WHILE:n < 2]@[SET:n=n+1]@[ENDWHILE]@[=n]".toList ∧
        ∃ ending, p.meaning Engine.bare .silent ⟨"", .ofList [("n", .int 0)], ()⟩ ending ∧
          (⟨.ok "2", .ofList [("n", .int 2)], (), .bare⟩ : Outcome Empty Unit) =
            ending.outcome .bare := by
  have none : offence? "@[WHILE:n < 2]@[SET:n=n+1]@[ENDWHILE]@[=n]" = none := by cbv
  obtain ⟨⟨p, hp⟩, means⟩ := render_interprets ⟨.bare, .silent, .interpret, 42⟩ rfl _ none
  refine ⟨none, p, hp, (means p hp (.ofList [("n", .int 0)]) () _).1 ⟨8, ?_⟩⟩
  cbv

end MicroTemplate.Template
