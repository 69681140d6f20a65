import MicroTemplate.Proofs.Template.Step

/-!
# Passing over what is not shown

While text is shown, every open block was opened while text was shown. While it is not, the open
blocks are those opened out of sight, then one at which the text went out of sight, and then blocks
opened in sight. The block in the middle is at its end when its closer comes: the condition of a
loop there is false, and stays so because nothing changes a variable out of sight, and an iteration
there has no elements left. So nothing out of sight asks the hook, changes a variable, goes back or
adds text, listings apart, and what fails there is the structure of the template.
-/

namespace MicroTemplate.Template

open Expression

variable {α σ : Type}

/-- Whether a block was opened out of sight. -/
def Frame.Idle : Frame α → Prop
  | conditional active => active = false
  | loop _ _ active => active = false
  | iteration _ _ items active => active = false ∧ items = []

theorem Frame.Idle.active {f : Frame α} (h : f.Idle) : f.active = false := by
  cases f with
  | conditional active => exact h
  | loop resume c active => exact h
  | iteration resume name items active => exact h.1

section

variable [HostObject α]

/-- Whether the closer of a block ends it and does not go back. -/
def Frame.Exhausted (engine : Engine α) (env : Environment α) : Frame α → Prop
  | conditional _ => True
  | loop _ c _ => evaluateBool (engine.context env) c = .ok false
  | iteration _ _ items _ => items = []

/-- The open blocks where text is out of sight. -/
inductive OutOfSight (engine : Engine α) (env : Environment α) : List (Frame α) → Prop where
  /-- The innermost block is the one at which text went out of sight. -/
  | here {f frames} (hf : f.Exhausted engine env)
    (ha : ∀ g ∈ f :: frames, g.active = true) : OutOfSight engine env (f :: frames)
  /-- The innermost block was opened out of sight. -/
  | inner {f frames} (hf : f.Idle) (h : OutOfSight engine env frames) :
    OutOfSight engine env (f :: frames)

/-- How the open blocks go with whether text is shown. -/
structure Sighted (engine : Engine α) (s : State α σ) : Prop where
  /-- In sight, all blocks were opened in sight. -/
  shown : s.emitting = true → ∀ f ∈ s.frames, f.active = true
  /-- Out of sight, the blocks can only be passed over. -/
  hidden : s.emitting = false → OutOfSight engine s.env s.frames

variable {engine : Engine α} {env : Environment α} {s : State α σ} {f : Frame α}
  {frames : List (Frame α)}

/-- Out of sight, a block that was opened in sight is the one at which text went out of sight. -/
theorem OutOfSight.of_active (h : OutOfSight engine env (f :: frames)) (hf : f.active = true) :
    f.Exhausted engine env ∧ ∀ g ∈ f :: frames, g.active = true := by
  cases h with
  | here he ha => exact ⟨he, ha⟩
  | inner hi _ =>
    rw [hi.active] at hf
    cases hf

/-- Out of sight, what stands around a block that was opened out of sight is out of sight. -/
theorem OutOfSight.of_not_active (h : OutOfSight engine env (f :: frames))
    (hf : f.active = false) : f.Idle ∧ OutOfSight engine env frames := by
  cases h with
  | here _ ha =>
    rw [ha f (List.mem_cons_self ..)] at hf
    cases hf
  | inner hi ho => exact ⟨hi, ho⟩

/-- Around a block that was opened in sight, all blocks were. -/
theorem Sighted.all_active (h : Sighted engine s) (hs : s.frames = f :: frames)
    (hf : f.active = true) : ∀ g ∈ frames, g.active = true := by
  intro g hg
  have hm : g ∈ f :: frames := List.mem_cons_of_mem _ hg
  cases he : s.emitting with
  | true =>
    have shown := h.shown he
    rw [hs] at shown
    exact shown g hm
  | false =>
    have hidden := h.hidden he
    rw [hs] at hidden
    exact (hidden.of_active hf).2 g hm

/-- A block that was opened out of sight is out of sight, and so is what stands around it. -/
theorem Sighted.of_not_active (h : Sighted engine s) (hs : s.frames = f :: frames)
    (hf : f.active = false) :
    s.emitting = false ∧ f.Idle ∧ OutOfSight engine s.env frames := by
  cases he : s.emitting with
  | true =>
    have shown := h.shown he f (by rw [hs]; exact List.mem_cons_self ..)
    rw [shown] at hf
    cases hf
  | false =>
    have hidden := h.hidden he
    rw [hs] at hidden
    exact ⟨rfl, hidden.of_not_active hf⟩

end

namespace Setting

variable [HostObject α]

/-- A state in sight whose blocks were all opened in sight. -/
theorem sighted_of_shown {engine : Engine α} {s : State α σ} (he : s.emitting = true)
    (h : ∀ f ∈ s.frames, f.active = true) : Sighted engine s := by
  refine ⟨fun _ => h, ?_⟩
  intro hn
  rw [he] at hn
  cases hn

/-- A state out of sight. -/
theorem sighted_of_hidden {engine : Engine α} {s : State α σ} (he : s.emitting = false)
    (h : OutOfSight engine s.env s.frames) : Sighted engine s := by
  refine ⟨?_, fun _ => h⟩
  intro hn
  rw [he] at hn
  cases hn

/-- A state after a block opened in sight that is at its end unless text is shown in it. -/
theorem sighted_of_opened {engine : Engine α} {s : State α σ} {f : Frame α}
    {frames : List (Frame α)} (hs : s.frames = f :: frames) (hf : f.active = true)
    (ha : ∀ g ∈ frames, g.active = true)
    (hx : s.emitting = false → f.Exhausted engine s.env) : Sighted engine s := by
  have all : ∀ g ∈ f :: frames, g.active = true := by
    intro g hg
    rcases List.mem_cons.1 hg with rfl | hg
    · exact hf
    · exact ha g hg
  cases he : s.emitting with
  | true => exact sighted_of_shown he (by rw [hs]; exact all)
  | false => exact sighted_of_hidden he (by rw [hs]; exact .here (hx he) all)

/-- A directive that leads on keeps how the open blocks go with whether text is shown. -/
theorem Leads.sighted {r : Setting α σ} {body : List Char} {start stop : Nat} {d : Directive}
    {s t : State α σ} (leads : r.Leads body start stop d s (.next t))
    (h : Sighted r.engine s) : Sighted r.engine t := by
  cases leads with
  | ignored _ _ | unassigned _ _ | otherwiseIgnored _ => exact h
  | output _ _ | listing => exact ⟨h.shown, h.hidden⟩
  | assign he _ _ _ | foreign he _ => exact sighted_of_shown he (h.shown he)
  | openConditional he _ => exact sighted_of_opened rfl rfl (h.shown he) (fun _ => trivial)
  | openLoop he hv =>
    refine sighted_of_opened rfl rfl (h.shown he) ?_
    intro hn
    cases hn
    exact hv
  | openIteration he _ _ _ _ => exact sighted_of_opened rfl rfl (h.shown he) (fun hn => by
      rw [State.push, he] at hn
      cases hn)
  | openEmpty he _ _ _ _ | openHeadless he _ =>
    exact sighted_of_opened rfl rfl (h.shown he) (fun _ => rfl)
  | openConditionalIgnored he | openLoopIgnored he =>
    exact sighted_of_hidden he (.inner rfl (h.hidden he))
  | openIterationIgnored he => exact sighted_of_hidden he (.inner ⟨rfl, rfl⟩ (h.hidden he))
  | otherwise hf => exact sighted_of_opened hf rfl (h.all_active hf rfl) (fun _ => trivial)
  | endConditional hf | endLoop hf _ => exact sighted_of_shown rfl (h.all_active hf rfl)
  | endConditionalIgnored hf =>
    obtain ⟨he, _, hidden⟩ := h.of_not_active hf rfl
    exact sighted_of_hidden he hidden
  | endLoopIgnored hf =>
    obtain ⟨_, _, hidden⟩ := h.of_not_active hf rfl
    exact sighted_of_hidden rfl hidden
  | again hf _ => exact sighted_of_opened hf rfl (h.all_active hf rfl) nofun
  | @nextItem s resume name item items active frames hf =>
    cases active with
    | false =>
      obtain ⟨_, idle, _⟩ := h.of_not_active hf rfl
      cases idle.2
    | true => exact sighted_of_opened rfl rfl (h.all_active hf rfl) nofun
  | @endIteration s resume name active frames hf =>
    cases active with
    | false =>
      obtain ⟨_, _, hidden⟩ := h.of_not_active hf rfl
      exact sighted_of_hidden rfl hidden
    | true => exact sighted_of_shown rfl (h.all_active hf rfl)

/-- What a step out of sight does. -/
structure Quiet (r : Setting α σ) (s : State α σ) : Prop where
  /-- A step that goes on changes no variable and asks no hook. It goes on with the segments that
  follow, and shows nothing but the variables at a listing. -/
  next : ∀ t, r.step s = .next t → t.env = s.env ∧ t.memory = s.memory ∧
    ∃ segment, s.rest = segment :: t.rest ∧ (t.output = s.output ∨
      ∃ body start stop, segment = .directive body start stop ∧
        Directive.ofBody body = .listing ∧ t.output = s.output ++ s.env.list)
  /-- A step that fails finds fault with the structure of the template. -/
  failed : ∀ e t, r.step s = .failed e t →
    e.isStructural = true ∧ t.env = s.env ∧ t.memory = s.memory ∧ t.output = s.output
  /-- The step does not depend on the answers of a hook. -/
  unasked : ∀ hook : Hook α σ, { r with hook := hook }.step s = r.step s

/-- Out of sight, a directive that leads on changes nothing but the open blocks, and shows nothing
but the variables at a listing. -/
theorem Leads.quiet {r : Setting α σ} {body : List Char} {start stop : Nat} {d : Directive}
    {s t : State α σ} (leads : r.Leads body start stop d s (.next t)) (he : s.emitting = false)
    (h : OutOfSight r.engine s.env s.frames) :
    t.env = s.env ∧ t.memory = s.memory ∧ t.rest = s.rest ∧
      (t.output = s.output ∨ d = .listing ∧ t.output = s.output ++ s.env.list) := by
  cases leads with
  | ignored _ _ | otherwise _ | otherwiseIgnored _ | endConditional _ | endConditionalIgnored _
  | endLoop _ _ | endLoopIgnored _ | endIteration _ | openConditionalIgnored _
  | openLoopIgnored _ | openIterationIgnored _ => exact ⟨rfl, rfl, rfl, .inl rfl⟩
  | listing => exact ⟨rfl, rfl, rfl, .inr ⟨rfl, rfl⟩⟩
  | output hs _ | assign hs _ _ _ | unassigned hs _ | foreign hs _ | openConditional hs _
  | openLoop hs _ | openIteration hs _ _ _ _ | openEmpty hs _ _ _ _ | openHeadless hs _ =>
    rw [he] at hs
    cases hs
  | again hf hv =>
    -- The condition was false when the text went out of sight, and the variables are the same.
    rw [hf] at h
    have exhausted := (h.of_active rfl).1
    have false_eq_true := hv.symm.trans exhausted
    cases false_eq_true
  | @nextItem s resume name item items active frames hf =>
    rw [hf] at h
    cases active with
    | false => cases (h.of_not_active rfl).1.2
    | true => cases (h.of_active rfl).1

/-- Out of sight, a directive fails only because of the structure of the template. -/
theorem Leads.quiet_failed {r : Setting α σ} {body : List Char} {start stop : Nat}
    {d : Directive} {s t : State α σ} {e : Error}
    (leads : r.Leads body start stop d s (.failed e t)) (he : s.emitting = false)
    (h : OutOfSight r.engine s.env s.frames) : e.isStructural = true ∧ t = s := by
  cases leads with
  | unmatched _ => exact ⟨rfl, rfl⟩
  | outputFails hs _ | valueFails hs _ _ | nameFails hs _ _ _ | foreignFails hs _
  | conditionFails hs _ | loopFails hs _ | sourceFails hs _ _ | targetFails hs _ _ _ =>
    rw [he] at hs
    cases hs
  | againFails hf hv =>
    rw [hf] at h
    have exhausted := (h.of_active rfl).1
    have ok_eq_error := hv.symm.trans exhausted
    cases ok_eq_error

/-- Out of sight, no step depends on the hook. -/
theorem step_of_hidden (r : Setting α σ) (hook : Hook α σ) {s : State α σ}
    (he : s.emitting = false) : { r with hook := hook }.step s = r.step s := by
  have external (body : List Char) (stop : Nat) (rest : List Segment) :
      { r with hook := hook }.external body stop { s with rest := rest } =
        r.external body stop { s with rest := rest } := by
    have hn : ¬s.emitting = true := by simp [he]
    rw [Setting.external, Setting.external, if_neg hn, if_neg hn]
  rw [step, step]
  cases hs : s.rest with
  | nil => rfl
  | cons segment rest =>
    cases segment with
    | literal text => rfl
    | unterminated start => rfl
    | directive body start stop =>
      dsimp only
      rw [directive, directive]
      cases hm : r.mode with
      | delegate => exact external body stop rest
      | interpret =>
        cases hd : Directive.ofBody body with
        | foreign => exact external body stop rest
        | _ => rfl

/-- A step out of sight is quiet. -/
theorem quiet_of_sighted {r : Setting α σ} {s : State α σ} (hm : r.mode = .interpret)
    (h : Sighted r.engine s) (he : s.emitting = false) : r.Quiet s := by
  have hidden := h.hidden he
  refine ⟨?_, ?_, fun hook => step_of_hidden r hook he⟩
  · intro t hs
    cases takes_of_step hm hs with
    | literal hr =>
      have hn : ¬s.emitting = true := by simp [he]
      rw [State.emit, if_neg hn]
      exact ⟨rfl, rfl, _, hr, .inl rfl⟩
    | @directive body start stop rest _ hr leads =>
      obtain ⟨env, memory, same, output⟩ := leads.quiet he hidden
      refine ⟨env, memory, .directive body start stop, ?_, ?_⟩
      · rw [hr, same]
      · rcases output with output | ⟨hd, output⟩
        · exact .inl output
        · exact .inr ⟨body, start, stop, rfl, hd, output⟩
  · intro e t hs
    cases takes_of_step hm hs with
    | unclosed _ _ | unterminated _ => exact ⟨rfl, rfl, rfl, rfl⟩
    | directive hr leads =>
      obtain ⟨structural, rfl⟩ := leads.quiet_failed he hidden
      exact ⟨structural, rfl, rfl, rfl⟩

/-- Every step keeps how the open blocks go with whether text is shown. -/
theorem sighted_step {r : Setting α σ} (hm : r.mode = .interpret) {s t : State α σ}
    (h : Sighted r.engine s) (hs : r.step s = .next t) : Sighted r.engine t := by
  cases takes_of_step hm hs with
  | literal _ =>
    rw [State.emit_eq]
    exact ⟨h.shown, h.hidden⟩
  | @directive body start stop rest _ hr leads =>
    have hu : Sighted r.engine { s with rest := rest } := ⟨h.shown, h.hidden⟩
    exact leads.sighted hu

end Setting

/-- In every state of a render: where text is shown, all open blocks were opened where text was
shown; outside of all blocks text is shown; and where it is not shown, the next step changes no
variable, asks no hook, does not go back, shows at most the variables at a listing, and fails only
because of the structure of the template. -/
theorem suppression [HostObject α] (r : Setting α σ) (hm : r.mode = .interpret)
    (template : List Char) (env : Environment α) (memory : σ) (s : State α σ)
    (reached : r.Reaches (Setting.start template env memory) s) :
    (s.emitting = true → ∀ f ∈ s.frames, f.active = true) ∧
      (s.frames = [] → s.emitting = true) ∧
      (s.emitting = false → r.Quiet s) := by
  have start : Sighted r.engine (Setting.start template env memory) :=
    Setting.sighted_of_shown rfl nofun
  have sighted : Sighted r.engine s :=
    reached.invariant (fun _ _ => Setting.sighted_step hm) start
  refine ⟨sighted.shown, ?_, Setting.quiet_of_sighted hm sighted⟩
  intro hf
  cases he : s.emitting with
  | true => rfl
  | false =>
    have hidden := sighted.hidden he
    rw [hf] at hidden
    cases hidden

/-- Inside a loop whose condition is false at once, its end is quiet. -/
theorem suppression_in_loop :
    Setting.Reaches ⟨.bare, .silent, .interpret, 26⟩
        (Setting.start "@[WHILE:false]@[ENDWHILE]x".toList .empty ())
        ⟨[.directive "ENDWHILE".toList 14 25, .literal ['x']],
          [.loop [.directive "ENDWHILE".toList 14 25, .literal ['x']] "false".toList true],
          false, "", .empty, ()⟩ ∧
      Setting.Quiet ⟨.bare, .silent, .interpret, 26⟩
        ⟨[.directive "ENDWHILE".toList 14 25, .literal ['x']],
          [.loop [.directive "ENDWHILE".toList 14 25, .literal ['x']] "false".toList true],
          false, "", .empty, ()⟩ := by
  have reached : Setting.Reaches ⟨.bare, .silent, .interpret, 26⟩
      (Setting.start "@[WHILE:false]@[ENDWHILE]x".toList .empty ())
      ⟨[.directive "ENDWHILE".toList 14 25, .literal ['x']],
        [.loop [.directive "ENDWHILE".toList 14 25, .literal ['x']] "false".toList true],
        false, "", .empty, ()⟩ := by
    refine .single ?_
    cbv
  exact ⟨reached, (suppression _ rfl _ _ _ _ reached).2.2 rfl⟩

end MicroTemplate.Template
