import MicroTemplate.Proofs.Expression.Abort
import MicroTemplate.Proofs.Function.Registry
import MicroTemplate.Proofs.Template.Failure

/-!
# Renders that come to an end

Only a loop can go on forever. An iteration goes back too, but it takes its elements when it opens
and makes one pass for each of them. What is still to be done is therefore a collection of passes:
the one that is being made, by the number of segments that it has before it, and for each open
iteration as many as it has elements to come. A step takes away the pass that is being made and puts
only shorter ones in its place, however many they are, and such replacements come to an end.

The end is a text or an error, unless the program is stopped in the evaluation of an expression. The
expressions are parts of the template, so this happens only if there are more opening parentheses in
the template than groups can be open, or a call of `range` asks for a list that there is no room
for.
-/

namespace MicroTemplate.Template

open Expression Relation

variable {α σ : Type}

/-! ## Templates without loops -/

/-- Whether a segment is a directive that opens a loop. -/
def Segment.opensLoop : Segment → Bool
  | directive body _ _ =>
    match Directive.ofBody body with
    | .openLoop _ => true
    | _ => false
  | _ => false

/-- Whether no directive among some segments opens a loop. -/
def LoopFree (segments : List Segment) : Prop := ∀ s ∈ segments, s.opensLoop = false

instance (segments : List Segment) : Decidable (LoopFree segments) :=
  inferInstanceAs (Decidable (∀ s ∈ segments, s.opensLoop = false))

theorem LoopFree.tail {s : Segment} {rest : List Segment} (h : LoopFree (s :: rest)) :
    LoopFree rest := fun t ht => h t (List.mem_cons_of_mem _ ht)

theorem LoopFree.not_openLoop {body : List Char} {start stop : Nat} {rest : List Segment}
    (h : LoopFree (.directive body start stop :: rest)) (c : List Char) :
    Directive.ofBody body ≠ .openLoop c := by
  intro hd
  have first := h _ List.mem_cons_self
  rw [Segment.opensLoop, hd] at first
  cases first

/-- Whether a block is no loop, and goes back to no loop. -/
def Frame.LoopFree : Frame α → Prop
  | conditional _ => True
  | loop _ _ _ => False
  | iteration resume _ _ _ => Template.LoopFree resume

/-- Whether a render has come upon no loop and cannot come upon one. -/
structure State.LoopFree (s : State α σ) : Prop where
  /-- No loop comes next. -/
  rest : Template.LoopFree s.rest
  /-- No open block is a loop or goes back to one. -/
  frames : ∀ f ∈ s.frames, f.LoopFree

/-- Without loops, the block that a closer ends or goes back to has none, nor has what is around
it. -/
theorem State.LoopFree.cons {s : State α σ} {f : Frame α} {frames : List (Frame α)}
    (h : s.LoopFree) (hs : s.frames = f :: frames) : f.LoopFree ∧ ∀ g ∈ frames, g.LoopFree := by
  have all := h.frames
  rw [hs] at all
  exact List.forall_mem_cons.1 all

/-! ## Passes -/

/-- The passes that an open block has still to make, by their lengths. -/
def Frame.passes : Frame α → Multiset ℕ
  | conditional _ => 0
  | loop _ _ _ => 0
  | iteration resume _ items _ => .replicate items.length resume.length

/-- The passes that open blocks have still to make. -/
def openPasses (frames : List (Frame α)) : Multiset ℕ := (frames.map Frame.passes).sum

theorem openPasses_cons (f : Frame α) (frames : List (Frame α)) :
    openPasses (f :: frames) = f.passes + openPasses frames := by
  rw [openPasses, List.map_cons, List.sum_cons]
  rfl

/-- A block without passes to come changes nothing. -/
theorem openPasses_cons_of_eq_zero {f : Frame α} (h : f.passes = 0) (frames : List (Frame α)) :
    openPasses (f :: frames) = openPasses frames := by
  rw [openPasses_cons, h, zero_add]

/-- The passes that are still to be made: the one that is being made and those of the open
blocks. -/
def State.passes (s : State α σ) : Multiset ℕ := s.rest.length ::ₘ openPasses s.frames

namespace Setting

variable [HostObject α] {r : Setting α σ} {s t : State α σ}

/-- Without loops, a directive that leads on comes upon none. -/
theorem Leads.loopFree {body : List Char} {start stop : Nat} {d : Directive}
    (leads : r.Leads body start stop d s (.next t)) (h : s.LoopFree)
    (hd : ∀ c, d ≠ .openLoop c) : t.LoopFree := by
  have pushed {f : Frame α} (hf : f.LoopFree) : ∀ g ∈ f :: s.frames, g.LoopFree :=
    List.forall_mem_cons.2 ⟨hf, h.frames⟩
  cases leads with
  | ignored _ _ | output _ _ | assign _ _ _ _ | unassigned _ _ | listing | foreign _ _
  | otherwise _ | otherwiseIgnored _ => exact ⟨h.rest, h.frames⟩
  | openConditional _ _ | openConditionalIgnored _ => exact ⟨h.rest, pushed trivial⟩
  | openLoop _ _ | openLoopIgnored _ => exact absurd rfl (hd _)
  | openIteration _ _ _ _ _ | openEmpty _ _ _ _ _ | openHeadless _ _ | openIterationIgnored _ =>
    exact ⟨h.rest, pushed h.rest⟩
  | endConditional hf | endConditionalIgnored hf | endLoop hf _ | endLoopIgnored hf
  | endIteration hf => exact ⟨h.rest, (h.cons hf).2⟩
  | again hf _ => exact (h.cons hf).1.elim
  | nextItem hf =>
    obtain ⟨resume, frames⟩ := h.cons hf
    exact ⟨resume, List.forall_mem_cons.2 ⟨resume, frames⟩⟩

/-- A directive that leads on without a loop leaves, besides the passes of the open blocks, only
passes no longer than what comes after it. -/
theorem Leads.exists_passes {body : List Char} {start stop : Nat} {d : Directive}
    (leads : r.Leads body start stop d s (.next t)) (h : s.LoopFree) :
    ∃ shorter, t.passes = shorter + openPasses s.frames ∧ ∀ n ∈ shorter, n ≤ s.rest.length := by
  -- Only the next element of an iteration ends the pass that is being made before its time.
  have onwards {u : State α σ} (hr : u.rest = s.rest)
      (hp : openPasses u.frames = openPasses s.frames) :
      ∃ shorter, u.passes = shorter + openPasses s.frames ∧
        ∀ n ∈ shorter, n ≤ s.rest.length := by
    refine ⟨{s.rest.length}, ?_, ?_⟩
    · rw [State.passes, hr, hp, Multiset.singleton_add]
    · intro n hn
      rw [Multiset.mem_singleton.1 hn]
  have closed {f : Frame α} {frames : List (Frame α)} (hs : s.frames = f :: frames)
      (hf : f.passes = 0) : openPasses frames = openPasses s.frames := by
    rw [hs, openPasses_cons_of_eq_zero hf]
  cases leads with
  | ignored _ _ | output _ _ | assign _ _ _ _ | unassigned _ _ | listing | foreign _ _
  | otherwise _ | otherwiseIgnored _ => exact onwards rfl rfl
  | openConditional _ _ | openConditionalIgnored _ | openLoop _ _ | openLoopIgnored _
  | openEmpty _ _ _ _ _ | openHeadless _ _ | openIterationIgnored _ =>
    exact onwards rfl (openPasses_cons_of_eq_zero rfl _)
  | @openIteration _ _ _ _ _ name _ items _ _ _ _ _ =>
    refine ⟨s.rest.length ::ₘ .replicate items.length s.rest.length, ?_, ?_⟩
    · rw [State.passes, Multiset.cons_add]
      exact congrArg _ (openPasses_cons _ _)
    · intro n hn
      rcases Multiset.mem_cons.1 hn with rfl | hn
      · exact le_rfl
      · rw [Multiset.eq_of_mem_replicate hn]
  | endConditional hf | endConditionalIgnored hf | endLoop hf _ | endLoopIgnored hf
  | endIteration hf => exact onwards rfl (closed hf rfl)
  | again hf _ => exact (h.cons hf).1.elim
  | @nextItem _ resume name item items active frames hf =>
    refine ⟨0, ?_, nofun⟩
    rw [zero_add, hf, State.passes, openPasses_cons, openPasses_cons, Frame.passes, Frame.passes,
      List.length_cons, Multiset.replicate_succ, Multiset.cons_add]

/-- Without loops, a step that goes on comes upon none, and puts passes that are shorter in the
place of the one that is being made. -/
theorem cutExpand_of_step (h : s.LoopFree) (hs : r.step s = .next t) :
    t.LoopFree ∧ CutExpand (· < ·) t.passes s.passes := by
  cases hr : s.rest with
  | nil =>
    rw [step, hr] at hs
    cases hf : s.frames <;> rw [hf] at hs <;> cases hs
  | cons segment rest =>
    have free := h.rest
    rw [hr] at free
    have after : State.LoopFree { s with rest := rest } := ⟨free.tail, h.frames⟩
    have replaced (shorter : Multiset ℕ) (ht : t.passes = shorter + openPasses s.frames)
        (hn : ∀ n ∈ shorter, n ≤ rest.length) : CutExpand (· < ·) t.passes s.passes := by
      rw [ht, State.passes, hr, ← Multiset.singleton_add]
      refine (cutExpand_add_right _).2 (cutExpand_singleton fun n hm => ?_)
      have := hn n hm
      rw [List.length_cons]
      omega
    cases segment with
    | unterminated start =>
      rw [step, hr] at hs
      cases hs
    | literal text =>
      rw [step_literal hr, State.emit_eq] at hs
      cases hs
      refine ⟨⟨after.rest, after.frames⟩, replaced {rest.length} ?_ ?_⟩
      · rw [Multiset.singleton_add]
        rfl
      · intro n hn
        rw [Multiset.mem_singleton.1 hn]
    | directive body start stop =>
      rw [step_directive hr] at hs
      obtain ⟨d, hd, leads⟩ := r.exists_leads body start stop { s with rest := rest }
      rw [hs] at leads
      have plain : ∀ c, d ≠ .openLoop c := by
        rcases hd with rfl | rfl
        · intro c hc
          cases hc
        · exact free.not_openLoop
      obtain ⟨shorter, hp, hn⟩ := leads.exists_passes after
      exact ⟨leads.loopFree after plain, replaced shorter hp hn⟩

/-- Without loops, a run comes to an end. -/
theorem exists_run_of_loopFree (r : Setting α σ) (s : State α σ) (h : s.LoopFree) :
    ∃ fuel o, r.run fuel s = some o := by
  have ends := Nat.lt_wfRel.wf.cutExpand
  induction hp : s.passes using ends.induction generalizing s with
  | _ passes ih =>
    subst hp
    cases hs : r.step s with
    | next t =>
      obtain ⟨free, fewer⟩ := cutExpand_of_step h hs
      obtain ⟨fuel, o, ht⟩ := ih _ fewer t free rfl
      exact ⟨fuel + 1, o, (run_next hs fuel).trans ht⟩
    | done t => exact ⟨1, _, by rw [run, hs]⟩
    | failed e t => exact ⟨1, _, run_failed hs 0⟩

end Setting

/-! ## How a render ends -/

/-- A render is stopped by an expression of its template. -/
theorem Setting.stoppedBy_of_ends [HostObject α] {r : Setting α σ} {template : String}
    {env : Environment α} {memory : σ} {s : State α σ} {o : Outcome α σ}
    (h : r.Reaches (Setting.start template.toList env memory) s) (ends : r.Ends s o) {error : Error}
    {reason : Abort} (failed : o.result = .error error) (stopped : error.abort? = some reason) :
    StoppedBy (r.context s) template.toList reason := by
  rcases ends with ⟨u, _, rfl⟩ | ⟨e, u, hs, rfl⟩
  · cases failed
  · cases failed
    cases error with
    | evaluation expression cause =>
      obtain ⟨fails, part⟩ := Setting.evaluate_of_step_failed h hs
      exact (stoppedBy_of_evaluate _ fails stopped).of_isInfix part
    | reentrant | structural _ _ | hook _ _ => cases stopped

/-- A template without loops is rendered to an end, in either mode, whatever its iterations go
through, whatever the hook does and whether its directives fit together or not: after some number of
steps there is an outcome, and more steps do not change it. The outcome is a text or an error,
unless the program is stopped. That is so only if the template has more opening parentheses than can
be open at once, or the word `range` in it and a call of this function asks for a list that there is
no room for. -/
theorem render_ends [HostObject α] (engine : Engine α) (mode : Mode) (hook : Hook α σ)
    (template : String) (env : Environment α) (memory : σ)
    (h : LoopFree (segments template.toList)) :
    ∃ steps o, (∀ fuel, steps ≤ fuel →
        engine.renderIn mode hook fuel template env memory = some o) ∧
      ∀ error reason, o.result = .error error → error.abort? = some reason →
        reason = .depth ∧ maxDepth < template.toList.count '(' ∨
          reason = .room ∧ "range".toList <:+: template.toList ∧
            ∃ args, engine.functions.outgrows "range" args = true := by
  cases hr : engine.rendering with
  | true =>
    refine ⟨0, ⟨.error .reentrant, env, memory, engine⟩, fun fuel _ => ?_,
      fun error reason he => ?_⟩
    · rw [Engine.renderIn, if_pos hr]
    · cases he
      intro stopped
      cases stopped
  | false =>
    have start : (Setting.start template.toList env memory).LoopFree :=
      ⟨h, fun _ hf => absurd hf List.not_mem_nil⟩
    obtain ⟨steps, o, ho⟩ :=
      (engine.settingWith mode hook template).exists_run_of_loopFree _ start
    refine ⟨steps, o, fun fuel hle => ?_, fun error reason failed stopped => ?_⟩
    · rw [Engine.renderIn_eq_run hr]
      exact Setting.run_mono ho hle
    · obtain ⟨s, reached, ends⟩ := Setting.exists_run_iff.1 ⟨steps, ho⟩
      cases Setting.stoppedBy_of_ends reached ends failed stopped with
      | depth many => exact .inl ⟨rfl, many⟩
      | @call name values _ named aborted =>
        obtain ⟨rfl, range, full⟩ := Functions.of_invoke_aborted aborted
        rw [← String.toList_ofList (l := name), range] at named
        exact .inr ⟨rfl, named, values, range ▸ full⟩

/-- An iteration inside another one, over a text that each pass of the other makes longer. Nothing
in the template could stop the program. -/
theorem render_ends_growing :
    LoopFree (segments
        "@[FOREACH:x IN t]@[SET:t=t.x]@[FOREACH:y IN t]@[=y]@[ENDFOREACH]@[ENDFOREACH]".toList) ∧
      ∃ steps o, (∀ fuel, steps ≤ fuel → Engine.bare.renderIn .interpret .silent fuel
          "@[FOREACH:x IN t]@[SET:t=t.x]@[FOREACH:y IN t]@[=y]@[ENDFOREACH]@[ENDFOREACH]"
          (.ofList [("t", .text "ab")]) () = some o) ∧
        ∀ error, o.result = .error error → error.abort? = none := by
  have free : LoopFree (segments
      "@[FOREACH:x IN t]@[SET:t=t.x]@[FOREACH:y IN t]@[=y]@[ENDFOREACH]@[ENDFOREACH]".toList) :=
    of_decide_eq_true (by cbv)
  obtain ⟨steps, o, ends, stopped⟩ := render_ends .bare .interpret .silent _
    (.ofList [("t", .text "ab")]) () free
  refine ⟨free, steps, o, ends, fun error failed => ?_⟩
  cases ha : error.abort? with
  | none => rfl
  | some reason =>
    rcases stopped error reason failed ha with ⟨_, many⟩ | ⟨_, named, _⟩
    · exact absurd many (by decide)
    · have letter : 'g' ∈ "range".toList := by decide
      exact absurd (named.subset letter) (by decide)

/-- A template without loops whose render is stopped: it gives neither a text nor an error. -/
theorem render_long_range :
    LoopFree (segments "@[=range(0,9223372036854775807)]".toList) ∧
      ∃ error, (Engine.stocked Engine.firstMoment).render 1 "@[=range(0,9223372036854775807)]"
          .empty = some ⟨.error error, .empty, (), .stocked Engine.firstMoment⟩ ∧
        error.abort? = some .room := by
  refine ⟨of_decide_eq_true (by cbv), _, by cbv, by cbv⟩

end MicroTemplate.Template
