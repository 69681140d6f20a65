import MicroTemplate.Proofs.Template.Step

/-!
# The structure of a template

`offence?` reads a template once, from left to right, and keeps nothing but the kinds of the open
blocks. It reports the first closer that does not fit, a directive that is not closed, or a block
that is still open at the end. A render goes back in loops and asks expressions and the hook, and
yet its structural errors are those that `offence?` reports: wherever a render stands, what is open
there and what comes next give the report of the whole template, and so does every place that an
open loop or iteration can go back to.
-/

namespace MicroTemplate.Template

/-- How the directives of a template do not fit together, and where. -/
structure Offence where
  /-- The offset of the directive, or the length of the text, in bytes. -/
  offset : Nat
  /-- What is wrong there. -/
  fault : StructuralFault
  deriving DecidableEq, Repr

/-- The kinds of the open blocks after a directive that begins at the byte `start`, the innermost
first. -/
def Directive.nest (start : Nat) (opened : List Block) : Directive → Except Offence (List Block)
  | .openConditional _ => .ok (.conditional :: opened)
  | .openLoop _ => .ok (.loop :: opened)
  | .openIteration _ => .ok (.iteration :: opened)
  | .close closer =>
    if opened.head? = some closer.block then
      .ok (if closer = .otherwise then opened else opened.tail)
    else .error ⟨start, .unexpectedCloser closer⟩
  | .output _ | .assign _ | .listing | .foreign => .ok opened

/-- The first offence in what is left of a template of `size` bytes, inside some open blocks. -/
def firstOffence (size : Nat) : List Block → List Segment → Option Offence
  | [], [] => none
  | block :: _, [] => some ⟨size, .unclosed block⟩
  | opened, .literal _ :: rest => firstOffence size opened rest
  | _, .unterminated start :: _ => some ⟨start, .unterminatedDirective⟩
  | opened, .directive body start _ :: rest =>
    match (Directive.ofBody body).nest start opened with
    | .ok inner => firstOffence size inner rest
    | .error offence => some offence

/-- The first offence in a template. -/
def offence? (template : String) : Option Offence :=
  firstOffence template.utf8ByteSize [] (segments template.toList)

variable {α σ : Type}

/-- The segments that the end of a block can go back to. -/
def Frame.resume? : Frame α → Option (List Segment)
  | conditional _ => none
  | loop resume _ _ => some resume
  | iteration resume _ _ _ => some resume

/-- The kinds of the open blocks in a state. -/
def State.blocks (s : State α σ) : List Block := s.frames.map Frame.block

/-- Whether reading on inside some open blocks, from wherever one of them can go back to, gives the
same verdict. -/
def Resumes (size : Nat) (verdict : Option Offence) : List (Frame α) → Prop
  | [] => True
  | f :: frames =>
    (∀ resume, f.resume? = some resume →
        firstOffence size (f.block :: frames.map Frame.block) resume = verdict) ∧
      Resumes size verdict frames

/-- Whether a state leaves the verdict on the template open: reading on gives it, and so does
reading on from any place that the render can go back to. -/
structure Agrees (size : Nat) (verdict : Option Offence) (s : State α σ) : Prop where
  /-- What comes next gives the verdict. -/
  ahead : firstOffence size s.blocks s.rest = verdict
  /-- The open blocks give the verdict. -/
  back : Resumes size verdict s.frames

namespace Setting

variable [HostObject α]

/-- A directive that leads on keeps the agreement. -/
theorem Leads.agrees {r : Setting α σ} {body : List Char} {start stop : Nat} {d : Directive}
    {s t : State α σ} {size : Nat} {verdict : Option Offence}
    (h : r.Leads body start stop d s (.next t))
    (ahead : (match d.nest start s.blocks with
      | .ok inner => firstOffence size inner s.rest
      | .error offence => some offence) = verdict)
    (back : Resumes size verdict s.frames) : Agrees size verdict t := by
  cases h with
  | ignored he hd =>
    cases d with
    | output _ | assign _ | foreign => exact ⟨ahead, back⟩
    | openConditional _ | openLoop _ | openIteration _ | close _ | listing => cases hd
  | output _ _ | assign _ _ _ _ | unassigned _ _ | listing | foreign _ _ => exact ⟨ahead, back⟩
  | openConditional _ _ | openConditionalIgnored _ => exact ⟨ahead, nofun, back⟩
  | openLoop _ _ | openLoopIgnored _ =>
    refine ⟨ahead, ?_, back⟩
    intro resume hr
    cases hr
    exact ahead
  | openIteration _ _ _ _ _ | openEmpty _ _ _ _ _ | openHeadless _ _ | openIterationIgnored _ =>
    refine ⟨ahead, ?_, back⟩
    intro resume hr
    cases hr
    exact ahead
  | otherwise hf | otherwiseIgnored hf =>
    simp only [Directive.nest, State.blocks, hf] at ahead
    refine ⟨?_, back⟩
    simp only [State.blocks, hf]
    exact ahead
  | endConditional hf | endConditionalIgnored hf | endLoop hf _ | endLoopIgnored hf
  | endIteration hf =>
    simp only [Directive.nest, State.blocks, hf] at ahead
    rw [hf] at back
    exact ⟨ahead, back.2⟩
  | again hf _ =>
    have here := back
    rw [hf] at here
    refine ⟨?_, back⟩
    simp only [State.blocks, hf]
    exact here.1 _ rfl
  | nextItem hf =>
    rw [hf] at back
    exact ⟨back.1 _ rfl, back.1, back.2⟩

section

variable {r : Setting α σ} {s t : State α σ} {verdict : Option Offence}

/-- A render that goes on keeps the agreement. -/
theorem agrees_step (hm : r.mode = .interpret) (h : Agrees r.size verdict s)
    (hs : r.step s = .next t) : Agrees r.size verdict t := by
  have ahead := h.ahead
  cases takes_of_step hm hs with
  | literal hr =>
    rw [hr, firstOffence] at ahead
    rw [State.emit_eq]
    exact ⟨ahead, h.back⟩
  | directive hr leads =>
    rw [hr, firstOffence] at ahead
    exact leads.agrees ahead h.back

/-- A render that ends has the verdict: a text if there is no offence, and otherwise the offence, if
no expression and no hook fails before it. -/
theorem Ends.of_agrees (hm : r.mode = .interpret) (h : Agrees r.size verdict s) {o : Outcome α σ}
    (he : r.Ends s o) :
    (∀ text, o.result = .ok text → verdict = none) ∧
      ∀ offset fault, o.result = .error (.structural offset fault) →
        verdict = some ⟨offset, fault⟩ := by
  have ahead := h.ahead
  rcases he with ⟨t, hd, rfl⟩ | ⟨e, t, hf, rfl⟩
  · refine ⟨?_, nofun⟩
    intro text _
    cases takes_of_step hm hd with
    | done hr hs =>
      rw [State.blocks, hr, hs] at ahead
      exact ahead.symm
    | directive hr leads => exact leads.not_done.elim
  · refine ⟨nofun, ?_⟩
    intro offset fault he
    cases he
    cases takes_of_step hm hf with
    | unclosed hr hs =>
      rw [State.blocks, hr, hs] at ahead
      exact ahead.symm
    | unterminated hr =>
      rw [hr, firstOffence] at ahead
      exact ahead.symm
    | directive hr leads =>
      obtain ⟨closer, hd, hb, rfl, rfl⟩ := leads.structural
      have hn : s.blocks.head? ≠ some closer.block := by
        rw [State.blocks, List.head?_map]
        exact hb
      rw [hr, firstOffence, hd, Directive.nest, if_neg hn] at ahead
      exact ahead.symm

end

end Setting

/-- What a render says about the structure of a template does not depend on what it computes. A text
comes out only of a template without an offence; a structural error is the first offence of the
template; and there is none if the template has no offence. -/
theorem structural_verdict [HostObject α] (engine : Engine α) (hook : Hook α σ) (fuel : Nat)
    (template : String) (env : Environment α) (memory : σ) (o : Outcome α σ)
    (h : engine.renderWithHook hook fuel template env memory = some o) :
    (∀ text, o.result = .ok text → offence? template = none) ∧
      (∀ offset fault, o.result = .error (.structural offset fault) →
        offence? template = some ⟨offset, fault⟩) ∧
      (offence? template = none →
        ∀ offset fault, o.result ≠ .error (.structural offset fault)) := by
  have verdict : (∀ text, o.result = .ok text → offence? template = none) ∧
      ∀ offset fault, o.result = .error (.structural offset fault) →
        offence? template = some ⟨offset, fault⟩ := by
    rw [Engine.renderWithHook, Engine.renderIn] at h
    split at h
    · cases h
      constructor
      · intro text ht
        cases ht
      · intro offset fault he
        cases he
    · obtain ⟨t, reached, ended⟩ := Setting.exists_run_iff.1 ⟨fuel, h⟩
      have hs : Agrees template.utf8ByteSize (offence? template)
          (Setting.start template.toList env memory) := ⟨rfl, trivial⟩
      have ht := reached.invariant (fun _ _ => Setting.agrees_step rfl) hs
      exact ended.of_agrees rfl ht
  refine ⟨verdict.1, verdict.2, ?_⟩
  intro none offset fault he
  rw [verdict.2 offset fault he] at none
  cases none

/-- A loop is repeated twice before the closer after it is found to have no block. -/
theorem structural_verdict_after_loop :
    Engine.bare.renderWithHook .silent 10 "@[WHILE:n < 2]@[SET:n=n+1]@[ENDWHILE]@[ENDIF]"
        (.ofList [("n", .int 0)]) () =
      some ⟨.error (.structural 37 (.unexpectedCloser .endConditional)),
        .ofList [("n", .int 2)], (), .bare⟩ ∧
    offence? "@[WHILE:n < 2]@[SET:n=n+1]@[ENDWHILE]@[ENDIF]" =
      some ⟨37, .unexpectedCloser .endConditional⟩ := by
  have rendered : Engine.bare.renderWithHook .silent 10
      "@[WHILE:n < 2]@[SET:n=n+1]@[ENDWHILE]@[ENDIF]" (.ofList [("n", .int 0)]) () =
      some ⟨.error (.structural 37 (.unexpectedCloser .endConditional)),
        .ofList [("n", .int 2)], (), .bare⟩ := by
    cbv
  exact ⟨rendered, (structural_verdict _ _ _ _ _ _ _ rendered).2.1 _ _ rfl⟩

end MicroTemplate.Template
