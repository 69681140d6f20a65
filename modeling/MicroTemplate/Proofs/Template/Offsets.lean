import MicroTemplate.Proofs.Template.Delegation
import MicroTemplate.Proofs.Template.Session

/-!
# Offsets into a template

A render gives offsets away: to the hook that of the byte after a directive, and in structural
errors that of a marker or of the end. They are counted when the template is cut into segments, long
before they are used, and a loop goes back to segments that were cut before it. Wherever a render
stands and wherever it can go back to, the segments are those of what is left of the template from
some byte on, and the scanner has come to this byte: so every offset is one at which a character
begins, or the end.
-/

namespace MicroTemplate.Template

open Text

variable {α σ : Type}

/-! ## Where a render can go -/

/-- The segments that can come next: those that do, and those that an open block can go back to. -/
def State.places (s : State α σ) : List (List Segment) :=
  s.rest :: s.frames.filterMap Frame.resume?

namespace Setting

variable [HostObject α] {r : Setting α σ} {s t : State α σ}

/-- A directive leads to no other place than those that could come next behind it. -/
theorem Leads.places_subset {body : List Char} {start stop : ℕ} {d : Directive}
    (leads : r.Leads body start stop d s (.next t)) : t.places ⊆ s.places := by
  have around {f : Frame α} {frames : List (Frame α)} (hf : s.frames = f :: frames) :
      frames.filterMap Frame.resume? ⊆ s.frames.filterMap Frame.resume? := by
    rw [hf]
    exact ((List.sublist_cons_self f frames).filterMap _).subset
  cases leads with
  | ignored _ _ | output _ _ | assign _ _ _ _ | unassigned _ _ | listing | foreign _ _
  | openConditional _ _ | openConditionalIgnored _ | otherwise _ | otherwiseIgnored _ =>
    exact List.Subset.refl _
  | openLoop _ _ | openLoopIgnored _ | openIteration _ _ _ _ _ | openEmpty _ _ _ _ _
  | openHeadless _ _ | openIterationIgnored _ =>
    exact List.cons_subset.2 ⟨List.mem_cons_self, List.Subset.refl _⟩
  | endConditional hf | endConditionalIgnored hf | endLoop hf _ | endLoopIgnored hf
  | endIteration hf => exact List.cons_subset_cons _ (around hf)
  | again hf _ =>
    refine List.cons_subset.2 ⟨List.mem_cons_of_mem _ ?_, List.subset_cons_self _ _⟩
    rw [hf]
    exact List.mem_cons_self
  | @nextItem _ resume _ _ _ _ frames hf =>
    have goesBack : s.frames.filterMap Frame.resume? =
        resume :: frames.filterMap Frame.resume? := by
      rw [hf]
      rfl
    rw [State.places, State.places, goesBack]
    exact List.cons_subset.2 ⟨by simp, List.subset_cons_self _ _⟩

/-- A step takes the next segment and leads to no other place than those that could come next. -/
theorem places_of_step (h : r.step s = .next t) :
    ∃ segment rest, s.rest = segment :: rest ∧ (∀ start, segment ≠ .unterminated start) ∧
      t.places ⊆ rest :: s.frames.filterMap Frame.resume? := by
  cases hr : s.rest with
  | nil =>
    rw [step, hr] at h
    cases hf : s.frames <;> rw [hf] at h <;> cases h
  | cons segment rest =>
    cases segment with
    | literal text =>
      rw [step_literal hr, State.emit_eq] at h
      cases h
      have taken : ∀ start, Segment.literal text ≠ .unterminated start := by
        rintro start ⟨⟩
      exact ⟨_, rest, rfl, taken, List.Subset.refl _⟩
    | directive body start stop =>
      rw [step_directive hr] at h
      obtain ⟨d, _, leads⟩ := r.exists_leads body start stop { s with rest := rest }
      rw [h] at leads
      have taken : ∀ start', Segment.directive body start stop ≠ .unterminated start' := by
        rintro start' ⟨⟩
      exact ⟨_, rest, rfl, taken, leads.places_subset⟩
    | unterminated start =>
      rw [step, hr] at h
      cases h

/-- What holds of the segments of a template, and of what is left of them after each that can be
taken, holds wherever a render can go. -/
theorem Reaches.places {holds : List Segment → Prop}
    (tail : ∀ segment rest, (∀ start, segment ≠ .unterminated start) → holds (segment :: rest) →
      holds rest)
    (h : r.Reaches s t) (hs : ∀ place ∈ s.places, holds place) :
    ∀ place ∈ t.places, holds place := by
  have kept : ∀ t u : State α σ, (∀ place ∈ t.places, holds place) → r.step t = .next u →
      ∀ place ∈ u.places, holds place := by
    intro t u ht hstep place hp
    obtain ⟨segment, rest, hr, taken, subset⟩ := places_of_step hstep
    rcases List.mem_cons.1 (subset hp) with rfl | hm
    · refine tail segment _ taken ?_
      rw [← hr]
      exact ht _ List.mem_cons_self
    · exact ht place (List.mem_cons_of_mem _ hm)
  exact h.invariant kept hs

/-- The same of a whole render, in which no block is open at the beginning. -/
theorem Reaches.places_of_start {holds : List Segment → Prop}
    (tail : ∀ segment rest, (∀ start, segment ≠ .unterminated start) → holds (segment :: rest) →
      holds rest)
    {template : List Char} {env : Environment α} {memory : σ}
    (h : r.Reaches (Setting.start template env memory) t) (hs : holds (segments template)) :
    ∀ place ∈ t.places, holds place :=
  h.places tail (List.forall_mem_singleton.2 hs)

end Setting

/-! ## Where the scanner comes -/

/-- The scanner of segments comes to an offset, with this text left of the template. It goes on by a
character where no directive begins, and by a whole directive where one does. -/
inductive Scanned (template : List Char) : ℕ → List Char → Prop where
  /-- It begins at the beginning. -/
  | start : Scanned template 0 template
  /-- It passes over a character. -/
  | character {offset c rest} (h : Scanned template offset (c :: rest))
    (plain : ∀ inner, c = '@' → rest = '[' :: inner → False) :
    Scanned template (offset + c.utf8Size) rest
  /-- It passes over a directive. -/
  | directive {offset inner body rest} (h : Scanned template offset ('@' :: '[' :: inner))
    (hs : splitBody? 0 false inner = some (body, rest)) :
    Scanned template (offset + 2 + byteLength body + 1) rest

/-- The marker of a directive and its closing bracket take three bytes. -/
theorem byteLength_directive (body : List Char) :
    byteLength ('@' :: '[' :: (body ++ [']'])) = 2 + byteLength body + 1 := by
  have single : '@'.utf8Size = 1 ∧ '['.utf8Size = 1 ∧ ']'.utf8Size = 1 := by decide
  simp only [byteLength_cons, byteLength_append, byteLength_nil, single]
  omega

/-- The offset that the scanner has come to is the number of bytes of what it has passed. -/
theorem Scanned.exists_front {template rest : List Char} {offset : ℕ}
    (h : Scanned template offset rest) :
    ∃ front, template = front ++ rest ∧ byteLength front = offset := by
  induction h with
  | start => exact ⟨[], rfl, rfl⟩
  | @character offset c rest _ _ ih =>
    obtain ⟨front, rfl, rfl⟩ := ih
    exact ⟨front ++ [c], by simp, by simp⟩
  | @directive offset inner body rest _ hs ih =>
    obtain ⟨front, rfl, rfl⟩ := ih
    refine ⟨front ++ '@' :: '[' :: (body ++ [']']), ?_, ?_⟩
    · rw [eq_append_of_splitBody? hs]
      simp
    · rw [byteLength_append, byteLength_directive]
      omega

/-- A text is literal up to the next marker, or to its end. -/
theorem Scanned.exists_literal {template : List Char} (offset : ℕ) (pending cs : List Char)
    (h : Scanned template offset cs) :
    ∃ text rest, Scanned template (offset + byteLength text) rest ∧
      segmentsFrom offset pending cs =
        literalBefore (pending.reverse ++ text)
          (segmentsFrom (offset + byteLength text) [] rest) ∧
      (rest = [] ∨ ∃ inner, rest = '@' :: '[' :: inner) := by
  induction offset, pending, cs using segmentsFrom.induct with
  | case1 offset pending inner _ =>
    refine ⟨[], '@' :: '[' :: inner, h, ?_, .inr ⟨inner, rfl⟩⟩
    have joined := segmentsFrom_pending offset [] pending ('@' :: '[' :: inner)
    rw [List.nil_append] at joined
    rw [joined, List.append_nil, byteLength_nil, Nat.add_zero]
    cases hs : splitBody? 0 false inner with
    | none => rw [segmentsFrom_unterminated _ _ hs]; rfl
    | some split => rw [segmentsFrom_directive _ _ hs]; rfl
  | case2 offset pending c rest hc ih =>
    obtain ⟨text, left, scanned, cut, ends⟩ := ih (h.character hc)
    rw [Nat.add_assoc] at scanned cut
    refine ⟨c :: text, left, scanned, ?_, ends⟩
    rw [segmentsFrom.eq_2 _ _ _ _ hc, cut]
    simp
  | case3 offset pending =>
    refine ⟨[], [], h, ?_, .inl rfl⟩
    simp [segmentsFrom, literalBefore]

/-! ## What is left of a template -/

/-- Whether some segments are those of what is left of a template from an offset on to which the
scanner comes. -/
def LeftFrom (template : String) (offset : ℕ) (segments : List Segment) : Prop :=
  ∃ rest, Scanned template.toList offset rest ∧ segments = segmentsFrom offset [] rest

/-- Whether a directive with this body stands in a template, from one byte on to before another, and
ends there: what stands between is `@[`, the body and the bracket that closes the directive. -/
def HasDirective (template body : String) (start stop : ℕ) : Prop :=
  ∃ front back, template = front ++ ("@[" ++ body ++ "]") ++ back ∧ front.utf8ByteSize = start ∧
    (front ++ ("@[" ++ body ++ "]")).utf8ByteSize = stop ∧
    splitBody? 0 false (body ++ "]" ++ back).toList = some (body.toList, back.toList)

/-- Whether a marker stands in a template at a byte, with no bracket behind it that closes the
directive. -/
def HasOpenMarker (template : String) (start : ℕ) : Prop :=
  ∃ front back, template = front ++ "@[" ++ back ∧ front.utf8ByteSize = start ∧
    splitBody? 0 false back.toList = none

section

variable {template : String} {offset : ℕ} {rest : List Segment}

/-- Without a literal text at their beginning, the segments that are left begin where a directive
does. -/
theorem LeftFrom.exists_marker {segment : Segment} (h : LeftFrom template offset (segment :: rest))
    (hs : ∀ text, segment ≠ .literal text) :
    ∃ inner, Scanned template.toList offset ('@' :: '[' :: inner) ∧
      segment :: rest = segmentsFrom offset [] ('@' :: '[' :: inner) := by
  obtain ⟨cs, scanned, cut⟩ := h
  obtain ⟨text, left, scanned', cut', ends⟩ := Scanned.exists_literal offset [] cs scanned
  rw [cut', List.reverse_nil, List.nil_append] at cut
  cases text with
  | cons c text =>
    cases cut
    exact absurd rfl (hs _)
  | nil =>
    rcases ends with rfl | ⟨inner, rfl⟩
    · rw [segmentsFrom] at cut
      cases cut
    · exact ⟨inner, scanned', cut⟩

/-- A directive that comes next stands in the template at the offset that the scanner has come to,
and ends where what comes behind it begins. -/
theorem LeftFrom.directive {body : List Char} {start stop : ℕ}
    (h : LeftFrom template offset (.directive body start stop :: rest)) :
    start = offset ∧ HasDirective template (.ofList body) start stop ∧
      LeftFrom template stop rest := by
  obtain ⟨inner, scanned, cut⟩ := h.exists_marker nofun
  cases hs : splitBody? 0 false inner with
  | none =>
    rw [segmentsFrom_unterminated _ _ hs] at cut
    cases cut
  | some split =>
    obtain ⟨b, after⟩ := split
    rw [segmentsFrom_directive _ _ hs] at cut
    cases cut
    obtain ⟨front, whole, rfl⟩ := scanned.exists_front
    have text := eq_append_of_splitBody? hs
    have marked : "@[" ++ String.ofList body ++ "]" =
        .ofList ('@' :: '[' :: (body ++ [']'])) := by
      rw [← String.toList_inj]
      simp
    have length := byteLength_directive body
    refine ⟨rfl, ⟨.ofList front, .ofList after, ?_, ?_, ?_, ?_⟩, after, scanned.directive hs, rfl⟩
    · rw [marked, ← String.toList_inj, whole, text]
      simp
    · rw [← byteLength_toList, String.toList_ofList]
    · rw [marked, ← byteLength_toList]
      simp only [String.toList_append, String.toList_ofList, byteLength_append, length]
      omega
    · rw [text] at hs
      simpa using hs

/-- A directive that comes next and is not closed begins at a marker at the offset that the scanner
has come to, and is the last segment. -/
theorem LeftFrom.unterminated {start : ℕ}
    (h : LeftFrom template offset (.unterminated start :: rest)) :
    start = offset ∧ HasOpenMarker template start ∧ rest = [] := by
  obtain ⟨inner, scanned, cut⟩ := h.exists_marker nofun
  cases hs : splitBody? 0 false inner with
  | some split =>
    rw [segmentsFrom_directive _ _ hs] at cut
    cases cut
  | none =>
    rw [segmentsFrom_unterminated _ _ hs] at cut
    cases cut
    obtain ⟨front, whole, rfl⟩ := scanned.exists_front
    refine ⟨rfl, ⟨.ofList front, .ofList inner, ?_, ?_, ?_⟩, rfl⟩
    · rw [← String.toList_inj, whole]
      simp
    · rw [← byteLength_toList, String.toList_ofList]
    · rw [String.toList_ofList, hs]

/-- Behind a literal text that comes next, what is left begins where the text ends. -/
theorem LeftFrom.literal {text : List Char}
    (h : LeftFrom template offset (.literal text :: rest)) :
    LeftFrom template (offset + byteLength text) rest := by
  obtain ⟨cs, scanned, cut⟩ := h
  obtain ⟨passed, left, scanned', cut', ends⟩ := Scanned.exists_literal offset [] cs scanned
  rw [cut', List.reverse_nil, List.nil_append] at cut
  cases passed with
  | cons c passed =>
    cases cut
    exact ⟨left, scanned', rfl⟩
  | nil =>
    -- Without literal text there is a directive or nothing.
    exfalso
    rcases ends with rfl | ⟨inner, rfl⟩
    · rw [segmentsFrom] at cut
      cases cut
    · cases hs : splitBody? 0 false inner with
      | none =>
        rw [segmentsFrom_unterminated _ _ hs] at cut
        cases cut
      | some split =>
        rw [segmentsFrom_directive _ _ hs] at cut
        cases cut

/-- Nothing is left where the scanner has come to the end. -/
theorem LeftFrom.nil (h : LeftFrom template offset []) : offset = template.utf8ByteSize := by
  obtain ⟨cs, scanned, cut⟩ := h
  obtain ⟨passed, left, scanned', cut', ends⟩ := Scanned.exists_literal offset [] cs scanned
  rw [cut', List.reverse_nil, List.nil_append] at cut
  cases passed with
  | cons c passed => cases cut
  | nil =>
    rcases ends with rfl | ⟨inner, rfl⟩
    · obtain ⟨front, whole, length⟩ := scanned'.exists_front
      rw [byteLength_nil, Nat.add_zero] at length
      rw [← byteLength_toList, whole, List.append_nil, length]
    · cases hs : splitBody? 0 false inner with
      | none =>
        rw [segmentsFrom_unterminated _ _ hs] at cut
        cases cut
      | some split =>
        rw [segmentsFrom_directive _ _ hs] at cut
        cases cut

/-- The segments that are left after one that can be taken begin where the scanner comes too. -/
theorem LeftFrom.tail {segment : Segment} (h : LeftFrom template offset (segment :: rest))
    (taken : ∀ start, segment ≠ .unterminated start) : ∃ next, LeftFrom template next rest := by
  cases segment with
  | literal text => exact ⟨_, h.literal⟩
  | directive body start stop => exact ⟨_, h.directive.2.2⟩
  | unterminated start => exact absurd rfl (taken start)

end

/-- The byte of a template of `size` bytes at which some last segments of it begin. -/
def offsetOf (size : ℕ) : List Segment → ℕ
  | [] => size
  | .literal text :: rest => offsetOf size rest - byteLength text
  | .directive _ start _ :: _ => start
  | .unterminated start :: _ => start

theorem LeftFrom.offsetOf_eq {template : String} {offset : ℕ} {segments : List Segment}
    (h : LeftFrom template offset segments) :
    offsetOf template.utf8ByteSize segments = offset := by
  induction segments generalizing offset with
  | nil => exact h.nil.symm
  | cons segment rest ih =>
    cases segment with
    | literal text => rw [offsetOf, ih h.literal, Nat.add_sub_cancel]
    | directive body start stop => exact h.directive.1
    | unterminated start => exact h.unterminated.1

/-- Wherever a render can go, what comes next is what is left of the template from the byte at which
it begins. -/
theorem leftFrom_of_reaches [HostObject α] {r : Setting α σ} {template : String}
    {env : Environment α} {memory : σ} {t : State α σ}
    (h : r.Reaches (Setting.start template.toList env memory) t) :
    ∀ place ∈ t.places, LeftFrom template (offsetOf template.utf8ByteSize place) place := by
  have left : ∀ place ∈ t.places, ∃ offset, LeftFrom template offset place := by
    refine h.places_of_start ?_ ⟨0, template.toList, .start, rfl⟩
    rintro segment rest taken ⟨offset, left⟩
    exact left.tail taken
  intro place hp
  obtain ⟨offset, hl⟩ := left place hp
  rwa [hl.offsetOf_eq]

/-! ## What the hook is told -/

/-- Whether all that a hook has been asked about are directives of a template, each with the offset
of the byte after it. -/
def Noted (template : String) (calls : List (String × ℕ)) : Prop :=
  ∀ call ∈ calls, ∃ start, HasDirective template call.1 start call.2

/-- The hook that writes down what it is asked answers like the hook itself. -/
theorem Hook.mimics_recorded (hook : Hook α σ) (engine : Engine α) :
    hook.Mimics engine hook.recorded Prod.fst fun _ => True where
  answer := by
    intro body stop env memory reply env' memory' _ h
    rw [recorded] at h
    cases h
    rfl
  kept _ _ := trivial

namespace Setting

variable [HostObject α] {r : Setting α (σ × List (String × ℕ))} {hook : Hook α σ}
  {s t : State α (σ × List (String × ℕ))} {template : String}

/-- At a directive, a hook is asked about the directive or nothing. -/
theorem Leads.recorded (hr : r.hook = hook.recorded) {body : List Char} {start stop : ℕ}
    {d : Directive} {p : Progress α (σ × List (String × ℕ))}
    (leads : r.Leads body start stop d s p) :
    p.state.memory.2 = s.memory.2 ∨
      p.state.memory.2 = s.memory.2 ++ [(.ofList body, stop)] := by
  cases leads with
  | foreign _ hh | foreignFails _ hh =>
    rw [hr] at hh
    exact .inr (congrArg (fun answer => answer.2.2.2) hh).symm
  | _ => exact .inl rfl

/-- A step adds to what a hook has been asked only a directive of the template. -/
theorem noted_step (hr : r.hook = hook.recorded) {offset : ℕ}
    (left : LeftFrom template offset s.rest) (noted : Noted template s.memory.2) :
    Noted template (r.step s).state.memory.2 := by
  cases hs : s.rest with
  | nil =>
    rw [step, hs]
    cases s.frames <;> exact noted
  | cons segment rest =>
    cases segment with
    | literal text =>
      rw [step_literal hs, State.emit_eq]
      exact noted
    | unterminated start =>
      rw [step, hs]
      exact noted
    | directive body start stop =>
      rw [hs] at left
      obtain ⟨_, here, _⟩ := left.directive
      rw [step_directive hs]
      obtain ⟨d, _, leads⟩ := r.exists_leads body start stop { s with rest := rest }
      rcases leads.recorded hr with same | asked
      · rw [same]
        exact noted
      · rw [asked]
        exact List.forall_mem_append.2 ⟨noted, List.forall_mem_singleton.2 ⟨start, here⟩⟩

/-- In every state that a render reaches, a hook has been asked only about directives of the
template. -/
theorem noted_of_reaches (hr : r.hook = hook.recorded) {env : Environment α} {memory : σ}
    (h : r.Reaches (Setting.start template.toList env (memory, [])) t) :
    Noted template t.memory.2 := by
  induction h with
  | refl => exact nofun
  | tail reached hstep ih =>
    have noted := noted_step hr (leftFrom_of_reaches reached _ List.mem_cons_self) ih
    rwa [hstep] at noted

/-- What a render leaves in the memory of its hook is what its last step leaves there. -/
theorem Ends.memory_eq {τ : Type} {r : Setting α τ} {s : State α τ} {o : Outcome α τ}
    (h : r.Ends s o) : o.memory = (r.step s).state.memory := by
  rcases h with ⟨t, hs, rfl⟩ | ⟨e, t, hs, rfl⟩ <;> rw [hs] <;> rfl

end Setting

/-! ## What errors tell -/

/-- Whether the offset of a structural error is that of what it is about: of the marker of a
directive that is this closer, of a marker that no bracket closes, or of the end of the template. -/
def Pinpoints (template : String) (offset : ℕ) : StructuralFault → Prop
  | .unexpectedCloser closer =>
    ∃ body stop, HasDirective template body offset stop ∧
      trim body.toList = closer.keyword.toList
  | .unterminatedDirective => HasOpenMarker template offset
  | .unclosed _ => offset = template.utf8ByteSize

/-- A closer is its keyword alone. -/
theorem trim_of_ofBody_close {body : List Char} {closer : Closer}
    (h : Directive.ofBody body = .close closer) : trim body = closer.keyword.toList := by
  rw [Directive.ofBody] at h
  split at h
  · cases h
  · split at h
    · rw [Directive.ofArgument] at h
      split at h <;> cases h
    · rw [← String.toList_ofList (l := trim body)]
      rw [Directive.ofKeyword] at h
      split at h <;> cases h
      all_goals
        next keyword => rw [keyword]; rfl

/-- A render fails for the structure of a template only where the error says. -/
theorem pinpoints_of_step [HostObject α] {r : Setting α σ} {template : String}
    (hsize : r.size = template.utf8ByteSize) {s t : State α σ} {place offset : ℕ}
    (left : LeftFrom template place s.rest) {fault : StructuralFault}
    (h : r.step s = .failed (.structural offset fault) t) : Pinpoints template offset fault := by
  cases hr : s.rest with
  | nil =>
    rw [Setting.step, hr] at h
    cases hf : s.frames with
    | nil =>
      rw [hf] at h
      cases h
    | cons f frames =>
      rw [hf] at h
      cases h
      exact hsize
  | cons segment rest =>
    rw [hr] at left
    cases segment with
    | literal text =>
      rw [Setting.step_literal hr] at h
      cases h
    | unterminated start =>
      rw [Setting.step, hr] at h
      cases h
      exact left.unterminated.2.1
    | directive body start stop =>
      rw [Setting.step_directive hr] at h
      obtain ⟨d, hd, leads⟩ := r.exists_leads body start stop { s with rest := rest }
      rw [h] at leads
      obtain ⟨closer, rfl, _, rfl, rfl⟩ := leads.structural
      rcases hd with hd | hd
      · cases hd
      · refine ⟨.ofList body, stop, left.directive.2.1, ?_⟩
        rw [String.toList_ofList, trim_of_ofBody_close hd.symm]

/-- The offsets that a render gives away are exact. The scanner comes only to offsets within the
template at which a character begins or the template ends; and wherever a render stands, and
wherever an open block can go back to, what comes next are the segments of what is left of the
template from such an offset on. Whatever the hook is told, before the offset that it is told there
stands the directive that it is told. And a structural error has the offset of the closer that does
not fit, of the marker that is not closed, or of the end of the template. -/
theorem offsets_exact [HostObject α] (engine : Engine α) (mode : Mode) (hook : Hook α σ)
    (template : String) (env : Environment α) (memory : σ) :
    (∀ offset rest, Scanned template.toList offset rest →
      offset ≤ template.utf8ByteSize ∧ String.Pos.Raw.IsValid template ⟨offset⟩) ∧
    (∀ t, (engine.settingWith mode hook template).Reaches
        (Setting.start template.toList env memory) t →
      ∀ place ∈ t.places, LeftFrom template (offsetOf template.utf8ByteSize place) place) ∧
    (∀ t, (engine.settingWith mode hook.recorded template).Reaches
        (Setting.start template.toList env (memory, [])) t → Noted template t.memory.2) ∧
    (∀ fuel, (engine.renderIn mode hook.recorded fuel template env (memory, [])).map
        (Outcome.map Prod.fst) = engine.renderIn mode hook fuel template env memory) ∧
    (∀ fuel o, engine.renderIn mode hook.recorded fuel template env (memory, []) = some o →
      Noted template o.memory.2) ∧
    ∀ fuel o, engine.renderIn mode hook fuel template env memory = some o →
      ∀ offset fault, o.result = .error (.structural offset fault) →
        Pinpoints template offset fault := by
  refine ⟨?_, fun t ht => leftFrom_of_reaches ht, fun t ht => Setting.noted_of_reaches rfl ht, ?_,
    ?_, ?_⟩
  · intro offset rest scanned
    obtain ⟨front, whole, rfl⟩ := scanned.exists_front
    have text : template = .ofList front ++ .ofList rest := by
      rw [← String.toList_inj, whole]
      simp
    have length : byteLength front = (String.ofList front).utf8ByteSize := by
      rw [← byteLength_toList, String.toList_ofList]
    refine ⟨?_, String.Pos.Raw.isValid_iff_exists_append.2 ⟨_, _, text, ?_⟩⟩
    · rw [text, length, String.utf8ByteSize_append]
      omega
    · rw [length]
      rfl
  · intro fuel
    rw [Engine.renderIn, Engine.renderIn]
    split
    · rfl
    · have mimics := hook.mimics_recorded { engine with rendering := true }
      exact (Setting.run_map mimics mode template.utf8ByteSize fuel
        (Setting.start template.toList env (memory, [])) trivial).1.symm
  · intro fuel o ho
    rw [Engine.renderIn] at ho
    split at ho
    · cases ho
      rintro call ⟨⟩
    · obtain ⟨t, reached, ends⟩ := Setting.exists_run_iff.1 ⟨fuel, ho⟩
      rw [ends.memory_eq]
      exact Setting.noted_step rfl (leftFrom_of_reaches reached _ List.mem_cons_self)
        (Setting.noted_of_reaches rfl reached)
  · intro fuel o ho offset fault he
    rw [Engine.renderIn] at ho
    split at ho
    · cases ho
      cases he
    · obtain ⟨t, reached, ends⟩ := Setting.exists_run_iff.1 ⟨fuel, ho⟩
      have left := leftFrom_of_reaches reached _ List.mem_cons_self
      rcases ends with ⟨u, _, rfl⟩ | ⟨e, u, hs, rfl⟩
      · cases he
      · cases he
        exact pinpoints_of_step rfl left hs

/-- Behind a character of two bytes, a hook is told of a directive in each of the two passes of a
loop, and a closer behind the loop does not fit. -/
theorem offsets_exact_after_loop :
    (2 ≤ "é@[WHILE:n < 2]ü@[x]@[SET:n=n+1]@[ENDWHILE]@[ELSE]".utf8ByteSize ∧
      String.Pos.Raw.IsValid "é@[WHILE:n < 2]ü@[x]@[SET:n=n+1]@[ENDWHILE]@[ELSE]" ⟨2⟩) ∧
    (∃ o, Engine.bare.renderIn .interpret (Hook.recorded .silent) 12
        "é@[WHILE:n < 2]ü@[x]@[SET:n=n+1]@[ENDWHILE]@[ELSE]" (.ofList [("n", .int 0)])
        ((), []) = some o ∧
      o.memory.2 = [("x", 22), ("x", 22)] ∧
      Noted "é@[WHILE:n < 2]ü@[x]@[SET:n=n+1]@[ENDWHILE]@[ELSE]" o.memory.2) ∧
    Pinpoints "é@[WHILE:n < 2]ü@[x]@[SET:n=n+1]@[ENDWHILE]@[ELSE]" 45
      (.unexpectedCloser .otherwise) := by
  obtain ⟨scans, _, _, alike, notes, fails⟩ := offsets_exact .bare .interpret .silent
    "é@[WHILE:n < 2]ü@[x]@[SET:n=n+1]@[ENDWHILE]@[ELSE]" (.ofList [("n", .int 0)]) ()
  have ended : ∃ o, Engine.bare.renderIn .interpret (Hook.recorded .silent) 12
      "é@[WHILE:n < 2]ü@[x]@[SET:n=n+1]@[ENDWHILE]@[ELSE]" (.ofList [("n", .int 0)])
      ((), []) = some o ∧ o.memory.2 = [("x", 22), ("x", 22)] ∧
      o.result = .error (.structural 45 (.unexpectedCloser .otherwise)) :=
    ⟨_, by cbv, rfl, rfl⟩
  obtain ⟨o, ho, calls, failed⟩ := ended
  have told := alike 12
  rw [ho] at told
  have first : "é@[WHILE:n < 2]ü@[x]@[SET:n=n+1]@[ENDWHILE]@[ELSE]".toList =
      'é' :: "@[WHILE:n < 2]ü@[x]@[SET:n=n+1]@[ENDWHILE]@[ELSE]".toList := by
    decide
  have begun := @Scanned.start "é@[WHILE:n < 2]ü@[x]@[SET:n=n+1]@[ENDWHILE]@[ELSE]".toList
  rw [first] at begun
  have passed := begun.character (by rintro _ ⟨⟩)
  rw [← first] at passed
  exact ⟨scans 2 _ passed, ⟨o, ho, calls, notes 12 o ho⟩, fails 12 _ told.symm 45 _ failed⟩

end MicroTemplate.Template
