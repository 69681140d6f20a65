import MicroTemplate.Proofs.Template.Nesting

/-!
# The block tree of a template

A template without an offence is a tree: its blocks hold what stands between the directive that
opens them and the one that closes them, and a conditional section holds its parts between the
directives that turn it. The marks of the tree carry what they ask for, so a tree that does not fit
together cannot be written down. `before` writes a tree as the segments of a template, and every
template without an offence, and no other, is written by a tree.
-/

namespace MicroTemplate.Template

/-- Whether a directive neither opens nor closes a block. -/
def Directive.isSingle : Directive → Bool
  | .output _ | .assign _ | .listing | .foreign => true
  | _ => false

/-- A directive in a template that asks for `d`. -/
structure Mark (d : Directive) where
  /-- What stands between the brackets. -/
  body : List Char
  /-- The offset of the directive. -/
  start : Nat
  /-- The offset just past it. -/
  stop : Nat
  /-- What it asks for. -/
  asks : Directive.ofBody body = d

/-- The segment that a directive is. -/
def Mark.segment {d : Directive} (mark : Mark d) : Segment :=
  .directive mark.body mark.start mark.stop

mutual

/-- Parts of a template that follow each other, with all blocks closed. -/
inductive Parts where
  /-- No parts. -/
  | nil
  /-- Literal text before other parts. -/
  | literal (text : List Char) (next : Parts)
  /-- A directive without a block before other parts. -/
  | single {d : Directive} (mark : Mark d) (single : d.isSingle) (next : Parts)
  /-- A conditional section before other parts. -/
  | conditional {c : List Char} (opening : Mark (.openConditional c)) (sections : Sections)
    (closing : Mark (.close .endConditional)) (next : Parts)
  /-- A loop before other parts. -/
  | loop {c : List Char} (opening : Mark (.openLoop c)) (body : Parts)
    (closing : Mark (.close .endLoop)) (next : Parts)
  /-- An iteration before other parts. -/
  | iteration {header : List Char} (opening : Mark (.openIteration header)) (body : Parts)
    (closing : Mark (.close .endIteration)) (next : Parts)

/-- What a conditional section holds. -/
inductive Sections where
  /-- The parts before its end. -/
  | last (body : Parts)
  /-- The parts before a turn, and what comes after it. -/
  | more (body : Parts) (turn : Mark (.close .otherwise)) (others : Sections)

end

mutual

/-- The segments of parts, with others after them. -/
def Parts.before (rest : List Segment) : Parts → List Segment
  | .nil => rest
  | .literal text next => .literal text :: next.before rest
  | .single mark _ next => mark.segment :: next.before rest
  | .conditional opening sections closing next =>
    opening.segment :: sections.before (closing.segment :: next.before rest)
  | .loop opening body closing next =>
    opening.segment :: body.before (closing.segment :: next.before rest)
  | .iteration opening body closing next =>
    opening.segment :: body.before (closing.segment :: next.before rest)

/-- The segments of a conditional section up to its end, with others after them. -/
def Sections.before (rest : List Segment) : Sections → List Segment
  | .last body => body.before rest
  | .more body turn others => body.before (turn.segment :: others.before rest)

end

mutual

theorem Parts.length_le_before (rest : List Segment) :
    ∀ p : Parts, rest.length ≤ (p.before rest).length
  | .nil => Nat.le_refl _
  | .literal text next => by
    have h := next.length_le_before rest
    rw [Parts.before, List.length_cons]
    omega
  | .single mark _ next => by
    have h := next.length_le_before rest
    rw [Parts.before, List.length_cons]
    omega
  | .conditional opening sections closing next => by
    have hn := next.length_le_before rest
    have hs := sections.length_le_before (closing.segment :: next.before rest)
    rw [List.length_cons] at hs
    rw [Parts.before, List.length_cons]
    omega
  | .loop opening body closing next => by
    have hn := next.length_le_before rest
    have hb := body.length_le_before (closing.segment :: next.before rest)
    rw [List.length_cons] at hb
    rw [Parts.before, List.length_cons]
    omega
  | .iteration opening body closing next => by
    have hn := next.length_le_before rest
    have hb := body.length_le_before (closing.segment :: next.before rest)
    rw [List.length_cons] at hb
    rw [Parts.before, List.length_cons]
    omega

theorem Sections.length_le_before (rest : List Segment) :
    ∀ s : Sections, rest.length ≤ (s.before rest).length
  | .last body => body.length_le_before rest
  | .more body turn others => by
    have ho := others.length_le_before rest
    have hb := body.length_le_before (turn.segment :: others.before rest)
    rw [List.length_cons] at hb
    rw [Sections.before]
    omega

end

/-! ## A tree has no offence -/

section

variable {size : Nat} {opened : List Block}

/-- Reading a directive on the way to the first offence. -/
theorem Mark.firstOffence {d : Directive} (mark : Mark d) {inner : List Block}
    (h : d.nest mark.start opened = .ok inner) (rest : List Segment) :
    firstOffence size opened (mark.segment :: rest) = firstOffence size inner rest := by
  rw [Mark.segment, Template.firstOffence, mark.asks, h]

theorem Directive.nest_of_isSingle {d : Directive} (hd : d.isSingle) (start : Nat) :
    d.nest start opened = .ok opened := by
  cases d with
  | output _ | assign _ | listing | foreign => rfl
  | openConditional _ | openLoop _ | openIteration _ | close _ => cases hd

mutual

/-- The first offence does not stand in parts with all blocks closed. -/
theorem Parts.firstOffence_before (rest : List Segment) :
    ∀ (p : Parts) (opened : List Block),
      firstOffence size opened (p.before rest) = firstOffence size opened rest
  | .nil, _ => rfl
  | .literal text next, opened => by
    rw [Parts.before, firstOffence]
    exact next.firstOffence_before rest opened
  | .single mark single next, opened => by
    rw [Parts.before, mark.firstOffence (Directive.nest_of_isSingle single _)]
    exact next.firstOffence_before rest opened
  | .conditional opening sections closing next, opened => by
    rw [Parts.before, opening.firstOffence rfl, sections.firstOffence_before _ opened,
      closing.firstOffence rfl]
    exact next.firstOffence_before rest opened
  | .loop opening body closing next, opened => by
    rw [Parts.before, opening.firstOffence rfl, body.firstOffence_before _ (.loop :: opened),
      closing.firstOffence rfl]
    exact next.firstOffence_before rest opened
  | .iteration opening body closing next, opened => by
    rw [Parts.before, opening.firstOffence rfl, body.firstOffence_before _ (.iteration :: opened),
      closing.firstOffence rfl]
    exact next.firstOffence_before rest opened

/-- The first offence does not stand in a conditional section. -/
theorem Sections.firstOffence_before (rest : List Segment) :
    ∀ (s : Sections) (opened : List Block),
      firstOffence size (.conditional :: opened) (s.before rest) =
        firstOffence size (.conditional :: opened) rest
  | .last body, opened => body.firstOffence_before rest (.conditional :: opened)
  | .more body turn others, opened => by
    rw [Sections.before, body.firstOffence_before _ (.conditional :: opened),
      turn.firstOffence rfl]
    exact others.firstOffence_before rest opened

end

/-! ## What has no offence has a tree -/

/-- How segments are cut that are read without an offence inside some open blocks: outside of all
blocks they are the parts of a tree, and inside a block they begin with parts that end before a
closer of the block. -/
def Cut (size : Nat) : List Block → List Segment → Prop
  | [], segments => ∃ p : Parts, p.before [] = segments
  | block :: outer, segments =>
    ∃ (p : Parts) (closer : Closer) (mark : Mark (.close closer)) (rest : List Segment),
      closer.block = block ∧ p.before (mark.segment :: rest) = segments ∧
        firstOffence size (if closer = .otherwise then block :: outer else outer) rest = none

/-- Segments that are cut are cut with parts before them too. -/
theorem Cut.prepend {segments : List Segment} (add : Parts → Parts)
    (write : List Segment → List Segment)
    (h : ∀ (p : Parts) (rest : List Segment), (add p).before rest = write (p.before rest))
    (cut : Cut size opened segments) : Cut size opened (write segments) := by
  cases opened with
  | nil =>
    obtain ⟨p, hp⟩ := cut
    refine ⟨add p, ?_⟩
    rw [h, hp]
  | cons block outer =>
    obtain ⟨p, closer, mark, rest, hb, hp, hr⟩ := cut
    refine ⟨add p, closer, mark, rest, hb, ?_, hr⟩
    rw [h, hp]

/-- What is left after a closer is shorter than what the closer was cut from. -/
theorem length_lt_of_before {d : Directive} {p : Parts} {mark : Mark d}
    {rest segments : List Segment} (h : p.before (mark.segment :: rest) = segments) :
    rest.length < segments.length := by
  have hl := p.length_le_before (mark.segment :: rest)
  rw [h, List.length_cons] at hl
  omega

mutual

/-- Segments without an offence inside some open blocks are cut. -/
theorem cut_of_firstOffence : ∀ (segments : List Segment) (opened : List Block),
    firstOffence size opened segments = none → Cut size opened segments
  | [], [], _ => ⟨.nil, rfl⟩
  | [], block :: outer, h => by
    rw [firstOffence] at h
    cases h
  | .unterminated start :: rest, opened, h => by
    rw [firstOffence] at h
    cases h
  | .literal text :: rest, opened, h => by
    rw [firstOffence] at h
    have cut := cut_of_firstOffence rest opened h
    exact cut.prepend (.literal text) (.literal text :: ·) (fun _ _ => rfl)
  | .directive body start stop :: rest, opened, h => by
    rw [firstOffence] at h
    cases hd : Directive.ofBody body with
    | output _ | assign _ | listing | foreign =>
      rw [hd] at h
      have cut := cut_of_firstOffence rest opened h
      exact cut.prepend (.single ⟨body, start, stop, hd⟩ rfl) (.directive body start stop :: ·)
        (fun _ _ => rfl)
    | close closer =>
      rw [hd, Directive.nest] at h
      by_cases hb : opened.head? = some closer.block
      · rw [if_pos hb] at h
        cases opened with
        | nil => cases hb
        | cons block outer =>
          cases hb
          exact ⟨.nil, closer, ⟨body, start, stop, hd⟩, rest, rfl, rfl, h⟩
      · rw [if_neg hb] at h
        cases h
    | openConditional c =>
      rw [hd] at h
      obtain ⟨sections, closing, after, hs, hn⟩ := sections_of_firstOffence rest opened h
      have shorter : after.length < rest.length := by
        have hl := sections.length_le_before (closing.segment :: after)
        rw [hs, List.length_cons] at hl
        omega
      have cut := cut_of_firstOffence after opened hn
      have whole := cut.prepend (.conditional ⟨body, start, stop, hd⟩ sections closing)
        (fun next => .directive body start stop :: sections.before (closing.segment :: next))
        (fun _ _ => rfl)
      rwa [hs] at whole
    | openLoop c =>
      rw [hd] at h
      obtain ⟨p, closer, closing, after, hb, hp, hn⟩ :=
        cut_of_firstOffence rest (.loop :: opened) h
      have shorter := length_lt_of_before hp
      cases closer with
      | endLoop =>
        have cut := cut_of_firstOffence after opened hn
        have whole := cut.prepend (.loop ⟨body, start, stop, hd⟩ p closing)
          (fun next => .directive body start stop :: p.before (closing.segment :: next))
          (fun _ _ => rfl)
        rwa [hp] at whole
      | otherwise | endConditional | endIteration => cases hb
    | openIteration header =>
      rw [hd] at h
      obtain ⟨p, closer, closing, after, hb, hp, hn⟩ :=
        cut_of_firstOffence rest (.iteration :: opened) h
      have shorter := length_lt_of_before hp
      cases closer with
      | endIteration =>
        have cut := cut_of_firstOffence after opened hn
        have whole := cut.prepend (.iteration ⟨body, start, stop, hd⟩ p closing)
          (fun next => .directive body start stop :: p.before (closing.segment :: next))
          (fun _ _ => rfl)
        rwa [hp] at whole
      | otherwise | endConditional | endLoop => cases hb
termination_by segments => 2 * segments.length
decreasing_by
  all_goals simp_wf
  all_goals omega

/-- Segments without an offence inside a conditional section begin with what the section holds. -/
theorem sections_of_firstOffence (segments : List Segment) (opened : List Block)
    (h : firstOffence size (.conditional :: opened) segments = none) :
    ∃ (s : Sections) (closing : Mark (.close .endConditional)) (rest : List Segment),
      s.before (closing.segment :: rest) = segments ∧ firstOffence size opened rest = none := by
  obtain ⟨p, closer, mark, rest, hb, hp, hn⟩ :=
    cut_of_firstOffence segments (.conditional :: opened) h
  have shorter := length_lt_of_before hp
  cases closer with
  | endConditional => exact ⟨.last p, mark, rest, hp, hn⟩
  | otherwise =>
    obtain ⟨s, closing, after, hs, ho⟩ := sections_of_firstOffence rest opened hn
    refine ⟨.more p mark s, closing, after, ?_, ho⟩
    rw [Sections.before, hs, hp]
  | endLoop | endIteration => cases hb
termination_by 2 * segments.length + 1
decreasing_by
  all_goals simp_wf
  all_goals omega

end

end

/-- The templates without an offence are those that a tree writes. -/
theorem offence?_eq_none_iff (template : String) :
    offence? template = none ↔ ∃ p : Parts, p.before [] = segments template.toList := by
  constructor
  · intro h
    exact cut_of_firstOffence (segments template.toList) [] h
  · rintro ⟨p, hp⟩
    rw [offence?, ← hp, p.firstOffence_before]
    rfl

end MicroTemplate.Template
