import MicroTemplate.Proofs.Template.Parts
import MicroTemplate.Proofs.Template.Segments

/-!
# The segments of two texts put together

Where no directive of a text is left open, and no marker comes about at the seam, the segments of a
text and another one after it are those of both: the offsets in the second count from the beginning
of the first, and literal text at the end of the first goes on into the second.
-/

namespace MicroTemplate.Template

open Text

/-! ## What comes behind a directive -/

/-- A directive that is closed is closed at the same place with more text behind it. -/
theorem splitBody?_append {depth : Nat} {quoted : Bool} {cs body after : List Char}
    (h : splitBody? depth quoted cs = some (body, after)) (more : List Char) :
    splitBody? depth quoted (cs ++ more) = some (body, after ++ more) := by
  obtain ⟨rfl, closes⟩ := splitBody?_eq_some_iff.1 h
  rw [List.append_assoc, List.cons_append]
  exact splitBody?_eq_some_iff.2 ⟨rfl, closes⟩

/-! ## Literal text and offsets -/

/-- Literal text in front of segments, as one with the literal text that they begin with. -/
def joinLiteral (text : List Char) : List Segment → List Segment
  | .literal more :: rest => .literal (text ++ more) :: rest
  | segments => literalBefore text segments

/-- A segment of a text that comes `n` bytes later. -/
def Segment.later (n : Nat) : Segment → Segment
  | literal text => literal text
  | directive body start stop => directive body (n + start) (n + stop)
  | unterminated start => unterminated (n + start)

theorem literalBefore_append (text : List Char) (segments more : List Segment) :
    literalBefore text (segments ++ more) = literalBefore text segments ++ more := by
  rw [literalBefore, literalBefore]
  split <;> rfl

theorem map_later_literalBefore (n : Nat) (text : List Char) (segments : List Segment) :
    (literalBefore text segments).map (Segment.later n) =
      literalBefore text (segments.map (Segment.later n)) := by
  rw [literalBefore, literalBefore]
  split <;> rfl

/-- Offsets count from where the text begins. -/
theorem segmentsFrom_later (n offset : Nat) (pending cs : List Char) :
    segmentsFrom (n + offset) pending cs =
      (segmentsFrom offset pending cs).map (Segment.later n) := by
  induction offset, pending, cs using segmentsFrom.induct with
  | case1 offset pending rest ih =>
    cases hs : splitBody? 0 false rest with
    | none =>
      rw [segmentsFrom_unterminated _ _ hs, segmentsFrom_unterminated _ _ hs,
        map_later_literalBefore]
      rfl
    | some split =>
      obtain ⟨body, after⟩ := split
      have others := ih body after hs
      rw [segmentsFrom_directive _ _ hs, segmentsFrom_directive _ _ hs, map_later_literalBefore,
        List.map_cons, ← others]
      simp only [Segment.later, Nat.add_assoc]
  | case2 offset pending c rest hc ih =>
    rw [segmentsFrom.eq_2 _ _ _ _ hc, segmentsFrom.eq_2 _ _ _ _ hc, Nat.add_assoc, ih]
  | case3 offset pending =>
    rw [segmentsFrom, segmentsFrom, map_later_literalBefore]
    rfl

theorem joinLiteral_literalBefore (text more : List Char) {segments : List Segment}
    (h : ∀ t ∈ segments.head?, ∀ u, t ≠ .literal u) :
    joinLiteral text (literalBefore more segments) = literalBefore (text ++ more) segments := by
  cases more with
  | nil =>
    rw [List.append_nil]
    cases segments with
    | nil => rfl
    | cons s rest =>
      cases s with
      | literal u => exact absurd rfl (h _ rfl u)
      | directive body start stop => rfl
      | unterminated start => rfl
  | cons c more => cases text <;> rfl

/-- Literal text that is pending goes on into what follows. -/
theorem segmentsFrom_pending (offset : Nat) (pending front cs : List Char) :
    segmentsFrom offset (pending ++ front) cs =
      joinLiteral front.reverse (segmentsFrom offset pending cs) := by
  induction offset, pending, cs using segmentsFrom.induct with
  | case1 offset pending rest _ =>
    cases hs : splitBody? 0 false rest with
    | none =>
      rw [segmentsFrom_unterminated _ _ hs, segmentsFrom_unterminated _ _ hs,
        joinLiteral_literalBefore _ _ (by simp), List.reverse_append]
    | some split =>
      obtain ⟨body, after⟩ := split
      rw [segmentsFrom_directive _ _ hs, segmentsFrom_directive _ _ hs,
        joinLiteral_literalBefore _ _ (by simp), List.reverse_append]
  | case2 offset pending c rest hc ih =>
    rw [segmentsFrom.eq_2 _ _ _ _ hc, segmentsFrom.eq_2 _ _ _ _ hc, ← List.cons_append, ih]
  | case3 offset pending =>
    rw [segmentsFrom, segmentsFrom, joinLiteral_literalBefore _ _ (by simp), List.reverse_append]

/-! ## The seam -/

/-- Whether a marker comes about where two texts meet. -/
def Collide (first second : List Char) : Prop :=
  first.getLast? = some '@' ∧ second.head? = some '['

instance (first second : List Char) : Decidable (Collide first second) :=
  inferInstanceAs (Decidable (_ ∧ _))

theorem not_collide_of_suffix (front : List Char) {back second : List Char}
    (h : ¬Collide (front ++ back) second) : ¬Collide back second := by
  rintro ⟨hl, hh⟩
  refine h ⟨?_, hh⟩
  rw [List.getLast?_append, hl]
  rfl

/-- The segments of two texts put together. All of those of the first stay but the literal text at
its end, which is pending when the second begins. -/
theorem exists_segmentsFrom_append (offset : Nat) (pending : List Char) {first second : List Char}
    (closed : ∀ start, .unterminated start ∉ segmentsFrom offset pending first)
    (apart : ¬Collide first second) :
    ∃ kept last, segmentsFrom offset pending first = kept ++ literalBefore last [] ∧
      segmentsFrom offset pending (first ++ second) =
        kept ++ segmentsFrom (offset + byteLength first) last.reverse second := by
  induction offset, pending, first using segmentsFrom.induct with
  | case1 offset pending rest ih =>
    cases hs : splitBody? 0 false rest with
    | none =>
      rw [segmentsFrom_unterminated _ _ hs] at closed
      refine absurd ?_ (closed offset)
      rw [literalBefore]
      split <;> simp
    | some split =>
      obtain ⟨body, after⟩ := split
      have text := eq_append_of_splitBody? hs
      rw [segmentsFrom_directive _ _ hs] at closed ⊢
      have inner : ∀ start, .unterminated start ∉
          segmentsFrom (offset + 2 + byteLength body + 1) [] after := by
        intro start hm
        refine closed start ?_
        rw [literalBefore]
        split <;> simp [hm]
      have meets : ¬Collide after second := by
        rw [text] at apart
        exact not_collide_of_suffix ('@' :: '[' :: (body ++ [']'])) (by simpa using apart)
      obtain ⟨kept, last, hfirst, hjoined⟩ := ih body after hs inner meets
      refine ⟨literalBefore pending.reverse
        (.directive body offset (offset + 2 + byteLength body + 1) :: kept), last, ?_, ?_⟩
      · rw [hfirst, ← List.cons_append, literalBefore_append]
      · have length : offset + byteLength ('@' :: '[' :: rest) =
            offset + 2 + byteLength body + 1 + byteLength after := by
          have marker : '@'.utf8Size = 1 ∧ '['.utf8Size = 1 ∧ ']'.utf8Size = 1 := by decide
          rw [text]
          simp only [byteLength_cons, byteLength_append, marker]
          omega
        rw [List.cons_append, List.cons_append,
          segmentsFrom_directive _ _ (splitBody?_append hs second), hjoined, length,
          ← List.cons_append, literalBefore_append]
  | case2 offset pending c rest hc ih =>
    have plain : ∀ tail, c = '@' → rest ++ second = '[' :: tail → False := by
      intro tail hat hb
      cases rest with
      | nil => exact apart ⟨by rw [hat]; rfl, by rw [List.nil_append] at hb; rw [hb]; rfl⟩
      | cons d ds =>
        cases hb
        exact hc ds hat rfl
    rw [segmentsFrom.eq_2 _ _ _ _ hc] at closed ⊢
    obtain ⟨kept, last, hfirst, hjoined⟩ := ih closed (not_collide_of_suffix [c] apart)
    refine ⟨kept, last, hfirst, ?_⟩
    rw [List.cons_append, segmentsFrom.eq_2 _ _ _ _ plain, hjoined, byteLength_cons, Nat.add_assoc]
  | case3 offset pending =>
    refine ⟨[], pending.reverse, ?_, ?_⟩
    · rw [segmentsFrom, List.nil_append]
    · simp

/-- The measure of offsets is that of texts. -/
theorem byteLength_toList (text : String) : byteLength text.toList = text.utf8ByteSize := by
  have same (cs : List Char) : byteLength cs = String.utf8Len cs := by
    induction cs with
    | nil => rfl
    | cons c cs ih => rw [byteLength, String.utf8Len, ih, Nat.add_comm]
  rw [same, String.utf8Len_toList]

/-! ## Block trees -/

/-- Without an offence, no directive is left open. -/
theorem closed_of_firstOffence {size : Nat} {opened : List Block} {segments : List Segment}
    (h : firstOffence size opened segments = none) (start : Nat) :
    .unterminated start ∉ segments := by
  fun_induction firstOffence size opened segments with
  | case1 => simp
  | case2 => cases h
  | case3 opened text rest ih => simpa using ih h
  | case4 => cases h
  | case5 opened body i j rest inner hn ih => simpa using ih h
  | case6 => cases h

/-- Literal text at the end is no offence. -/
theorem firstOffence_append_literal (size : Nat) (opened : List Block) (kept : List Segment)
    (last : List Char) :
    firstOffence size opened (kept ++ literalBefore last []) = firstOffence size opened kept := by
  fun_induction firstOffence size opened kept with
  | case1 => cases last <;> rfl
  | case2 => cases last <;> rfl
  | case3 opened text rest ih =>
    rw [List.cons_append, firstOffence]
    exact ih
  | case4 => rw [List.cons_append, firstOffence]
  | case5 opened body i j rest inner hn ih =>
    rw [List.cons_append, firstOffence, hn]
    exact ih
  | case6 opened body i j rest offence hn =>
    rw [List.cons_append, firstOffence, hn]

mutual

/-- The segments that parts write come before those that follow. -/
theorem Parts.before_eq_append :
    ∀ (p : Parts) (rest : List Segment), p.before rest = p.before [] ++ rest
  | .nil, _ => rfl
  | .literal text next, rest => by
    rw [Parts.before, Parts.before, next.before_eq_append rest, List.cons_append]
  | .single mark _ next, rest => by
    rw [Parts.before, Parts.before, next.before_eq_append rest, List.cons_append]
  | .conditional opening sections closing next, rest => by
    have inside := sections.before_eq_append
    rw [Parts.before, Parts.before, inside (_ :: next.before rest), inside (_ :: next.before []),
      next.before_eq_append rest]
    simp
  | .loop opening body closing next, rest => by
    have inside := body.before_eq_append
    rw [Parts.before, Parts.before, inside (_ :: next.before rest), inside (_ :: next.before []),
      next.before_eq_append rest]
    simp
  | .iteration opening body closing next, rest => by
    have inside := body.before_eq_append
    rw [Parts.before, Parts.before, inside (_ :: next.before rest), inside (_ :: next.before []),
      next.before_eq_append rest]
    simp

/-- The segments that a section writes come before those that follow. -/
theorem Sections.before_eq_append :
    ∀ (s : Sections) (rest : List Segment), s.before rest = s.before [] ++ rest
  | .last body, rest => body.before_eq_append rest
  | .more body turn others, rest => by
    have inside := body.before_eq_append
    rw [Sections.before, Sections.before, inside (_ :: others.before rest),
      inside (_ :: others.before []), others.before_eq_append rest]
    simp

end

/-- A text that has no offence by itself begins a text with another one after it by parts, with all
blocks closed; behind them comes the literal text at its end. -/
theorem exists_parts_of_offence? {first second : String} (h : offence? first = none)
    (apart : ¬Collide first.toList second.toList) :
    ∃ (p : Parts) (last : List Char),
      segments first.toList = p.before (literalBefore last []) ∧
        segments (first ++ second).toList =
          p.before (joinLiteral last ((segments second.toList).map
            (Segment.later first.utf8ByteSize))) := by
  have closed := closed_of_firstOffence h
  obtain ⟨kept, last, hfirst, hjoined⟩ := exists_segmentsFrom_append 0 [] closed apart
  rw [offence?, segments, hfirst, firstOffence_append_literal] at h
  obtain ⟨p, rfl⟩ := cut_of_firstOffence kept [] h
  rw [byteLength_toList, Nat.zero_add] at hjoined
  have moved : segmentsFrom first.utf8ByteSize [] second.toList =
      (segments second.toList).map (Segment.later first.utf8ByteSize) :=
    segmentsFrom_later first.utf8ByteSize 0 [] second.toList
  have pending := segmentsFrom_pending first.utf8ByteSize [] last.reverse second.toList
  rw [List.nil_append, List.reverse_reverse, moved] at pending
  refine ⟨p, last, ?_, ?_⟩
  · rw [segments, hfirst, ← p.before_eq_append]
  · rw [segments, String.toList_append, hjoined, pending, ← p.before_eq_append]

end MicroTemplate.Template
