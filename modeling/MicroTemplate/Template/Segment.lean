import MicroTemplate.Text.Utf8

/-!
# Segments

A template is literal text with directives between `@[` and the bracket that closes them. Brackets
inside a directive are balanced, except between quotation marks; a quotation mark always opens or
closes, whatever stands before it. Offsets are in bytes.
-/

namespace MicroTemplate.Template

open Text

/-- A body with one more character at its beginning, and the text after it. -/
def pushBody (c : Char) (split : Option (List Char × List Char)) :
    Option (List Char × List Char) :=
  split.map fun (body, rest) => (c :: body, rest)

/-- The body of a directive up to its closing bracket, and the text after that, if it is closed.
`depth` inner brackets and, if `quoted`, a quotation mark are open. -/
def splitBody? (depth : Nat) (quoted : Bool) : List Char → Option (List Char × List Char)
  | [] => none
  | c :: cs =>
    if c = '"' then pushBody c (splitBody? depth (!quoted) cs)
    else if quoted then pushBody c (splitBody? depth quoted cs)
    else if c = '[' then pushBody c (splitBody? (depth + 1) quoted cs)
    else if c = ']' then
      match depth with
      | 0 => some ([], cs)
      | depth + 1 => pushBody c (splitBody? depth quoted cs)
    else pushBody c (splitBody? depth quoted cs)

theorem pushBody_eq_some_iff {c : Char} {split : Option (List Char × List Char)}
    {body rest : List Char} :
    pushBody c split = some (body, rest) ↔
      ∃ inner, split = some (inner, rest) ∧ body = c :: inner := by
  cases split with
  | none => simp [pushBody]
  | some p =>
    obtain ⟨b, r⟩ := p
    simp only [pushBody, Option.map_some, Option.some.injEq, Prod.mk.injEq]
    constructor
    · rintro ⟨rfl, rfl⟩
      exact ⟨b, ⟨rfl, rfl⟩, rfl⟩
    · rintro ⟨inner, ⟨rfl, rfl⟩, rfl⟩
      exact ⟨rfl, rfl⟩

/-- What a closed directive is cut into makes up the text again. -/
theorem eq_append_of_splitBody? {depth : Nat} {quoted : Bool} {cs body rest : List Char}
    (h : splitBody? depth quoted cs = some (body, rest)) : cs = body ++ ']' :: rest := by
  have push {c : Char} {cs : List Char} {split : Option (List Char × List Char)}
      (ih : ∀ {body}, split = some (body, rest) → cs = body ++ ']' :: rest) {body : List Char}
      (h : pushBody c split = some (body, rest)) : c :: cs = body ++ ']' :: rest := by
    obtain ⟨inner, hi, rfl⟩ := pushBody_eq_some_iff.1 h
    rw [ih hi, List.cons_append]
  fun_induction splitBody? depth quoted cs generalizing body with
  | case1 => cases h
  | case2 depth quoted cs ih => exact push ih h
  | case3 depth c cs hc ih => exact push ih h
  | case4 depth quoted cs hq hc ih => exact push ih h
  | case5 quoted cs hq hc ho => cases h; rfl
  | case6 quoted cs hq depth hc ho ih => exact push ih h
  | case7 depth quoted c cs hc hq ho hb ih => exact push ih h

/-- The offset of the bracket that closes a directive whose body begins at the byte `start` of a
template; the template is given from there on. -/
def closingOffset? (start : Nat) (rest : List Char) : Option Nat :=
  (splitBody? 0 false rest).map fun (body, _) => start + byteLength body

/-- A part of a template. -/
inductive Segment where
  /-- Literal text. -/
  | literal (text : List Char)
  /-- A directive: its body, the offset of its marker and the offset just past it. -/
  | directive (body : List Char) (start stop : Nat)
  /-- A directive that is not closed, and the offset of its marker. -/
  | unterminated (start : Nat)
  deriving DecidableEq, Repr

/-- A literal text in front of other segments. -/
def literalBefore (text : List Char) (segments : List Segment) : List Segment :=
  if text.isEmpty then segments else .literal text :: segments

/-- The segments of what is left of a template from the byte `offset` on; `pending` is the literal
text right before it, the last character first. -/
def segmentsFrom (offset : Nat) (pending : List Char) : List Char → List Segment
  | '@' :: '[' :: rest =>
    literalBefore pending.reverse <|
      match _h : splitBody? 0 false rest with
      | none => [.unterminated offset]
      | some (body, after) =>
        let stop := offset + 2 + byteLength body + 1
        .directive body offset stop :: segmentsFrom stop [] after
  | c :: rest => segmentsFrom (offset + c.utf8Size) (c :: pending) rest
  | [] => literalBefore pending.reverse []
termination_by cs => cs.length
decreasing_by
  · have := eq_append_of_splitBody? _h
    simp only [this, List.length_cons, List.length_append]
    omega
  · simp

/-- The segments of a template. -/
def segments (template : List Char) : List Segment := segmentsFrom 0 [] template

end MicroTemplate.Template
