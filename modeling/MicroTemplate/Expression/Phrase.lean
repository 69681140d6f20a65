import MicroTemplate.Expression.Token

/-!
# Reading expressions

The tokens of a text, from left to right. White space separates tokens and is otherwise of no
account; a run of operator characters is cut into operators as a whole, and if it cannot be, none of
them is a token.
-/

namespace MicroTemplate.Expression

open Text

theorem length_dropWhile_le (p : Char → Bool) (cs : List Char) :
    (cs.dropWhile p).length ≤ cs.length :=
  (List.dropWhile_suffix p).length_le

theorem length_of_splitFirst? {p : Char → Bool} {cs before after : List Char}
    (h : splitFirst? p cs = some (before, after)) : after.length < cs.length := by
  induction cs generalizing before with
  | nil => cases h
  | cons c cs ih =>
    rw [splitFirst?] at h
    split at h
    · cases h
      simp
    · simp only [Option.map_eq_some_iff] at h
      obtain ⟨⟨b, a⟩, hb, heq⟩ := h
      cases heq
      have hlt : a.length < cs.length := ih hb
      simp only [List.length_cons]
      omega

/-- Tokens, and why they end early, with some more tokens before them. -/
def before (tokens : List Token) (rest : List Token × Option Fault) : List Token × Option Fault :=
  (tokens ++ rest.1, rest.2)

/-- The tokens of a text, and why they end before the text does, if so. -/
def tokensOf (cs : List Char) : List Token × Option Fault :=
  match cs with
  | [] => ([], none)
  | c :: cs =>
    if isSpace c then tokensOf cs
    else if c = '(' then before [.openGroup] (tokensOf cs)
    else if c = ')' then before [.closeGroup] (tokensOf cs)
    else if c = '"' then
      match _h : splitFirst? (· == '"') cs with
      | none => ([], some .unterminatedString)
      | some (text, rest) => before [.quoted text] (tokensOf rest)
    else if isWordChar c then
      let word := c :: cs.takeWhile isWordChar
      match _h : cs.dropWhile isWordChar with
      | '(' :: inner =>
        if isName word then
          match _ha : callArguments inner with
          | .error fault => ([], some fault)
          | .ok (args, rest) =>
            let phrases := args.attach.map fun ⟨arg, _⟩ =>
              let (tokens, fault) := tokensOf arg
              Phrase.mk arg tokens fault
            before [.call word phrases] (tokensOf rest)
        else before [.word word] (tokensOf ('(' :: inner))
      | rest => before [.word word] (tokensOf rest)
    else
      match splitOperators? (c :: cs.takeWhile isOperatorChar) with
      | none => ([], some (.unknownOperator (c :: cs.takeWhile isOperatorChar)))
      | some ops => before (ops.map .operator) (tokensOf (cs.dropWhile isOperatorChar))
termination_by cs.length
decreasing_by
  all_goals simp only [List.length_cons]
  · omega
  · omega
  · omega
  · have := length_of_splitFirst? _h
    omega
  · have h₁ := length_dropWhile_le isWordChar cs
    have h₂ := (callArguments_length _ha).2 arg (by assumption)
    rw [_h] at h₁
    simp only [List.length_cons] at h₁
    omega
  · have h₁ := length_dropWhile_le isWordChar cs
    have h₂ := (callArguments_length _ha).1
    rw [_h] at h₁
    simp only [List.length_cons] at h₁
    omega
  · have h₁ := length_dropWhile_le isWordChar cs
    rw [_h] at h₁
    simp only [List.length_cons] at h₁
    omega
  · have h₁ := length_dropWhile_le isWordChar cs
    rw [_h] at h₁
    omega
  · have := length_dropWhile_le isOperatorChar cs
    omega

/-- A text read into tokens. -/
def Phrase.read (cs : List Char) : Phrase :=
  .mk cs (tokensOf cs).1 (tokensOf cs).2

end MicroTemplate.Expression
