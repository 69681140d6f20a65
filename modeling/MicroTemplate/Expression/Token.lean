import MicroTemplate.Expression.Name
import MicroTemplate.Expression.Operator
import MicroTemplate.Text.Trim

/-!
# Tokens

An expression is read into tokens before any of it is computed. A name right before an opening
parenthesis makes a call, whose arguments are cut apart at the commas outside quotation marks and
inner parentheses and are read into tokens in turn. Where a text stops being tokens, the tokens
before that place are kept: they are computed first, and may fail first.
-/

namespace MicroTemplate.Expression

open Text

/-- Why a text stops being tokens. -/
inductive Fault where
  /-- A call without its closing parenthesis. -/
  | unmatchedParen
  /-- A quotation mark without its partner. -/
  | unterminatedString
  /-- Operator characters that do not spell operators. -/
  | unknownOperator (run : List Char)
  deriving DecidableEq, Repr

/-- A fault as the cause of a failure. -/
def Fault.cause : Fault → Cause
  | unmatchedParen => .unmatchedParen
  | unterminatedString => .unterminatedString
  | unknownOperator run => .unknownOperator (.ofList run)

mutual

/-- A token of an expression. -/
inductive Token where
  /-- An opening parenthesis. -/
  | openGroup
  /-- A closing parenthesis. -/
  | closeGroup
  /-- A word. -/
  | word (text : List Char)
  /-- A text between quotation marks. -/
  | quoted (text : List Char)
  /-- An operator. -/
  | operator (op : Operator)
  /-- A name with arguments. -/
  | call (name : List Char) (args : List Phrase)

/-- An expression read into tokens. -/
inductive Phrase where
  /-- The text of an expression, its tokens, and why they end before the text does, if so. -/
  | mk (text : List Char) (tokens : List Token) (fault : Option Fault)

end

/-- The text of an expression. -/
def Phrase.text : Phrase → List Char
  | mk text _ _ => text

/-- The tokens of an expression. -/
def Phrase.tokens : Phrase → List Token
  | mk _ tokens _ => tokens

/-- Why the tokens of an expression end before its text does. -/
def Phrase.fault : Phrase → Option Fault
  | mk _ _ fault => fault

/-- Arguments with one more character at the beginning of the first. -/
def pushChar (c : Char) : List (List Char) → List (List Char)
  | [] => [[c]]
  | arg :: args => (c :: arg) :: args

/-- The end of a text inside a call. -/
def openCall (quoted : Bool) : Fault := if quoted then .unterminatedString else .unmatchedParen

/-- The texts of arguments, and the text after them. -/
abbrev Arguments := Except Fault (List (List Char) × List Char)

/-- Arguments with one more character at the beginning of the first. -/
def Arguments.push (c : Char) (r : Arguments) : Arguments :=
  r.map fun (args, rest) => (pushChar c args, rest)

/-- Arguments with an empty one before them. -/
def Arguments.begin (r : Arguments) : Arguments := r.map fun (args, rest) => ([] :: args, rest)

/-- The texts of the arguments of a call up to its closing parenthesis, and the text after it.
`depth` parentheses inside the call and, if `quoted`, a quotation mark are open. A character after a
backslash has no meaning of its own. -/
def splitArguments (depth : Nat) (quoted : Bool) : List Char → Arguments
  | [] => .error (openCall quoted)
  | '\\' :: [] => .error (openCall quoted)
  | '\\' :: c :: cs => .push '\\' (.push c (splitArguments depth quoted cs))
  | c :: cs =>
    if c = '"' then .push c (splitArguments depth (!quoted) cs)
    else if quoted then .push c (splitArguments depth quoted cs)
    else if c = '(' then .push c (splitArguments (depth + 1) quoted cs)
    else if c = ')' then
      match depth with
      | 0 => .ok ([[]], cs)
      | depth + 1 => .push c (splitArguments depth quoted cs)
    else if c = ',' ∧ depth = 0 then .begin (splitArguments depth quoted cs)
    else .push c (splitArguments depth quoted cs)

/-- The arguments without the last one, if that is blank. -/
def dropBlankLast (args : List (List Char)) : List (List Char) :=
  match args.getLast? with
  | some last => if isBlank last then args.dropLast else args
  | none => args

/-- The texts of the arguments of a call, after its opening parenthesis, and the text after it. -/
def callArguments (cs : List Char) : Arguments :=
  (splitArguments 0 false cs).map fun (args, rest) => (dropBlankLast args, rest)

/-- There are arguments, and each of them is, with the rest, shorter than `n`. -/
def Shorter (n : Nat) (args : List (List Char)) (rest : List Char) : Prop :=
  args ≠ [] ∧ ∀ a ∈ args, a.length + rest.length < n

theorem shorter_pushChar {n : Nat} {args : List (List Char)} {rest : List Char}
    (h : Shorter n args rest) (c : Char) : Shorter (n + 1) (pushChar c args) rest := by
  obtain ⟨hne, hlt⟩ := h
  cases args with
  | nil => exact absurd rfl hne
  | cons x xs =>
    refine ⟨by simp [pushChar], fun a ha => ?_⟩
    simp only [pushChar, List.mem_cons] at ha
    rcases ha with rfl | ha
    · have := hlt x List.mem_cons_self
      simp only [List.length_cons]
      omega
    · have := hlt a (List.mem_cons_of_mem _ ha)
      omega

theorem Arguments.push_eq_ok {c : Char} {r : Arguments} {args : List (List Char)}
    {rest : List Char} (h : Arguments.push c r = .ok (args, rest)) :
    ∃ inner, r = .ok (inner, rest) ∧ args = pushChar c inner := by
  cases r with
  | error e => cases h
  | ok p => cases h; exact ⟨p.1, rfl, rfl⟩

theorem Arguments.begin_eq_ok {r : Arguments} {args : List (List Char)} {rest : List Char}
    (h : Arguments.begin r = .ok (args, rest)) :
    ∃ inner, r = .ok (inner, rest) ∧ args = [] :: inner := by
  cases r with
  | error e => cases h
  | ok p => cases h; exact ⟨p.1, rfl, rfl⟩

theorem Arguments.shorter_push {c : Char} {r : Arguments} {n : Nat}
    (hr : ∀ {args rest}, r = .ok (args, rest) → Shorter n args rest)
    {args : List (List Char)} {rest : List Char} (h : Arguments.push c r = .ok (args, rest)) :
    Shorter (n + 1) args rest := by
  obtain ⟨inner, hi, rfl⟩ := Arguments.push_eq_ok h
  exact shorter_pushChar (hr hi) c

/-- The arguments of a call are shorter than what follows its opening parenthesis. -/
theorem splitArguments_shorter {depth : Nat} {quoted : Bool} {cs rest : List Char}
    {args : List (List Char)} (h : splitArguments depth quoted cs = .ok (args, rest)) :
    Shorter cs.length args rest := by
  fun_induction splitArguments depth quoted cs generalizing args rest with
  | case1 => cases h
  | case2 => cases h
  | case3 depth quoted c cs ih => exact Arguments.shorter_push (Arguments.shorter_push ih) h
  | case4 depth quoted cs _ _ ih => exact Arguments.shorter_push ih h
  | case5 depth c cs _ _ _ ih => exact Arguments.shorter_push ih h
  | case6 depth quoted cs _ _ _ _ ih => exact Arguments.shorter_push ih h
  | case7 quoted cs => cases h; simp [Shorter]
  | case8 quoted cs _ depth _ _ _ _ ih => exact Arguments.shorter_push ih h
  | case9 depth quoted c cs _ _ _ _ _ _ _ ih =>
    obtain ⟨inner, hi, rfl⟩ := Arguments.begin_eq_ok h
    obtain ⟨hne, hlt⟩ := ih hi
    refine ⟨by simp, fun a ha => ?_⟩
    simp only [List.mem_cons] at ha
    simp only [List.length_cons]
    rcases ha with rfl | ha
    · obtain ⟨x, hx⟩ := List.exists_mem_of_ne_nil _ hne
      have := hlt x hx
      simp only [List.length_nil]
      omega
    · have := hlt a ha
      omega
  | case10 depth quoted c cs _ _ _ _ _ _ _ ih => exact Arguments.shorter_push ih h

theorem mem_of_mem_dropBlankLast {args : List (List Char)} {a : List Char}
    (h : a ∈ dropBlankLast args) : a ∈ args := by
  unfold dropBlankLast at h
  split at h
  · split at h
    · exact List.dropLast_subset _ h
    · exact h
  · exact h

/-- The arguments of a call and the text after it are shorter than what follows the opening
parenthesis. -/
theorem callArguments_length {cs rest : List Char} {args : List (List Char)}
    (h : callArguments cs = .ok (args, rest)) :
    rest.length < cs.length ∧ ∀ a ∈ args, a.length < cs.length := by
  unfold callArguments at h
  cases hs : splitArguments 0 false cs with
  | error e => rw [hs] at h; cases h
  | ok p =>
    rw [hs] at h
    cases h
    obtain ⟨hne, hlt⟩ := splitArguments_shorter hs
    refine ⟨?_, fun a ha => ?_⟩
    · obtain ⟨x, hx⟩ := List.exists_mem_of_ne_nil _ hne
      have := hlt x hx
      omega
    · have := hlt a (mem_of_mem_dropBlankLast ha)
      omega

end MicroTemplate.Expression
