import Mathlib
import MicroTemplate.Expression.Token

/-!
# Where the arguments of a call end

The arguments of a call are cut apart by a scanner that knows of nothing but quotation marks,
parentheses, commas and backslashes. When it comes to the end of a call, the text up to there is the
arguments with commas between them. It would have gone the same way with any other text behind the
call, and inside an argument of another call the whole of it is passed over.
-/

namespace MicroTemplate.Expression

/-- The characters with a meaning for the scanners that know no tokens: the one that looks for the
end of an argument and the one that looks for the end of a directive. -/
def marks : List Char := ['\\', '"', '(', ')', ',', '[', ']']

/-- Arguments with more text at the beginning of the first. -/
def Arguments.prepend (text : List Char) (r : Arguments) : Arguments :=
  text.foldr Arguments.push r

theorem Arguments.prepend_cons (c : Char) (text : List Char) (r : Arguments) :
    r.prepend (c :: text) = .push c (r.prepend text) := rfl

/-- Two texts are put before arguments one after the other. -/
theorem Arguments.prepend_append (text more : List Char) (r : Arguments) :
    r.prepend (text ++ more) = (r.prepend more).prepend text :=
  List.foldr_append ..

/-- A text that is put before arguments becomes part of the first. -/
theorem Arguments.prepend_ok (text : List Char) (args : List (List Char)) (rest : List Char) :
    Arguments.prepend text (.ok (args, rest)) = .ok (text.foldr pushChar args, rest) := by
  induction text with
  | nil => rfl
  | cons c text ih =>
    rw [Arguments.prepend_cons, ih]
    rfl

/-- Arguments that cannot be cut apart stay so. -/
theorem Arguments.prepend_error (text : List Char) (fault : Fault) :
    Arguments.prepend text (.error fault) = .error fault := by
  induction text with
  | nil => rfl
  | cons c text ih =>
    rw [Arguments.prepend_cons, ih]
    rfl

/-- If arguments can be cut apart behind a text, they can without it. -/
theorem Arguments.prepend_eq_ok {text rest : List Char} {r : Arguments} {args : List (List Char)}
    (h : r.prepend text = .ok (args, rest)) :
    ∃ inner, r = .ok (inner, rest) ∧ args = text.foldr pushChar inner := by
  induction text generalizing args with
  | nil => exact ⟨args, h, rfl⟩
  | cons c text ih =>
    obtain ⟨inner, hi, rfl⟩ := Arguments.push_eq_ok h
    obtain ⟨args, hr, rfl⟩ := ih hi
    exact ⟨args, hr, rfl⟩

theorem foldr_pushChar (text arg : List Char) (args : List (List Char)) :
    text.foldr pushChar (arg :: args) = (text ++ arg) :: args := by
  induction text with
  | nil => rfl
  | cons c text ih => rw [List.foldr_cons, ih, pushChar, List.cons_append]

/-- Joined again, they have the text before them. -/
theorem intercalate_foldr_pushChar {args : List (List Char)} (h : args ≠ []) (text : List Char) :
    text.foldr pushChar args ≠ [] ∧
      [','].intercalate (text.foldr pushChar args) = text ++ [','].intercalate args := by
  obtain ⟨arg, args, rfl⟩ := List.exists_cons_of_ne_nil h
  rw [foldr_pushChar]
  refine ⟨List.cons_ne_nil _ _, ?_⟩
  cases args with
  | nil => simp
  | cons next args => simp

/-! ## Single steps -/

/-- A character is no backslash if the scanner takes it for none. -/
theorem ne_backslash {c : Char} {cs : List Char} (alone : c = '\\' → cs = [] → False)
    (followed : ∀ d ds, c = '\\' → cs = d :: ds → False) : c ≠ '\\' := by
  intro hc
  cases cs with
  | nil => exact alone hc rfl
  | cons d ds => exact followed d ds hc rfl

/-- What the scanner does at a character that is no backslash. -/
theorem splitArguments_cons {c : Char} (h : c ≠ '\\') (depth : Nat) (quoted : Bool)
    (cs : List Char) :
    splitArguments depth quoted (c :: cs) =
      if c = '"' then .push c (splitArguments depth (!quoted) cs)
      else if quoted then .push c (splitArguments depth quoted cs)
      else if c = '(' then .push c (splitArguments (depth + 1) quoted cs)
      else if c = ')' then
        match depth with
        | 0 => .ok ([[]], cs)
        | depth + 1 => .push c (splitArguments depth quoted cs)
      else if c = ',' ∧ depth = 0 then .begin (splitArguments depth quoted cs)
      else .push c (splitArguments depth quoted cs) := by
  have one : c = '\\' → cs = [] → False := fun hc => absurd hc h
  have more : ∀ d ds, c = '\\' → cs = d :: ds → False := fun _ _ hc => absurd hc h
  cases depth with
  | zero => rw [splitArguments.eq_4 _ _ _ one more]
  | succ depth => rw [splitArguments.eq_5 _ _ _ _ one more]

/-- One that has no partner ends the arguments. -/
theorem splitArguments_end (cs : List Char) :
    splitArguments 0 false (')' :: cs) = .ok ([[]], cs) := by
  rw [splitArguments_cons (by decide), if_neg (by decide), if_neg Bool.false_ne_true,
    if_neg (by decide), if_pos rfl]

/-- Whether a text leads the scanner from `depth` open parentheses and maybe an open quotation mark
to the end of a call with these arguments. -/
structure Ended (depth : Nat) (quoted : Bool) (text : List Char) (args : List (List Char)) :
    Prop where
  /-- There is an argument. -/
  args_ne : args ≠ []
  /-- The text is made up of the arguments. -/
  text_eq : text = [','].intercalate args
  /-- What stands behind the call is left. -/
  here : ∀ rest, splitArguments depth quoted (text ++ ')' :: rest) = .ok (args, rest)
  /-- With more parentheses open, text and parenthesis are part of an argument. -/
  inside : ∀ outer rest, splitArguments (depth + (outer + 1)) quoted (text ++ ')' :: rest) =
    (splitArguments outer false rest).prepend (text ++ [')'])

/-- Text that is taken into an argument does not end the call. -/
theorem Ended.prepend {front : List Char} {depth next : Nat} {quoted inner : Bool}
    {text : List Char} {args : List (List Char)} (h : Ended next inner text args)
    (step : ∀ outer cs, splitArguments (depth + outer) quoted (front ++ cs) =
      (splitArguments (next + outer) inner cs).prepend front) :
    Ended depth quoted (front ++ text) (front.foldr pushChar args) := by
  obtain ⟨hne, ht, here, inside⟩ := h
  obtain ⟨hfront, htext⟩ := intercalate_foldr_pushChar hne front
  refine ⟨hfront, by rw [htext, ht], ?_, ?_⟩
  · intro rest
    have first := step 0 (text ++ ')' :: rest)
    rw [Nat.add_zero, Nat.add_zero, here rest, Arguments.prepend_ok] at first
    rw [List.append_assoc, first]
  · intro outer rest
    have first := step (outer + 1) (text ++ ')' :: rest)
    rw [inside outer rest, ← Arguments.prepend_append] at first
    rw [List.append_assoc, List.append_assoc, first]

/-- The scanner comes to the end of a call by a text that leads there. -/
theorem exists_ended {depth : Nat} {quoted : Bool} {cs rest : List Char} {args : List (List Char)}
    (h : splitArguments depth quoted cs = .ok (args, rest)) :
    ∃ text, cs = text ++ ')' :: rest ∧ Ended depth quoted text args := by
  have taken (front : List Char) {cs : List Char} {next depth : Nat} {quoted inner : Bool}
      {r : Arguments} {args : List (List Char)}
      (ih : ∀ {args}, r = .ok (args, rest) →
        ∃ text, cs = text ++ ')' :: rest ∧ Ended next inner text args)
      (h : r.prepend front = .ok (args, rest))
      (step : ∀ outer cs, splitArguments (depth + outer) quoted (front ++ cs) =
        (splitArguments (next + outer) inner cs).prepend front) :
      ∃ text, front ++ cs = text ++ ')' :: rest ∧ Ended depth quoted text args := by
    obtain ⟨args, hr, rfl⟩ := Arguments.prepend_eq_ok h
    obtain ⟨text, rfl, ended⟩ := ih hr
    exact ⟨front ++ text, by rw [List.append_assoc], ended.prepend step⟩
  fun_induction splitArguments depth quoted cs generalizing args with
  | case1 => cases h
  | case2 => cases h
  | case3 depth quoted c cs ih =>
    exact taken ['\\', c] ih h fun outer cs => by
      rw [List.cons_append, List.singleton_append, splitArguments]
      rfl
  | case4 depth quoted cs _ _ ih =>
    exact taken ['"'] ih h fun outer cs => by
      rw [List.singleton_append, splitArguments_cons (by decide), if_pos rfl]
      rfl
  | case5 depth c cs h₁ h₂ hq ih =>
    exact taken [c] ih h fun outer cs => by
      rw [List.singleton_append, splitArguments_cons (ne_backslash h₁ h₂), if_neg hq, if_pos rfl]
      rfl
  | case6 depth quoted cs hq _ _ _ ih =>
    exact taken ['('] ih h fun outer cs => by
      rw [List.singleton_append, splitArguments_cons (by decide), if_neg (by decide), if_neg hq,
        if_pos rfl, Nat.add_right_comm]
      rfl
  | case7 quoted cs hq =>
    cases h
    have hf : quoted = false := by simpa using hq
    subst hf
    refine ⟨[], rfl, List.cons_ne_nil _ _, rfl, fun rest => rfl, fun outer rest => ?_⟩
    rw [List.nil_append, Nat.zero_add, splitArguments_cons (by decide), if_neg (by decide),
      if_neg Bool.false_ne_true, if_neg (by decide), if_pos rfl]
    rfl
  | case8 quoted cs hq depth _ _ _ _ ih =>
    exact taken [')'] ih h fun outer cs => by
      rw [List.singleton_append, splitArguments_cons (by decide), if_neg (by decide), if_neg hq,
        if_neg (by decide), if_pos rfl, Nat.succ_add]
      rfl
  | case9 depth quoted c cs _ _ _ hq _ _ hc ih =>
    obtain ⟨rfl, rfl⟩ := hc
    obtain ⟨args, hr, rfl⟩ := Arguments.begin_eq_ok h
    obtain ⟨text, rfl, ended⟩ := ih hr
    refine ⟨',' :: text, rfl, List.cons_ne_nil _ _, ?_, fun rest => ?_, fun outer rest => ?_⟩
    · rw [List.intercalate_cons_of_ne_nil ended.args_ne, ended.text_eq]
      rfl
    · rw [List.cons_append, splitArguments_cons (by decide), if_neg (by decide), if_neg hq,
        if_neg (by decide), if_neg (by decide), if_pos ⟨rfl, rfl⟩, ended.here]
      rfl
    · have hn : ¬(',' = ',' ∧ 0 + (outer + 1) = 0) := by omega
      rw [List.cons_append, splitArguments_cons (by decide), if_neg (by decide), if_neg hq,
        if_neg (by decide), if_neg (by decide), if_neg hn, ended.inside]
      rfl
  | case10 depth quoted c cs h₁ h₂ hq hnq ho hp hc ih =>
    exact taken [c] ih h fun outer cs => by
      have hn : ¬(c = ',' ∧ depth + outer = 0) := by
        rintro ⟨rfl, hz⟩
        exact hc ⟨rfl, by omega⟩
      rw [List.singleton_append, splitArguments_cons (ne_backslash h₁ h₂), if_neg hq, if_neg hnq,
        if_neg ho, if_neg hp, if_neg hn]
      rfl

/-- The arguments of a call are made out by the text up to its closing parenthesis. -/
theorem exists_callArguments {cs rest : List Char} {args : List (List Char)}
    (h : callArguments cs = .ok (args, rest)) :
    ∃ text all, cs = text ++ ')' :: rest ∧ args = dropBlankLast all ∧ Ended 0 false text all := by
  rw [callArguments] at h
  cases hs : splitArguments 0 false cs with
  | error fault =>
    rw [hs] at h
    cases h
  | ok split =>
    rw [hs] at h
    cases h
    obtain ⟨text, rfl, ended⟩ := exists_ended hs
    exact ⟨text, _, rfl, rfl, ended⟩

/-- They are the same whatever stands behind the call. -/
theorem Ended.callArguments {text : List Char} {args : List (List Char)}
    (h : Ended 0 false text args) (rest : List Char) :
    Expression.callArguments (text ++ ')' :: rest) = .ok (dropBlankLast args, rest) := by
  rw [Expression.callArguments, h.here rest]
  rfl

end MicroTemplate.Expression
