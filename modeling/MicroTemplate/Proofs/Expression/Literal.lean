import MicroTemplate.Proofs.Expression.Call

/-!
# Quoted texts as arguments

By itself a quoted text ends at the next quotation mark, and backslashes in it are characters like
others. To the scanner of arguments, however, a character after a backslash has no meaning. So it
sees the quotation mark at the end of a text only if an even number of backslashes stands before it.
If the number is odd, it takes the parenthesis after the quotation mark for quoted, and the call is
never closed.
-/

namespace MicroTemplate.Expression

/-- A text between quotation marks. -/
def quotedText (text : List Char) : List Char := '"' :: (text ++ ['"'])

/-! ## Backslashes at the end of a text -/

/-- The number of backslashes at the end of a text. -/
def trailingBackslashes (text : List Char) : ℕ := (text.reverse.takeWhile (· == '\\')).length

/-- The number of backslashes right before some place, one character later. -/
def countBackslash (n : ℕ) (c : Char) : ℕ := if c = '\\' then n + 1 else 0

/-- Read from the left, the backslashes at the end are those since the last other character. -/
theorem trailingBackslashes_eq_foldl (text : List Char) :
    trailingBackslashes text = text.foldl countBackslash 0 := by
  induction text using List.reverseRecOn with
  | nil => rfl
  | append_singleton text c ih =>
    rw [List.foldl_concat, ← ih, trailingBackslashes, List.reverse_concat, List.takeWhile_cons]
    by_cases hc : c = '\\' <;> simp [hc, countBackslash, trailingBackslashes]

/-- Whether the number is even depends only on whether it was before. -/
theorem foldl_countBackslash_mod_two (text : List Char) {m n : ℕ} (h : m % 2 = n % 2) :
    text.foldl countBackslash m % 2 = text.foldl countBackslash n % 2 := by
  induction text generalizing m n with
  | nil => exact h
  | cons c text ih =>
    refine ih ?_
    rw [countBackslash, countBackslash]
    split
    · omega
    · rfl

/-- A backslash and the character after it do not change whether the number is odd. -/
theorem odd_trailingBackslashes_cons_cons (c : Char) (text : List Char) :
    Odd (trailingBackslashes ('\\' :: c :: text)) ↔ Odd (trailingBackslashes text) := by
  have even : countBackslash 1 c % 2 = 0 % 2 := by
    rw [countBackslash]
    split <;> rfl
  have same := foldl_countBackslash_mod_two text even
  rw [Nat.odd_iff, Nat.odd_iff, trailingBackslashes_eq_foldl, trailingBackslashes_eq_foldl,
    ← same]
  rfl

theorem trailingBackslashes_cons {c : Char} (hc : c ≠ '\\') (text : List Char) :
    trailingBackslashes (c :: text) = trailingBackslashes text := by
  have none : countBackslash 0 c = 0 := if_neg hc
  rw [trailingBackslashes_eq_foldl, trailingBackslashes_eq_foldl, List.foldl_cons, none]

/-! ## The scanner of arguments between quotation marks -/

/-- Between quotation marks, the scanner passes over a text and the quotation mark after it, and is
still between quotation marks if the number of backslashes before it is odd. -/
theorem splitArguments_quotedText (depth : ℕ) (rest : List Char) :
    ∀ text : List Char, '"' ∉ text →
      splitArguments depth true (text ++ '"' :: rest) =
        (splitArguments depth (decide (Odd (trailingBackslashes text))) rest).prepend
          (text ++ ['"'])
  | [], _ => by
    rw [List.nil_append, splitArguments_cons (by decide), if_pos rfl]
    rfl
  | c :: text, hq => by
    simp only [List.mem_cons, not_or] at hq
    by_cases hc : c = '\\'
    · subst hc
      cases text with
      | nil => rw [List.singleton_append, splitArguments]; rfl
      | cons d text =>
        have inside := splitArguments_quotedText depth rest text (by simp_all)
        simp only [odd_trailingBackslashes_cons_cons, List.cons_append]
        rw [splitArguments, inside]
        rfl
    · have inside := splitArguments_quotedText depth rest text hq.2
      rw [List.cons_append, splitArguments_cons hc, if_neg (Ne.symm hq.1), if_pos rfl, inside,
        trailingBackslashes_cons hc]
      rfl

/-- A quoted text as the only argument of a call: the call ends after it if the number of
backslashes at the end of the text is even, and never if it is odd. -/
theorem callArguments_quotedText {text : List Char} (hq : '"' ∉ text) :
    callArguments (quotedText text ++ [')']) =
      if Even (trailingBackslashes text) then .ok ([quotedText text], [])
      else .error .unterminatedString := by
  have inside := splitArguments_quotedText 0 [')'] text hq
  have cut : splitArguments 0 false (quotedText text ++ [')']) =
      (splitArguments 0 (decide (Odd (trailingBackslashes text))) [')']).prepend
        (quotedText text) := by
    rw [quotedText, List.cons_append, List.append_assoc, List.singleton_append,
      splitArguments_cons (by decide), if_pos rfl, Bool.not_false, inside]
    rfl
  rw [callArguments, cut]
  by_cases he : Even (trailingBackslashes text)
  · have seen : decide (Odd (trailingBackslashes text)) = false := by simpa using he
    rw [if_pos he, seen, splitArguments_end, Arguments.prepend_ok, foldr_pushChar, List.append_nil]
    rfl
  · have missed : decide (Odd (trailingBackslashes text)) = true := by simpa using he
    have unclosed : splitArguments 0 true [')'] = .error .unterminatedString := rfl
    rw [if_neg he, missed, unclosed, Arguments.prepend_error]
    rfl

/-! ## Evaluation -/

variable {α : Type} [HostObject α]

/-- A quoted text is one token. -/
theorem spells_quotedText {text : List Char} (hq : '"' ∉ text) :
    Spells (quotedText text) [.quoted text] := .quoted hq .nil

/-- A call whose arguments do not end is all that is read of an expression. -/
theorem evaluate_of_callArguments_error {f inner : List Char} (hf : isName f = true) {fault : Fault}
    (h : callArguments inner = .error fault) (ctx : Context α) :
    evaluate ctx (f ++ '(' :: inner) =
      .error (.evaluation (.ofList (f ++ '(' :: inner)) fault.cause) := by
  have stop : ∀ c ∈ ('(' :: inner).head?, isWordChar c = false := by
    intro c hc
    cases hc
    exact isWordChar_openParen
  have tokens : tokensOf (f ++ '(' :: inner) = ([], some fault) := by
    rw [tokensOf_word (ne_nil_of_isName hf) (isWordChar_of_isName hf) stop, wordTokens,
      if_pos hf, h]
  rw [evaluate, Phrase.read, tokens]
  rfl

/-- A text between quotation marks evaluates to itself. As the only argument of a call it is what
the function is called with if an even number of backslashes stands at its end; if the number is
odd, the call fails as one with a quotation mark that has no partner. -/
theorem evaluate_quotedText {text f : List Char} (hq : '"' ∉ text) (hf : isName f = true)
    (ctx : Context α) :
    evaluate ctx (quotedText text) = .ok (.text (.ofList text)) ∧
      evaluate ctx (callText f [quotedText text] []) =
        if Even (trailingBackslashes text) then
          (ctx.call (.ofList f) [.text (.ofList text)]).mapError fun fault =>
            .evaluation (.ofList (callText f [quotedText text] [])) (fault.cause (.ofList f))
        else
          .error (.evaluation (.ofList (callText f [quotedText text] [])) .unterminatedString) := by
  have written : callText f [quotedText text] [] = f ++ '(' :: (quotedText text ++ [')']) := by
    simp [callText]
  constructor
  · have spells : Spells (quotedText text) (Tree.quoted text).tokens := spells_quotedText hq
    exact evaluate_of_spells spells trivial (Nat.zero_le _)
  · have cut := callArguments_quotedText hq
    rw [written]
    by_cases he : Even (trailingBackslashes text)
    · rw [if_pos he] at cut ⊢
      have called := Spells.call hf cut .nil
      rw [List.map_singleton, read_of_spells (spells_quotedText hq)] at called
      have spells : Spells (f ++ '(' :: (quotedText text ++ [')']))
          (Tree.call f [.tree (quotedText text) (.quoted text)]).tokens := called
      rw [evaluate_of_spells spells ⟨⟨trivial, Nat.zero_le _⟩, trivial⟩ (Nat.zero_le _), Tree.value]
      change (Except.mapError _ (Except.mapError _ (ctx.call _ _))) = _
      cases ctx.call (.ofList f) [.text (.ofList text)] <;> rfl
    · rw [if_neg he] at cut ⊢
      exact evaluate_of_callArguments_error hf cut ctx

/-- A path with two backslashes at its end is what a function is called with, and one with one
backslash at its end is not. -/
theorem evaluate_quotedText_path :
    evaluate (α := Empty) ⟨fun _ => none, fun _ args => .ok (.list args), none⟩
        "f(\"C:\\dir\\\\\")".toList = .ok (.list [.text "C:\\dir\\\\"]) ∧
      evaluate (α := Empty) ⟨fun _ => none, fun _ args => .ok (.list args), none⟩
        "f(\"C:\\dir\\\")".toList =
          .error (.evaluation "f(\"C:\\dir\\\")" .unterminatedString) := by
  have name : isName ['f'] = true := by decide
  have even : '"' ∉ "C:\\dir\\\\".toList := by decide
  have odd : '"' ∉ "C:\\dir\\".toList := by decide
  exact ⟨(evaluate_quotedText even name _).2, (evaluate_quotedText odd name _).2⟩

/-- With a backslash at its end, a quoted text means itself, but as an argument it does not. -/
theorem quotedText_backslash :
    ¬ ∀ (text f : List Char) (ctx : Context Empty), '"' ∉ text → isName f = true →
      evaluate ctx (quotedText text) = .ok (.text (.ofList text)) ∧
        evaluate ctx (callText f [quotedText text] []) =
          (ctx.call (.ofList f) [.text (.ofList text)]).mapError fun fault =>
            .evaluation (.ofList (callText f [quotedText text] [])) (fault.cause (.ofList f)) := by
  intro kept
  have failed : evaluate (α := Empty) ⟨fun _ => none, fun _ args => .ok (.list args), none⟩
      "f(\"\\\")".toList = .error (.evaluation "f(\"\\\")" .unterminatedString) := by
    cbv
  have called := (kept ['\\'] ['f'] ⟨fun _ => none, fun _ args => .ok (.list args), none⟩
    (by decide) (by decide)).2
  have error_eq_ok := failed.symm.trans called
  cases error_eq_ok

end MicroTemplate.Expression
