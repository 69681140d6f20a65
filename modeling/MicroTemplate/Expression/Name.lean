import MicroTemplate.Text.CharClass

/-!
# Words and names

A word is a run of letters, number signs and underscores; a name is a word that begins with a letter
or an underscore. Whatever is neither part of a word nor white space, quotation mark or parenthesis
is an operator character.
-/

namespace MicroTemplate.Expression

open Text

/-- The characters of words. -/
def isWordChar (c : Char) : Bool := isAlphanumeric c || c == '_'

/-- The characters of operators. -/
def isOperatorChar (c : Char) : Bool :=
  !(isWordChar c || isSpace c || c == '"' || c == '(' || c == ')')

/-- Whether a text is a name. -/
def isName : List Char → Bool
  | [] => false
  | c :: cs => (isAlphabetic c || c == '_') && cs.all isWordChar

theorem isWordChar_of_isName {cs : List Char} (h : isName cs = true) :
    ∀ c ∈ cs, isWordChar c = true := by
  cases cs with
  | nil => cases h
  | cons c cs =>
    simp only [isName, Bool.and_eq_true, Bool.or_eq_true, List.all_eq_true] at h
    intro d hd
    cases hd with
    | head =>
      rcases h.1 with ha | hu
      · simp [isWordChar, isAlphanumeric, ha]
      · simp [isWordChar, hu]
    | tail _ hd => exact h.2 d hd

end MicroTemplate.Expression
