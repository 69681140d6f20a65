/-!
# HTML encoding

The five characters that mean something in markup are written as entities; every other character
stands for itself.
-/

namespace MicroTemplate.Encoding

/-- The entity of a character that has one. -/
def entity? (c : Char) : Option (List Char) :=
  match c with
  | '<' => some "&lt;".toList
  | '>' => some "&gt;".toList
  | '&' => some "&amp;".toList
  | '"' => some "&quot;".toList
  | '\'' => some "&#39;".toList
  | _ => none

/-- A character in markup. -/
def htmlChar (c : Char) : List Char := (entity? c).getD [c]

/-- A text in markup. -/
def html (cs : List Char) : List Char := cs.flatMap htmlChar

theorem html_append (a b : List Char) : html (a ++ b) = html a ++ html b := by
  simp [html]

end MicroTemplate.Encoding
