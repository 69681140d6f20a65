import MicroTemplate.Text.CharClass
import MicroTemplate.Unicode.CaseMap

/-!
# Upper and lower case

Texts are put into upper or lower case character by character, by the full mappings of the
standard: a character may become several. One mapping looks around: a capital sigma at the end of
a word becomes the final form of the letter.
-/

namespace MicroTemplate.Text

open Unicode

/-- A character in upper case. -/
def upperChar (c : Char) : List Char :=
  if c.toNat < 128 then [c.toUpper]
  else
    match longUpper.lookup c.toNat with
    | some codes => codes.map Char.ofNat
    | none => [Char.ofNat (upperRuns.map c.toNat)]

/-- A character in lower case, wherever it stands. The dotted capital I keeps its dot. -/
def lowerChar (c : Char) : List Char :=
  if c.toNat < 128 then [c.toLower]
  else if c.toNat = 0x130 then ['i', Char.ofNat 0x307]
  else [Char.ofNat (lowerRuns.map c.toNat)]

/-- A text in upper case. -/
def upper (cs : List Char) : List Char := cs.flatMap upperChar

/-- Whether the first character that counts for the end of a word has a case. -/
def nextIsCased (cs : List Char) : Bool :=
  match cs.dropWhile caseIgnorable.contains with
  | [] => false
  | c :: _ => cased.contains c

/-- The lower case of what follows `before`, whose last character comes first. -/
def lowerAfter : List Char → List Char → List Char
  | _, [] => []
  | before, c :: cs =>
    let lowered :=
      if c.toNat = 0x3A3 then
        [if nextIsCased before && !nextIsCased cs then Char.ofNat 0x3C2 else Char.ofNat 0x3C3]
      else lowerChar c
    lowered ++ lowerAfter (c :: before) cs

/-- A text in lower case. -/
def lower (cs : List Char) : List Char := lowerAfter [] cs

/-- Whether two texts are equal when the case of the letters a to z is disregarded. -/
def equalsIgnoringAsciiCase (a b : List Char) : Bool :=
  a.map Char.toLower == b.map Char.toLower

/-- The characters that differ from one in case alone, itself among them. -/
def caseVariants (c : Char) : List Char :=
  let lowest := foldRuns.map c.toNat
  (lowest :: foldRuns.sources lowest).map Char.ofNat

end MicroTemplate.Text
