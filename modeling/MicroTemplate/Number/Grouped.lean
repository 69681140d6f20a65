import MicroTemplate.Number.Integer

/-!
# Grouped integers

Thousands are set apart by commas: a comma stands wherever the number of digits that follow is a
positive multiple of three.
-/

namespace MicroTemplate.Number

/-- Digits with a comma before each group of three from the right. -/
def groupDigits : List Char → List Char
  | [] => []
  | c :: cs =>
    if !cs.isEmpty && cs.length % 3 == 0 then c :: ',' :: groupDigits cs
    else c :: groupDigits cs

/-- An integer in decimal with its thousands set apart. -/
def writeGrouped (n : Int) : List Char :=
  if n < 0 then '-' :: groupDigits (digits n.natAbs) else groupDigits (digits n.natAbs)

end MicroTemplate.Number
