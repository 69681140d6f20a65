import MicroTemplate.Unicode.GeneralCategory
import MicroTemplate.Unicode.Property

/-!
# Character classes

The classes of characters that expressions, names and white space are made of. They follow the
Unicode properties; the first 128 code points are decided without a table.
-/

namespace MicroTemplate.Text

open Unicode

/-- White space: the characters that separate words in any script. -/
def isSpace (c : Char) : Bool :=
  c == ' ' || (9 ≤ c.toNat && c.toNat ≤ 13) || c.toNat == 0x85 || c.toNat == 0xA0 ||
    c.toNat == 0x1680 || (0x2000 ≤ c.toNat && c.toNat ≤ 0x200A) || c.toNat == 0x2028 ||
    c.toNat == 0x2029 || c.toNat == 0x202F || c.toNat == 0x205F || c.toNat == 0x3000

/-- White space among the first 128 code points; a vertical tab is not counted. -/
def isAsciiSpace (c : Char) : Bool :=
  c == ' ' || c == '\t' || c == '\n' || c == '\r' || c.toNat == 12

/-- Letters in the wide sense. -/
def isAlphabetic (c : Char) : Bool :=
  if c.toNat < 128 then c.isAlpha else alphabetic.contains c

/-- Digits and other number signs of any script. -/
def isNumeric (c : Char) : Bool :=
  if c.toNat < 128 then c.isDigit
  else GeneralCategory.Nd.holds c || GeneralCategory.Nl.holds c || GeneralCategory.No.holds c

/-- Letters and number signs. -/
def isAlphanumeric (c : Char) : Bool := isAlphabetic c || isNumeric c

theorem isAlphanumeric_of_lt {c : Char} (h : c.toNat < 128) :
    isAlphanumeric c = (c.isAlpha || c.isDigit) := by
  simp [isAlphanumeric, isAlphabetic, isNumeric, h]

theorem isSpace_of_isAsciiSpace {c : Char} (h : isAsciiSpace c = true) : isSpace c = true := by
  simp only [isAsciiSpace, Bool.or_eq_true, beq_iff_eq] at h
  rcases h with (((rfl | rfl) | rfl) | rfl) | h
  · decide
  · decide
  · decide
  · decide
  · simp [isSpace, h]

end MicroTemplate.Text
