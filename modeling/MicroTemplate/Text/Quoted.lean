import MicroTemplate.Number.Integer
import MicroTemplate.Unicode.GeneralCategory
import MicroTemplate.Unicode.Property

/-!
# Quoted texts

A text between quotation marks, in which what could be mistaken or cannot be seen is written as an
escape.
-/

namespace MicroTemplate.Text

open Unicode

/-- Whether a character leaves a mark of its own on paper. -/
def isVisible (c : Char) : Bool :=
  if c.toNat < 127 then 32 ≤ c.toNat
  else
    !graphemeExtend.contains c && GeneralCategory.all.any fun g =>
      g.holds c && !(g = .Zs || g = .Zl || g = .Zp || g = .Cc || g = .Cf || g = .Co)

/-- The digits of a number in base sixteen, in lower case. -/
def hexadecimal (n : Nat) : List Char :=
  let digit := fun d : Nat => if d < 10 then Char.ofNat (48 + d) else Char.ofNat (87 + d)
  if n < 16 then [digit n] else hexadecimal (n / 16) ++ [digit (n % 16)]

/-- A character between quotation marks. -/
def quotedChar (c : Char) : List Char :=
  match c with
  | '"' => ['\\', '"']
  | '\\' => ['\\', '\\']
  | '\t' => ['\\', 't']
  | '\n' => ['\\', 'n']
  | '\r' => ['\\', 'r']
  | c =>
    if c.toNat = 0 then ['\\', '0']
    else if isVisible c then [c]
    else '\\' :: 'u' :: '\x7b' :: (hexadecimal c.toNat ++ ['\x7d'])

/-- A text between quotation marks. -/
def quoted (cs : List Char) : List Char := '"' :: (cs.flatMap quotedChar ++ ['"'])

end MicroTemplate.Text
