import MicroTemplate.Text.Case

/-!
# Patterns

The syntax of regular expressions after parsing: flags have been applied, groups are numbered and
repetitions have bounds. A set of characters is a predicate, so that the operations on sets are
operations on predicates.

Patterns are compiled into automata, and one whose automaton takes too many bytes is refused. How
many it takes is a matter of the compiler; the weight of a pattern stands for that number. It is
counted with one size for each kind of part, so it is right within a small factor, and what is close
to the limit may be refused here and not there. Nothing else depends on it.
-/

namespace MicroTemplate.Regex

open Unicode Text

/-- A set of characters. -/
abbrev CharSet := Char → Bool

namespace CharSet

/-- The characters from `first` to `last`. -/
def range (first last : Char) : CharSet := fun c => first ≤ c && c ≤ last

/-- The characters of either set. -/
def union (p q : CharSet) : CharSet := fun c => p c || q c

/-- The characters of both sets. -/
def inter (p q : CharSet) : CharSet := fun c => p c && q c

/-- The characters of the first set that are not in the second. -/
def diff (p q : CharSet) : CharSet := fun c => p c && !q c

/-- The characters of exactly one of two sets. -/
def symmDiff (p q : CharSet) : CharSet := fun c => p c != q c

/-- The characters outside a set. -/
def compl (p : CharSet) : CharSet := fun c => !p c

/-- The characters that differ from one of the set in case at most. -/
def folded (p : CharSet) : CharSet := fun c => (caseVariants c).any p

/-- The characters that differ from one of the set in the case of the letters a to z at most. -/
def foldedAscii (p : CharSet) : CharSet := fun c => p c || p c.toLower || p c.toUpper

/-- Decimal digits. -/
def digit : CharSet := GeneralCategory.Nd.holds

/-- White space. -/
def space : CharSet := isSpace

/-- The characters of words: letters, marks, decimal digits, connectors and joiners. -/
def word : CharSet := fun c =>
  if c.toNat < 128 then c.isAlphanum || c == '_'
  else isAlphabetic c || GeneralCategory.Mn.holds c || GeneralCategory.Mc.holds c ||
    GeneralCategory.Me.holds c || GeneralCategory.Nd.holds c || GeneralCategory.Pc.holds c ||
    c.toNat == 0x200C || c.toNat == 0x200D

/-- White space among the first 128 characters, the vertical tab included. -/
def asciiSpace : CharSet := fun c => c == ' ' || (9 ≤ c.toNat && c.toNat ≤ 13)

/-- The characters of words among the first 128. -/
def asciiWord : CharSet := fun c => c.isAlphanum || c == '_'

end CharSet

/-- Conditions on a place between two characters. -/
inductive Look where
  /-- The beginning of the text. -/
  | start
  /-- The end of the text. -/
  | stop
  /-- The beginning of a line. -/
  | lineStart
  /-- The end of a line. -/
  | lineStop
  /-- The beginning of a line, where a carriage return ends lines too. -/
  | returnStart
  /-- The end of a line, where a carriage return ends lines too. -/
  | returnStop
  /-- Between a character of a word and one that is none. -/
  | boundary (word : CharSet)
  /-- Not between a character of a word and one that is none. -/
  | interior (word : CharSet)
  /-- Where a word begins. -/
  | wordStart (word : CharSet)
  /-- Where a word ends. -/
  | wordStop (word : CharSet)
  /-- After a character that is none of a word. -/
  | wordStartHalf (word : CharSet)
  /-- Before a character that is none of a word. -/
  | wordStopHalf (word : CharSet)

/-- Whether a place with these neighbours satisfies the condition. -/
def Look.holds (l : Look) (before after : Option Char) : Bool :=
  match l with
  | .start => before.isNone
  | .stop => after.isNone
  | .lineStart => before.isNone || before == some '\n'
  | .lineStop => after.isNone || after == some '\n'
  | .returnStart =>
    before.isNone || before == some '\n' || (before == some '\r' && after != some '\n')
  | .returnStop =>
    after.isNone || after == some '\r' || (after == some '\n' && before != some '\r')
  | .boundary word => before.any word != after.any word
  | .interior word => before.any word == after.any word
  | .wordStart word => !before.any word && after.any word
  | .wordStop word => before.any word && !after.any word
  | .wordStartHalf word => !before.any word
  | .wordStopHalf word => !after.any word

/-- A pattern. -/
inductive Pattern where
  /-- Matches the empty text. -/
  | empty
  /-- Matches one character of a set; `weight` stands for the bytes that its automaton takes. -/
  | one (set : CharSet) (weight : Nat)
  /-- Matches the empty text at certain places. -/
  | look (l : Look)
  /-- Matches what the pattern matches and remembers where. -/
  | capture (index : Nat) (p : Pattern)
  /-- Matches the pattern several times over, as often as possible first if it is greedy. -/
  | repetition (least : Nat) (most : Option Nat) (greedy : Bool) (p : Pattern)
  /-- Matches the patterns one after the other. -/
  | seq (p q : Pattern)
  /-- Matches one of the patterns, the first one if possible. -/
  | alt (p q : Pattern)

/-- The least number of characters that a pattern matches. -/
def Pattern.minLength : Pattern → Nat
  | empty => 0
  | one _ _ => 1
  | look _ => 0
  | capture _ p => p.minLength
  | repetition least _ _ p => least * p.minLength
  | seq p q => p.minLength + q.minLength
  | alt p q => min p.minLength q.minLength

/-- Whether a pattern matches nothing but the empty text. -/
def Pattern.isZeroWidth : Pattern → Bool
  | empty => true
  | one _ _ => false
  | look _ => true
  | capture _ p => p.isZeroWidth
  | repetition _ most _ p => most == some 0 || p.isZeroWidth
  | seq p q => p.isZeroWidth && q.isZeroWidth
  | alt p q => p.isZeroWidth && q.isZeroWidth

/-- The pattern with repetitions that say less than they seem to put simply: what matches nothing
but the empty text need not be repeated more than once. -/
def Pattern.repeated (least : Nat) (most : Option Nat) (greedy : Bool) (p : Pattern) : Pattern :=
  let (least, most) :=
    if p.isZeroWidth then (min least 1, some (min (most.getD 1) 1)) else (least, most)
  if most = some 0 then .empty
  else if least = 1 ∧ most = some 1 then p
  else .repetition least most greedy p

/-! ## Weights -/

/-- The bytes of a state that leads to one other. -/
def stateWeight : Nat := 32

/-- The bytes of a state from which there are two ways on. -/
def branchWeight : Nat := 48

/-- The bytes of a set without members. -/
def setWeight : Nat := 40

/-- The bytes of a character or of a range of them as a member of a set. -/
def memberWeight : Nat := 8

/-- What stands for the bytes that the automaton of a pattern takes. A repetition has the automaton
of what is repeated as often as it can be needed. -/
def Pattern.weight : Pattern → Nat
  | empty => stateWeight
  | one _ w => w
  | look _ => stateWeight
  | capture _ p => p.weight + 2 * stateWeight
  | repetition least most _ p =>
    match most with
    | none => max least 1 * p.weight + branchWeight
    | some n => n * (p.weight + branchWeight) + stateWeight
  | seq p q => p.weight + q.weight
  | alt p q => p.weight + q.weight + branchWeight

end MicroTemplate.Regex
