import MicroTemplate.Regex.Parser
import MicroTemplate.Regex.Search

/-!
# Matching and replacing

A replacement text may refer to the groups of the pattern: `$1`, `$name`, or with braces around
number or name where something follows that could belong to it. Two dollar signs stand for one. A
reference to a group that is missing, or took no part in the match, stands for nothing.
-/

namespace MicroTemplate.Regex

/-- A part of a replacement text. -/
inductive Piece where
  /-- A character that stands for itself. -/
  | char (c : Char)
  /-- What a group matched. -/
  | group (name : List Char)

/-- Whether a character may stand in a reference without braces. -/
def isReferenceChar (c : Char) : Bool := c.isAlphanum || c == '_'

/-- The parts of a replacement text. -/
def Piece.read : Nat → List Char → List Piece
  | 0, _ => []
  | _, [] => []
  | fuel + 1, '$' :: '$' :: rest => char '$' :: read fuel rest
  | fuel + 1, '$' :: '\x7b' :: rest =>
    let name := rest.takeWhile (· != '\x7d')
    match rest.dropWhile (· != '\x7d') with
    | _ :: after => group name :: read fuel after
    | [] => char '$' :: read fuel ('\x7b' :: rest)
  | fuel + 1, '$' :: rest =>
    let name := rest.takeWhile isReferenceChar
    if name.isEmpty then char '$' :: read fuel rest
    else group name :: read fuel (rest.dropWhile isReferenceChar)
  | fuel + 1, c :: rest => char c :: read fuel rest

/-- The number that a reference gives, if it is one; a plus sign may stand before it. -/
def referenceNumber? (name : List Char) : Option Nat :=
  let digits := match name with
    | '+' :: rest => rest
    | _ => name
  match Number.readNat? digits with
  | some n => if n < 18446744073709551616 then some n else none
  | none => none

namespace Matcher

/-- The number of the group that a reference means, if there is one. -/
def groupNumber? (r : Matcher) (name : List Char) : Option Nat :=
  match referenceNumber? name with
  | some n => some n
  | none => r.names.lookup (.ofList name)

/-- The replacement text of one match. -/
def expand (r : Matcher) (text : Array Char) (slots : Slots) (pieces : List Piece) : List Char :=
  pieces.flatMap fun
    | .char c => [c]
    | .group name => ((r.groupNumber? name).bind (slots.group? text)).getD []

/-- Whether the pattern matches somewhere in a text. -/
def isMatch (r : Matcher) (cs : List Char) : Bool := (find? r.code cs.toArray 0).isSome

/-- The text from `place` on with the matches replaced. -/
def replaceFrom (r : Matcher) (text : Array Char) (pieces : List Piece) (place : Nat) :
    List Slots → List Char
  | [] => (text.extract place text.size).toList
  | slots :: more =>
    (text.extract place slots.span.1).toList ++ r.expand text slots pieces ++
      r.replaceFrom text pieces slots.span.2 more

/-- The text with every match replaced. -/
def replaceAll (r : Matcher) (cs replacement : List Char) : List Char :=
  let text := cs.toArray
  r.replaceFrom text (Piece.read (replacement.length + 1) replacement) 0 (matchesOf r.code text)

end Matcher

/-- The message of a pattern that cannot be used. -/
def PatternError.message (pattern : String) : PatternError → String
  | malformed => "regex parse error: " ++ pattern
  | tooLarge => "Compiled regex exceeds size limit of " ++ Number.decimal largest ++ " bytes."

end MicroTemplate.Regex
