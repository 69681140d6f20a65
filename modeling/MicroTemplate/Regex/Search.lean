import Std.Data.HashSet
import MicroTemplate.Regex.Automaton

/-!
# Finding matches

The automaton of a pattern is run by backtracking. A pair of instruction and place that has been
tried is not tried again, whatever way leads to it: if the first try failed, so would the second.
So a search takes time in proportion to the automaton and the text.
-/

namespace MicroTemplate.Regex

/-- Places under numbers, the last remembered first. -/
abbrev Slots := List (Nat × Nat)

/-- A way that is still to be tried: an instruction, a place in the text, and what has been
remembered on the way there. -/
structure Attempt where
  /-- The number of the instruction. -/
  instruction : Nat
  /-- The place, in characters. -/
  place : Nat
  /-- The places remembered. -/
  slots : Slots

/-- The ways that go on from an attempt, the preferred first; none at all if it has arrived. -/
def Attempt.successors? (code : Array Instruction) (text : Array Char) (a : Attempt) :
    Option (List Attempt) :=
  let next (place : Nat) : Attempt := ⟨a.instruction + 1, place, a.slots⟩
  match code[a.instruction]? with
  | none => some []
  | some .accept => none
  | some (.one set) =>
    match text[a.place]? with
    | some c => some (if set c then [next (a.place + 1)] else [])
    | none => some []
  | some (.look l) =>
    let before := if a.place = 0 then none else text[a.place - 1]?
    some (if l.holds before text[a.place]? then [next a.place] else [])
  | some (.save slot) => some [⟨a.instruction + 1, a.place, (slot, a.place) :: a.slots⟩]
  | some (.jump target) => some [⟨target, a.place, a.slots⟩]
  | some (.fork first second) =>
    some [⟨first, a.place, a.slots⟩, ⟨second, a.place, a.slots⟩]

/-- Tries the attempts of a stack, at most `fuel` of them, skipping those tried before. -/
def run (code : Array Instruction) (text : Array Char) :
    Nat → Std.HashSet (Nat × Nat) → List Attempt → Option Slots × Std.HashSet (Nat × Nat)
  | 0, tried, _ => (none, tried)
  | _, tried, [] => (none, tried)
  | fuel + 1, tried, a :: rest =>
    if tried.contains (a.instruction, a.place) then run code text fuel tried rest
    else
      let tried := tried.insert (a.instruction, a.place)
      match a.successors? code text with
      | none => (some a.slots, tried)
      | some ways => run code text fuel tried (ways ++ rest)

/-- Looks for a match that begins at `place` or, failing that, at one of the `count` places after
it. -/
def searchFrom (code : Array Instruction) (text : Array Char) (fuel place : Nat)
    (tried : Std.HashSet (Nat × Nat)) : Nat → Option Slots
  | 0 => (run code text fuel tried [⟨0, place, []⟩]).1
  | count + 1 =>
    match run code text fuel tried [⟨0, place, []⟩] with
    | (some slots, _) => some slots
    | (none, tried) => searchFrom code text fuel (place + 1) tried count

/-- The first match at `place` or after it. Each pair of instruction and place is tried once and
leads to at most two more. -/
def find? (code : Array Instruction) (text : Array Char) (place : Nat) : Option Slots :=
  if text.size < place then none
  else
    let fuel := 2 * code.size * (text.size + 2) + 2
    searchFrom code text fuel place ∅ (text.size - place)

/-- Where a match begins and ends. -/
def Slots.span (slots : Slots) : Nat × Nat :=
  ((slots.lookup 0).getD 0, (slots.lookup 1).getD 0)

/-- The text that a group matched, if it took part in the match. -/
def Slots.group? (slots : Slots) (text : Array Char) (index : Nat) : Option (List Char) := do
  let first ← slots.lookup (2 * index)
  let last ← slots.lookup (2 * index + 1)
  return (text.extract first last).toList

/-- All matches from left to right from `place` on. An empty match right after another match is not
counted. -/
def findAll (code : Array Instruction) (text : Array Char) (place : Nat) (last : Option Nat) :
    Nat → List Slots
  | 0 => []
  | fuel + 1 =>
    match find? code text place with
    | none => []
    | some slots =>
      let (first, stop) := slots.span
      if first = stop ∧ some stop = last then findAll code text (place + 1) last fuel
      else slots :: findAll code text stop (some stop) fuel

/-- Every match of a text, from left to right. Two steps at most go by without moving on. -/
def matchesOf (code : Array Instruction) (text : Array Char) : List Slots :=
  findAll code text 0 none (2 * text.size + 4)

end MicroTemplate.Regex
