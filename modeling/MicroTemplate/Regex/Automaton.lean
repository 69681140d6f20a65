import MicroTemplate.Regex.Syntax

/-!
# Automata

A pattern is laid out as a list of instructions. An instruction without targets of its own goes on
to the next one, and the layout of a pattern is left at its end. Of two ways to go on the first is
tried first, which makes the first way through the automaton the match that is preferred.
-/

namespace MicroTemplate.Regex

/-- An instruction of an automaton. -/
inductive Instruction where
  /-- Takes one character of a set. -/
  | one (set : CharSet)
  /-- Goes on only where a condition holds. -/
  | look (l : Look)
  /-- Remembers the place under a number. -/
  | save (slot : Nat)
  /-- Goes on elsewhere. -/
  | jump (target : Nat)
  /-- Goes on at the first target or, failing that, at the second. -/
  | fork (first second : Nat)
  /-- Ends the match. -/
  | accept

namespace Pattern

/-- A fork that prefers `body` if `greedy`, and `after` if not. -/
def forkTo (greedy : Bool) (body after : Nat) : Instruction :=
  if greedy then .fork body after else .fork after body

/-- The layouts of `count` copies of a pattern, one after the other. -/
def copies (layout : Nat → List Instruction) (start : Nat) : Nat → List Instruction
  | 0 => []
  | count + 1 =>
    let first := layout start
    first ++ copies layout (start + first.length) count

/-- The layouts of `count` copies, before each of which the rest may be left out. -/
def options (layout : Nat → List Instruction) (greedy : Bool) (start stop : Nat) :
    Nat → List Instruction
  | 0 => []
  | count + 1 =>
    let body := layout (start + 1)
    forkTo greedy (start + 1) stop :: body ++
      options layout greedy (start + 1 + body.length) stop count

/-- The instructions of a pattern, the first of which stands at `start`. A pattern that can match
the empty text is repeated at its end, so that its ways are tried in their order. -/
def layout : Pattern → Nat → List Instruction
  | empty, _ => []
  | one set _, _ => [.one set]
  | look l, _ => [.look l]
  | capture index p, start =>
    .save (2 * index) :: p.layout (start + 1) ++ [.save (2 * index + 1)]
  | seq p q, start =>
    let first := p.layout start
    first ++ q.layout (start + first.length)
  | alt p q, start =>
    let first := p.layout (start + 1)
    let second := start + 1 + first.length + 1
    let other := q.layout second
    .fork (start + 1) second :: first ++ .jump (second + other.length) :: other
  | repetition least (some most) greedy p, start =>
    let needed := copies p.layout start least
    let optional := start + needed.length
    let size := (p.layout 0).length + 1
    needed ++ options p.layout greedy optional (optional + (most - least) * size) (most - least)
  | repetition 0 none greedy p, start =>
    if 0 < p.minLength then
      let body := p.layout (start + 1)
      let stop := start + 1 + body.length + 1
      forkTo greedy (start + 1) stop :: body ++ [.jump start]
    else
      let body := p.layout (start + 1)
      let last := start + 1 + body.length
      forkTo greedy (start + 1) (last + 1) :: body ++ [forkTo greedy (start + 1) (last + 1)]
  | repetition (least + 1) none greedy p, start =>
    let needed := copies p.layout start least
    let body := p.layout (start + needed.length)
    let last := start + needed.length + body.length
    needed ++ body ++ [forkTo greedy (start + needed.length) (last + 1)]

/-- The whole automaton, with the place of the whole match under the numbers zero and one. -/
def automaton (p : Pattern) : Array Instruction :=
  ((capture 0 p).layout 0 ++ [Instruction.accept]).toArray

end Pattern

end MicroTemplate.Regex
