import MicroTemplate.Number.Integer
import MicroTemplate.Regex.Automaton
import MicroTemplate.Regex.Class

/-!
# Reading patterns

A pattern is read from left to right with the open groups on a stack. The switches of a group end
with it; those set in the middle of a group last to its end, other branches included.
-/

namespace MicroTemplate.Regex

open Text

/-- Part of a branch that has been read. -/
structure Item where
  /-- The part. -/
  pattern : Pattern
  /-- Whether a repetition may follow. A setting of switches cannot be repeated. -/
  repeatable : Bool
  /-- How deeply it is nested. -/
  depth : Nat

namespace Item

/-- The parts of a branch, the last of them first, as one. -/
def joined : List Item → Item
  | [] => ⟨.empty, true, 0⟩
  | [item] => { item with repeatable := true }
  | items =>
    ⟨items.foldl (fun rest item => .seq item.pattern rest) .empty, true,
      1 + items.foldl (fun depth item => max depth item.depth) 0⟩

/-- The branches of a group, the last of them first, as one. -/
def either : Item → List Item → Item
  | branch, [] => branch
  | branch, branches =>
    ⟨branches.foldl (fun rest item => .alt item.pattern rest) branch.pattern, true,
      1 + branches.foldl (fun depth item => max depth item.depth) branch.depth⟩

end Item

/-- A group that is being read, or the whole pattern. -/
structure Group where
  /-- The number of the group, if it remembers what it matches. -/
  index : Option Nat
  /-- The branches read, the last of them first. -/
  branches : List Item
  /-- The parts read of the current branch, the last of them first. -/
  items : List Item
  /-- The switches that hold. -/
  flags : Flags

namespace Group

/-- Adds a part to the current branch. -/
def push (g : Group) (item : Item) : Group := { g with items := item :: g.items }

/-- Ends the current branch. -/
def branch (g : Group) : Group :=
  { g with branches := Item.joined g.items :: g.branches, items := [] }

/-- All that the group holds. -/
def content (g : Group) : Item := Item.either (Item.joined g.items) g.branches

/-- The group as a part of the group around it. -/
def toItem (g : Group) : Item :=
  let inner := g.content
  match g.index with
  | some index => ⟨.capture index inner.pattern, true, inner.depth + 1⟩
  | none => ⟨inner.pattern, true, inner.depth + 1⟩

end Group

/-- How far a pattern has been read. -/
structure Progress where
  /-- The innermost open group. -/
  group : Group
  /-- The groups around it, from the inside out. -/
  outer : List Group
  /-- The number of groups that remember what they match. -/
  count : Nat
  /-- The names of such groups. -/
  names : List (String × Nat)

/-- The part that a primitive amounts to under the switches. -/
def Primitive.toPattern (f : Flags) : Primitive → Except PatternError Pattern
  | .literal c =>
    if f.ignoreCase then .ok (.one (f.fold (· == c)) 48)
    else .ok (.one (· == c) (stateWeight * c.utf8Size))
  | .set p weight => .ok (.one p weight)
  | .look l => .ok (.look l)
  | .dot =>
    if !f.unicode then .error .malformed
    else if f.dotAll then .ok (.one (fun _ => true) 600)
    else if f.returns then .ok (.one (fun c => c != '\n' && c != '\r') 600)
    else .ok (.one (· != '\n') 600)

/-- Reads the digits of a count, with white space around them. -/
def readCount (verbose : Bool) (cs : List Char) : Option (Option Nat × List Char) :=
  let (ds, rest) := gather (cs.length + 1) (cs.dropWhile isSpace)
  let rest := skipVerbose verbose (rest.dropWhile isSpace)
  if ds.isEmpty then some (none, rest)
  else
    let n := Number.ofDigits ds
    if n < 4294967296 then some (some n, rest) else none
where
  /-- The digits up to something else. -/
  gather : Nat → List Char → List Char × List Char
    | 0, cs => ([], cs)
    | _, [] => ([], [])
    | fuel + 1, c :: cs =>
      if c.isDigit then
        let (ds, rest) := gather fuel (skipVerbose verbose cs)
        (c :: ds, rest)
      else ([], c :: cs)

/-- Reads the bounds of a repetition, after the opening brace: one number, or a least number with a
comma and perhaps a greatest. -/
def readBounds (verbose : Bool) (cs : List Char) :
    Except PatternError (Read (Nat × Option Nat)) :=
  match readCount verbose (skipVerbose verbose cs) with
  | none | some (none, _) => .error .malformed
  | some (some least, rest) =>
    match rest with
    | '\x7d' :: after => .ok ((least, some least), skipVerbose verbose after)
    | ',' :: more =>
      match skipVerbose verbose more with
      | '\x7d' :: after => .ok ((least, none), skipVerbose verbose after)
      | more =>
        match readCount verbose more with
        | some (some most, '\x7d' :: after) =>
          if least ≤ most then .ok ((least, some most), skipVerbose verbose after)
          else .error .malformed
        | _ => .error .malformed
    | _ => .error .malformed

/-- Repeats the last part of the current branch. A question mark after the repetition makes it
lazy. -/
def Progress.repeatLast (s : Progress) (least : Nat) (most : Option Nat) (cs : List Char) :
    Except PatternError (Read Progress) :=
  match s.group.items with
  | [] => .error .malformed
  | item :: items =>
    if !item.repeatable then .error .malformed
    else
      let (lazy, rest) := match cs with
        | '?' :: rest => (true, rest)
        | _ => (false, cs)
      let greedy := lazy == s.group.flags.swapGreed
      let item : Item := ⟨item.pattern.repeated least most greedy, true, item.depth + 1⟩
      .ok ({ s with group := { s.group with items := item :: items } }, rest)

/-- The switches after one has been turned on or off; none if the letter is that of no switch. -/
def Flags.set? (f : Flags) (letter : Char) (on : Bool) : Option Flags :=
  match letter with
  | 'i' => some { f with ignoreCase := on }
  | 'm' => some { f with multiLine := on }
  | 's' => some { f with dotAll := on }
  | 'U' => some { f with swapGreed := on }
  | 'u' => some { f with unicode := on }
  | 'R' => some { f with returns := on }
  | 'x' => some { f with verbose := on }
  | _ => none

/-- Reads switches up to a colon or a closing parenthesis. None may be given twice; those after a
hyphen are turned off. The letters read are returned with the switches and the mark. -/
def readFlags (f : Flags) (seen : List Char) : List Char →
    Except PatternError (Read (Flags × List Char × Char))
  | [] => .error .malformed
  | c :: cs =>
    if c = ':' ∨ c = ')' then
      if seen.head? = some '-' then .error .malformed else .ok ((f, seen, c), cs)
    else if seen.contains c then .error .malformed
    else if c = '-' then readFlags f (c :: seen) cs
    else
      match f.set? c (!seen.contains '-') with
      | some g => readFlags g (c :: seen) cs
      | none => .error .malformed

/-- Whether a character may stand in the name of a group. -/
def isNameChar (first : Bool) (c : Char) : Bool :=
  if first then c == '_' || isAlphabetic c
  else c == '_' || c == '.' || c == '[' || c == ']' || isAlphanumeric c

/-- Reads the name of a group up to the closing angle bracket. -/
def readGroupName (cs : List Char) : Except PatternError (Read String) :=
  let name := cs.takeWhile (· != '>')
  match name, cs.dropWhile (· != '>') with
  | c :: more, _ :: rest =>
    if isNameChar true c && more.all (isNameChar false) then .ok (.ofList name, rest)
    else .error .malformed
  | _, _ => .error .malformed

/-- Opens a group. -/
def Progress.openGroup (s : Progress) (index : Option Nat) (f : Flags) : Progress :=
  { s with group := ⟨index, [], [], f⟩, outer := s.group :: s.outer }

/-- Opens a group that remembers what it matches. -/
def Progress.openCapture (s : Progress) : Progress :=
  { s.openGroup (some (s.count + 1)) s.group.flags with count := s.count + 1 }

/-- Opens a group with a name, which is read first. -/
def Progress.openNamed (s : Progress) (cs : List Char) : Except PatternError (Read Progress) := do
  let (name, rest) ← readGroupName cs
  if (s.names.lookup name).isSome then .error .malformed
  else return ({ s.openCapture with names := (name, s.count + 1) :: s.names }, rest)

/-- Reads what follows an opening parenthesis. -/
def Progress.parenthesis (s : Progress) (cs : List Char) : Except PatternError (Read Progress) := do
  match skipVerbose s.group.flags.verbose cs with
  | '?' :: '=' :: _ | '?' :: '!' :: _ | '?' :: '<' :: '=' :: _ | '?' :: '<' :: '!' :: _ =>
    .error .malformed
  | '?' :: 'P' :: '<' :: rest => s.openNamed rest
  | '?' :: '<' :: rest => s.openNamed rest
  | '?' :: rest =>
    let ((f, seen, mark), after) ← readFlags s.group.flags [] rest
    if mark = ':' then return (s.openGroup none f, after)
    else if seen.isEmpty then .error .malformed
    else return ({ s with group := { s.group.push ⟨.empty, false, 0⟩ with flags := f } }, after)
  | rest => return (s.openCapture, rest)

/-- Ends the innermost group. -/
def Progress.closeGroup (s : Progress) : Except PatternError Progress :=
  match s.outer with
  | [] => .error .malformed
  | g :: outer => .ok { s with group := g.push s.group.toItem, outer := outer }

/-- Adds a primitive to the current branch. -/
def Progress.pushPrimitive (s : Progress) (p : Primitive) : Except PatternError Progress := do
  let pattern ← p.toPattern s.group.flags
  return { s with group := s.group.push ⟨pattern, true, 0⟩ }

/-- What an anchor stands for under the switches. -/
def Flags.anchor (f : Flags) (atStart : Bool) : Look :=
  if f.multiLine then
    if f.returns then (if atStart then .returnStart else .returnStop)
    else if atStart then .lineStart else .lineStop
  else if atStart then .start else .stop

/-- Takes the next part of a pattern, which begins with `c`. -/
def Progress.step (s : Progress) (c : Char) (cs : List Char) :
    Except PatternError (Read Progress) := do
  let f := s.group.flags
  match c with
  | '(' => s.parenthesis cs
  | ')' => return (← s.closeGroup, cs)
  | '|' => return ({ s with group := s.group.branch }, cs)
  | '[' =>
    let ((p, weight), rest) ← readSet f cs
    return ({ s with group := s.group.push ⟨.one p weight, true, 1⟩ }, rest)
  | '?' => s.repeatLast 0 (some 1) cs
  | '*' => s.repeatLast 0 none cs
  | '+' => s.repeatLast 1 none cs
  | '\x7b' =>
    match s.group.items with
    | [] => .error .malformed
    | _ =>
      let ((least, most), rest) ← readBounds f.verbose cs
      s.repeatLast least most rest
  | '\\' =>
    let (p, rest) ← readEscape f cs
    return (← s.pushPrimitive p, rest)
  | '.' => return (← s.pushPrimitive .dot, cs)
  | '^' => return (← s.pushPrimitive (.look (f.anchor true)), cs)
  | '$' => return (← s.pushPrimitive (.look (f.anchor false)), cs)
  | c => return (← s.pushPrimitive (.literal c), cs)

/-- Reads to the end of a pattern. Each step takes a character at least. -/
def Progress.finish : Nat → Progress → List Char → Except PatternError Progress
  | 0, _, _ => .error .malformed
  | fuel + 1, s, cs =>
    match skipVerbose s.group.flags.verbose cs with
    | [] => .ok s
    | c :: rest => do
      let (s, rest) ← s.step c rest
      s.finish fuel rest

/-- The nesting that is admitted. -/
def deepest : Nat := 250

/-- The bytes that an automaton may take: ten times 2 ^ 20. -/
def largest : Nat := 10485760

/-- A pattern ready for use. -/
structure Matcher where
  /-- The instructions of its automaton. -/
  code : Array Instruction
  /-- The numbers of the groups that have names. -/
  names : List (String × Nat)

/-- Reads a pattern. -/
def Matcher.ofPattern? (cs : List Char) : Except PatternError Matcher := do
  let s ← Progress.finish (cs.length + 1) ⟨⟨none, [], [], {}⟩, [], 0, []⟩ cs
  let content := s.group.content
  if !s.outer.isEmpty || deepest < content.depth then .error .malformed
  else if largest < content.pattern.weight then .error .tooLarge
  else return ⟨content.pattern.automaton, s.names⟩

end MicroTemplate.Regex
