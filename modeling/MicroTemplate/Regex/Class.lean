import MicroTemplate.Regex.Property
import MicroTemplate.Text.Search

/-!
# Reading sets of characters

The parts of a pattern that stand for one character: escapes, named sets and sets in brackets.
A reader takes the rest of the pattern and gives what it has read with the rest after it, or fails.
-/

namespace MicroTemplate.Regex

open Unicode Text

/-- The switches that change the meaning of a pattern from a place on. -/
structure Flags where
  /-- Case does not matter. -/
  ignoreCase : Bool := false
  /-- The anchors stand for the ends of lines. -/
  multiLine : Bool := false
  /-- The dot matches line feeds too. -/
  dotAll : Bool := false
  /-- Repetitions are lazy and become greedy by a question mark. -/
  swapGreed : Bool := false
  /-- Sets are sets of all characters, and not of the first 128 alone. -/
  unicode : Bool := true
  /-- A carriage return ends lines too. -/
  returns : Bool := false
  /-- White space and comments do not belong to the pattern. -/
  verbose : Bool := false

/-- Why a pattern cannot be used. -/
inductive PatternError where
  /-- It is not written correctly. -/
  | malformed
  /-- Its automaton would be too large. -/
  | tooLarge
  deriving DecidableEq, Repr

/-- The rest of a pattern after white space and comments, where those do not count. -/
def skipVerbose (verbose : Bool) : List Char → List Char
  | [] => []
  | c :: cs =>
    if verbose then
      if Text.isSpace c then skipVerbose verbose cs
      else if c = '#' then skipComment cs
      else c :: cs
    else c :: cs
where
  /-- The rest after a comment, which ends with its line. -/
  skipComment : List Char → List Char
    | [] => []
    | c :: cs => if c = '\n' then skipVerbose true cs else skipComment cs

/-- What a backslash or a plain character stands for. -/
inductive Primitive where
  /-- A single character. -/
  | literal (c : Char)
  /-- A set of characters, with the bytes that its automaton takes. -/
  | set (p : CharSet) (weight : Nat)
  /-- A condition on the place. -/
  | look (l : Look)
  /-- Any character, but not the end of a line. -/
  | dot

/-- What has been read of a pattern, with the rest of it. -/
abbrev Read (β : Type) := β × List Char

/-- The characters that have a meaning of their own and lose it after a backslash. -/
def isMeta (c : Char) : Bool := "\\.+*?()|[]\x7b\x7d^$#&-~".toList.contains c

/-- Whether a backslash before a character stands for that character. -/
def isEscapable (c : Char) : Bool :=
  isMeta c || (c.toNat < 128 && !c.isAlphanum && c != '<' && c != '>')

/-- The character of a number in hexadecimal digits. -/
def ofHex? (ds : List Char) : Option Char :=
  let n := ds.foldl (fun n d => 16 * n + (hexDigit? d).getD 0) 0
  if n < 0xD800 ∨ (0xDFFF < n ∧ n < 0x110000) then some (.ofNat n) else none

/-- Reads exactly `count` hexadecimal digits. -/
def readHexDigits (verbose : Bool) : Nat → List Char → Option (List Char × List Char)
  | 0, cs => some ([], cs)
  | _ + 1, [] => none
  | count + 1, c :: cs =>
    if (hexDigit? c).isSome then
      (readHexDigits verbose count (skipVerbose verbose cs)).map fun (ds, rest) => (c :: ds, rest)
    else none

/-- Reads hexadecimal digits up to a closing brace. -/
def readHexBraced (verbose : Bool) : Nat → List Char → Option (List Char × List Char)
  | 0, _ => none
  | fuel + 1, cs =>
    match skipVerbose verbose cs with
    | [] => none
    | c :: rest =>
      if c = '\x7d' then some ([], rest)
      else if (hexDigit? c).isSome then
        (readHexBraced verbose fuel rest).map fun (ds, after) => (c :: ds, after)
      else none

/-- Reads a character given by its number, after the letter that says how many digits there are. -/
def readHex (verbose : Bool) (width : Nat) (cs : List Char) : Except PatternError (Read Char) :=
  let read : Option (Char × List Char) := do
    match skipVerbose verbose cs with
    | '\x7b' :: rest =>
      let (ds, after) ← readHexBraced verbose (rest.length + 1) rest
      if ds.isEmpty then none else return (← ofHex? ds, skipVerbose verbose after)
    | rest =>
      let (ds, after) ← readHexDigits verbose width rest
      return (← ofHex? ds, after)
  match read with
  | some r => .ok r
  | none => .error .malformed

/-- Reads the name of a set up to a closing brace. -/
def readNameBraced (verbose : Bool) : Nat → List Char → Option (List Char × List Char)
  | 0, _ => none
  | fuel + 1, cs =>
    match skipVerbose verbose cs with
    | [] => none
    | c :: rest =>
      if c = '\x7d' then some ([], rest)
      else (readNameBraced verbose fuel rest).map fun (name, after) => (c :: name, after)

/-- The set that the text between the braces of a named set stands for, and whether its complement
is meant. -/
def namedSet? (name : List Char) : Option (CharSet × Bool) :=
  match Text.splitAt? ['!', '='] name with
  | some (property, value) => (propertyValue? property value).map (·, true)
  | none =>
    match (Text.splitFirst? (· == ':') name) <|> Text.splitFirst? (· == '=') name with
    | some (property, value) => (propertyValue? property value).map (·, false)
    | none => (property? name).map (·, false)

/-- A set with the characters that differ in case alone, if case does not matter. -/
def Flags.fold (f : Flags) (p : CharSet) : CharSet :=
  if f.ignoreCase then (if f.unicode then p.folded else p.foldedAscii) else p

/-- A set, or its complement. Where sets are of the first 128 characters, a set with others is
refused: it would match parts of characters. -/
def Flags.finish (f : Flags) (negated : Bool) (p : CharSet) : Except PatternError CharSet :=
  let q := if negated then p.compl else p
  if !f.unicode && q (.ofNat 0x80) then .error .malformed else .ok q

/-- Reads a named set, after the letter that begins it. -/
def readNamedSet (f : Flags) (negated : Bool) (cs : List Char) :
    Except PatternError (Read Primitive) := do
  let (name, rest) ← match skipVerbose f.verbose cs with
    | [] => .error .malformed
    | '\x7b' :: rest =>
      match readNameBraced f.verbose (rest.length + 1) rest with
      | some r => .ok r
      | none => .error .malformed
    | c :: rest => if c = '\\' then .error .malformed else .ok ([c], skipVerbose f.verbose rest)
  if !f.unicode then .error .malformed
  else
    match namedSet? name with
    | none => .error .malformed
    | some (set, other) =>
      let q ← f.finish (negated != other) (f.fold set)
      return (.set q 20000, rest)

/-- The set of one of the letters d, s and w after a backslash. The automaton of a set of characters
of all languages is large, since it goes by the bytes of the characters. -/
def Flags.perlSet (f : Flags) (letter : Char) : CharSet × Nat :=
  if letter = 'd' then if f.unicode then (CharSet.digit, 9000) else (Char.isDigit, setWeight)
  else if letter = 's' then if f.unicode then (CharSet.space, 1200) else (CharSet.asciiSpace, 48)
  else if f.unicode then (CharSet.word, 50000) else (CharSet.asciiWord, 64)

/-- The characters of words. -/
def Flags.wordSet (f : Flags) : CharSet := (f.perlSet 'w').1

/-- The conditions on words that have a name in braces. -/
def Flags.namedLook? (f : Flags) (name : List Char) : Option Look :=
  if name = "start".toList then some (.wordStart f.wordSet)
  else if name = "end".toList then some (.wordStop f.wordSet)
  else if name = "start-half".toList then some (.wordStartHalf f.wordSet)
  else if name = "end-half".toList then some (.wordStopHalf f.wordSet)
  else none

/-- Reads the letters and hyphens of a name. -/
def readLookName (verbose : Bool) : Nat → List Char → List Char × List Char
  | 0, cs => ([], cs)
  | _, [] => ([], [])
  | fuel + 1, c :: cs =>
    if c.isAlpha || c == '-' then
      let (name, rest) := readLookName verbose fuel (skipVerbose verbose cs)
      (c :: name, rest)
    else ([], c :: cs)

/-- Reads what may follow the letter of a word boundary: the name of a special one in braces. A
brace that holds no name begins a repetition. -/
def readBoundary (f : Flags) (cs : List Char) : Except PatternError (Read Primitive) :=
  match cs with
  | '\x7b' :: inner =>
    match skipVerbose f.verbose inner with
    | [] => .error .malformed
    | c :: more =>
      if c.isAlpha || c == '-' then
        match readLookName f.verbose (more.length + 1) (c :: more) with
        | (name, '\x7d' :: rest) =>
          match f.namedLook? name with
          | some l => .ok (.look l, rest)
          | none => .error .malformed
        | _ => .error .malformed
      else .ok (.look (.boundary f.wordSet), cs)
  | _ => .ok (.look (.boundary f.wordSet), cs)

/-- Reads what follows a backslash. -/
def readEscape (f : Flags) : List Char → Except PatternError (Read Primitive)
  | [] => .error .malformed
  | c :: rest => do
    if c = 'x' ∨ c = 'u' ∨ c = 'U' then
      let (d, after) ← readHex f.verbose (if c = 'x' then 2 else if c = 'u' then 4 else 8) rest
      let fixed := (skipVerbose f.verbose rest).head? != some '\x7b'
      if !f.unicode && c = 'x' && fixed && 0x7F < d.toNat then .error .malformed
      else return (.literal d, after)
    else if c = 'p' ∨ c = 'P' then readNamedSet f (c = 'P') rest
    else if "dswDSW".toList.contains c then
      let (set, weight) := f.perlSet c.toLower
      let q ← f.finish c.isUpper set
      return (.set q weight, rest)
    else if isEscapable c then return (.literal c, rest)
    else
      match c with
      | 'a' => return (.literal (.ofNat 7), rest)
      | 'f' => return (.literal (.ofNat 12), rest)
      | 't' => return (.literal '\t', rest)
      | 'n' => return (.literal '\n', rest)
      | 'r' => return (.literal '\r', rest)
      | 'v' => return (.literal (.ofNat 11), rest)
      | 'A' => return (.look .start, rest)
      | 'z' => return (.look .stop, rest)
      | 'b' => readBoundary f rest
      | 'B' => return (.look (.interior f.wordSet), rest)
      | '<' => return (.look (.wordStart f.wordSet), rest)
      | '>' => return (.look (.wordStop f.wordSet), rest)
      | _ => .error .malformed

/-- The operations on sets in brackets. -/
inductive SetOperation where
  | inter
  | diff
  | symmDiff

/-- The result of an operation. Where case does not matter it does not matter to the operands. -/
def SetOperation.apply (f : Flags) (op : SetOperation) (p q : CharSet) : CharSet :=
  match op with
  | inter => (f.fold p).inter (f.fold q)
  | diff => (f.fold p).diff (f.fold q)
  | symmDiff => (f.fold p).symmDiff (f.fold q)

/-- An open bracket: what has been read since, and what stands before the last operation. -/
structure OpenSet where
  /-- The complement is meant. -/
  negated : Bool
  /-- The operation whose second operand is being read, with the first one. -/
  pending : Option (SetOperation × CharSet)
  /-- The union of the items read. -/
  items : CharSet
  /-- The bytes that the automaton of the items takes. -/
  weight : Nat

namespace OpenSet

/-- A set of which nothing has been read but whether its complement is meant. -/
def start (negated : Bool) : OpenSet := ⟨negated, none, fun _ => false, setWeight⟩

/-- The set with one more item. -/
def push (s : OpenSet) (p : CharSet) (weight : Nat) : OpenSet :=
  { s with items := s.items.union p, weight := s.weight + weight }

/-- What the items and the operation before them amount to. -/
def value (f : Flags) (s : OpenSet) : CharSet :=
  match s.pending with
  | none => s.items
  | some (op, first) => op.apply f first s.items

/-- Begins the second operand of an operation. -/
def operate (f : Flags) (op : SetOperation) (s : OpenSet) : OpenSet :=
  { s with pending := some (op, s.value f), items := fun _ => false }

/-- The set at its closing bracket. -/
def close (f : Flags) (s : OpenSet) : Except PatternError CharSet :=
  f.finish s.negated (f.fold (s.value f))

end OpenSet

/-- The sets of the first 128 characters that have a name. -/
def asciiSet? (name : List Char) : Option CharSet :=
  match String.ofList name with
  | "alnum" => some Char.isAlphanum
  | "alpha" => some Char.isAlpha
  | "ascii" => some fun c => c.toNat < 128
  | "blank" => some fun c => c == ' ' || c == '\t'
  | "cntrl" => some fun c => c.toNat < 32 || c.toNat == 127
  | "digit" => some Char.isDigit
  | "graph" => some (CharSet.range '!' '~')
  | "lower" => some Char.isLower
  | "print" => some (CharSet.range ' ' '~')
  | "punct" => some fun c => CharSet.range '!' '~' c && !c.isAlphanum
  | "space" => some CharSet.asciiSpace
  | "upper" => some Char.isUpper
  | "word" => some CharSet.asciiWord
  | "xdigit" => some fun c => (hexDigit? c).isSome
  | _ => none

/-- Reads a named set of the form `[:name:]` after its bracket; none if it is not one. -/
def readAsciiSet? (cs : List Char) : Option (CharSet × Bool × List Char) :=
  match cs with
  | ':' :: rest =>
    let (negated, rest) := match rest with
      | '^' :: more => (true, more)
      | _ => (false, rest)
    let name := rest.takeWhile (· != ':')
    match rest.dropWhile (· != ':') with
    | ':' :: ']' :: after => (asciiSet? name).map (·, negated, after)
    | _ => none
  | _ => none

/-- Reads the hyphens at the beginning of a set, which stand for themselves. -/
def readHyphens (verbose : Bool) :
    Nat → OpenSet → List Char → Except PatternError (Read OpenSet)
  | 0, s, cs => .ok (s, cs)
  | _, _, [] => .error .malformed
  | fuel + 1, s, c :: cs =>
    if c = '-' then
      readHyphens verbose fuel (s.push (· == '-') memberWeight) (skipVerbose verbose cs)
    else .ok (s, c :: cs)

/-- Reads the beginning of a set after its bracket: a negation, hyphens, and a closing bracket that
stands for itself because nothing is before it. -/
def readSetStart (f : Flags) (cs : List Char) : Except PatternError (Read OpenSet) := do
  let (negated, rest) := match skipVerbose f.verbose cs with
    | '^' :: more => (true, skipVerbose f.verbose more)
    | rest => (false, rest)
  let (s, rest) ←
    readHyphens f.verbose (rest.length + 1) (.start negated) rest
  match rest with
  | [] => .error .malformed
  | ']' :: more =>
    if s.weight = setWeight then
      match skipVerbose f.verbose more with
      | [] => .error .malformed
      | after => return (s.push (· == ']') memberWeight, after)
    else return (s, rest)
  | _ => return (s, rest)

/-- Reads a single member of a set. -/
def readMember (f : Flags) : List Char → Except PatternError (Read Primitive)
  | [] => .error .malformed
  | '\\' :: rest => readEscape f rest
  | c :: rest => .ok (.literal c, rest)

/-- A literal that may stand in a set. -/
def Flags.admit (f : Flags) (c : Char) : Except PatternError Char :=
  if !f.unicode && 0x7F < c.toNat then .error .malformed else .ok c

/-- Reads a member of a set or a range. A hyphen before a closing bracket or another hyphen makes
no range. -/
def readItem (f : Flags) (cs : List Char) : Except PatternError (Read (CharSet × Nat)) := do
  let (first, rest) ← readMember f cs
  let single : Except PatternError (Read (CharSet × Nat)) :=
    let rest := skipVerbose f.verbose rest
    match first with
    | .literal c => do
      let c ← f.admit c
      return ((fun d => d == c, memberWeight), rest)
    | .set p weight => .ok ((p, weight), rest)
    | _ => .error .malformed
  match skipVerbose f.verbose rest with
  | [] => .error .malformed
  | '-' :: more =>
    match skipVerbose f.verbose more with
    | [] => .error .malformed
    | c :: after =>
      if c = ']' ∨ c = '-' then single
      else
        let (last, rest) ← readMember f (c :: after)
        match first, last with
        | .literal a, .literal b =>
          let a ← f.admit a
          let b ← f.admit b
          if b < a then .error .malformed
          else return ((CharSet.range a b, 24), rest)
        | _, _ => .error .malformed
  | _ => single

/-- Reads a set up to the bracket that closes the outermost open one. Each step takes a character
at least. -/
def readSetBody (f : Flags) :
    Nat → List OpenSet → List Char → Except PatternError (Read (CharSet × Nat))
  | 0, _, _ => .error .malformed
  | _, [], _ => .error .malformed
  | fuel + 1, s :: outer, cs => do
    match skipVerbose f.verbose cs with
    | [] => .error .malformed
    | '[' :: rest =>
      match readAsciiSet? rest with
      | some (p, negated, after) =>
        let q ← f.finish negated (f.fold p)
        readSetBody f fuel (s.push q 48 :: outer) after
      | none =>
        let (inner, after) ← readSetStart f rest
        readSetBody f fuel (inner :: s :: outer) after
    | ']' :: rest =>
      let p ← s.close f
      match outer with
      | [] => return ((p, s.weight), rest)
      | t :: more => readSetBody f fuel (t.push p s.weight :: more) rest
    | '&' :: '&' :: rest => readSetBody f fuel (s.operate f .inter :: outer) rest
    | '-' :: '-' :: rest => readSetBody f fuel (s.operate f .diff :: outer) rest
    | '~' :: '~' :: rest => readSetBody f fuel (s.operate f .symmDiff :: outer) rest
    | cs =>
      let ((p, weight), rest) ← readItem f cs
      readSetBody f fuel (s.push p weight :: outer) rest

/-- Reads a set in brackets, after its opening bracket. -/
def readSet (f : Flags) (cs : List Char) : Except PatternError (Read (CharSet × Nat)) := do
  let (s, rest) ← readSetStart f cs
  readSetBody f (rest.length + 1) [s] rest

end MicroTemplate.Regex
