import MicroTemplate.Unicode.CodeRanges

/-!
# Runs of case pairs

A mapping between characters of two cases is kept as runs: code points at equal distances that are
all moved by the same amount. A run is written `0101/012F-1` where every other code point is moved,
`00E0~00F6-20` where each one is, and `00FF+79` where it is a single one.
-/

namespace MicroTemplate.Unicode

/-- Code points at equal distances that a mapping moves by one amount. -/
structure CaseRun where
  /-- The first code point that is moved. -/
  first : Nat
  /-- The last code point that is moved. -/
  last : Nat
  /-- The distance from one moved code point to the next. -/
  step : Nat
  /-- The amount added to each. -/
  shift : Int

/-- Whether a run moves a code point. -/
def CaseRun.moves (r : CaseRun) (n : Nat) : Bool :=
  r.first ≤ n && n ≤ r.last && (n - r.first) % r.step == 0

/-- A mapping between characters that leaves all but the listed ones alone. -/
structure CaseRuns where
  /-- The runs, disjoint and in increasing order. -/
  runs : List CaseRun

namespace CaseRuns

/-- What has been read of a list of runs. -/
structure Reading where
  /-- The runs before the current one, the last of them first. -/
  done : List CaseRun
  /-- The first code point and the distance, once the mark between first and last has been seen. -/
  start : Option (Nat × Nat)
  /-- The last code point and the sign, once the sign of the amount has been seen. -/
  stop : Option (Nat × Int)
  /-- The number being read. -/
  value : Nat

/-- Takes one more character of a list of runs. -/
def Reading.next (r : Reading) (c : Char) : Reading :=
  match hexDigit? c with
  | some d => { r with value := 16 * r.value + d }
  | none =>
    if c = '~' then { r with start := some (r.value, 1), value := 0 }
    else if c = '/' then { r with start := some (r.value, 2), value := 0 }
    else if c = '+' then { r with stop := some (r.value, 1), value := 0 }
    else if c = '-' then { r with stop := some (r.value, -1), value := 0 }
    else
      match r.stop with
      | none => { r with start := none, value := 0 }
      | some (last, sign) =>
        let (first, step) := r.start.getD (last, 1)
        { done := ⟨first, last, step, sign * r.value⟩ :: r.done, start := none, stop := none,
          value := 0 }

/-- The mapping that the lines of a list of runs write down, one space between a run and the next on
its line. -/
def read (listing : List String) : CaseRuns :=
  ⟨(listing.foldl (fun (r : Reading) line => (line.foldl Reading.next r).next ' ')
    ⟨[], none, none, 0⟩).done.reverse⟩

/-- The code point that the mapping gives for `n`; itself where no run moves it. -/
def map (m : CaseRuns) (n : Nat) : Nat :=
  match m.runs.find? (·.moves n) with
  | some r => (n + r.shift).toNat
  | none => n

/-- The code points that some run moves to `n`. -/
def sources (m : CaseRuns) (n : Nat) : List Nat :=
  m.runs.filterMap fun r =>
    let source := ((n : Int) - r.shift).toNat
    if r.moves source then some source else none

end CaseRuns

/-- What has been read of a list of sequences. -/
structure SequenceReading where
  /-- The sequences before the current one, the last of them first. -/
  done : List (Nat × List Nat)
  /-- The numbers of the current sequence, the last of them first. -/
  current : List Nat
  /-- The number being read. -/
  value : Nat

/-- Takes one more character of a list of sequences. -/
def SequenceReading.next (r : SequenceReading) (c : Char) : SequenceReading :=
  match hexDigit? c with
  | some d => { r with value := 16 * r.value + d }
  | none =>
    if c = '-' then { r with current := r.value :: r.current, value := 0 }
    else
      match (r.value :: r.current).reverse with
      | [] => r
      | first :: rest => { done := (first, rest) :: r.done, current := [], value := 0 }

/-- Sequences of code points written `00DF-0053-0053`, each as its first member and the others. -/
def readSequences (listing : List String) : List (Nat × List Nat) :=
  (listing.foldl (fun (r : SequenceReading) line => (line.foldl SequenceReading.next r).next ' ')
    ⟨[], [], 0⟩).done.reverse

end MicroTemplate.Unicode
