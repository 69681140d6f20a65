/-!
# Sets of code points

A set of characters is kept as inclusive ranges of code points in increasing order and searched by
halving. A listing writes such a set down in hexadecimal, as in `0041-005A 0061-007A 00AA`.
-/

namespace MicroTemplate.Unicode

/-- The value of a hexadecimal digit. -/
def hexDigit? (c : Char) : Option Nat :=
  if '0' ≤ c ∧ c ≤ '9' then some (c.toNat - 48)
  else if 'a' ≤ c ∧ c ≤ 'f' then some (c.toNat - 87)
  else if 'A' ≤ c ∧ c ≤ 'F' then some (c.toNat - 55)
  else none

/-- A set of code points, as inclusive ranges in increasing order. -/
structure CodeRanges where
  /-- First and last code point of each range. -/
  ranges : Array (Nat × Nat)

namespace CodeRanges

/-- What has been read of a listing. -/
structure Reading where
  /-- The ranges before the current one. -/
  done : Array (Nat × Nat)
  /-- The first code point of the current range, once its hyphen has been seen. -/
  first : Option Nat
  /-- The number being read. -/
  value : Nat

/-- Takes one more character of a listing. -/
def Reading.next (r : Reading) (c : Char) : Reading :=
  match hexDigit? c with
  | some d => { r with value := 16 * r.value + d }
  | none =>
    if c = '-' then { r with first := some r.value, value := 0 }
    else { done := r.done.push (r.first.getD r.value, r.value), first := none, value := 0 }

/-- The set that the lines of a listing write down: ranges and single code points in hexadecimal,
each apart from the next on its line by one space. -/
def read (listing : List String) : CodeRanges :=
  ⟨(listing.foldl (fun (r : Reading) line => (line.foldl Reading.next r).next ' ')
    ⟨#[], none, 0⟩).done⟩

/-- Whether one of the ranges from `low` up to and not with `high` holds the code point `n`. -/
def search (ranges : Array (Nat × Nat)) (n low high : Nat) : Bool :=
  if _h : low < high then
    let middle := (low + high) / 2
    match ranges[middle]? with
    | none => false
    | some (first, last) =>
      if n < first then search ranges n low middle
      else if last < n then search ranges n (middle + 1) high
      else true
  else false
termination_by high - low

/-- Whether the set holds a character. -/
def contains (set : CodeRanges) (c : Char) : Bool :=
  search set.ranges c.toNat 0 set.ranges.size

end CodeRanges

end MicroTemplate.Unicode
