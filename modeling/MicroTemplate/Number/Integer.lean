/-!
# Integers of 64 bits

The integers of the language are signed and 64 bits wide; arithmetic on them is done in `Int` and
narrowed afterwards, so that a result out of range is noticed and never wrapped. Their text is
decimal: writing has no leading zero and no plus sign, reading admits both.
-/

namespace MicroTemplate.Number

/-- The integer as a value of 64 bits, if it lies in range. -/
def narrow? (n : Int) : Option Int64 :=
  if -9223372036854775808 ≤ n ∧ n ≤ 9223372036854775807 then some (Int64.ofInt n) else none

theorem toInt_of_narrow? {n : Int} {k : Int64} (h : narrow? n = some k) : k.toInt = n := by
  unfold narrow? at h
  split at h
  · next hn =>
    cases h
    exact Int64.toInt_ofInt_of_le (by omega) (by omega)
  · cases h

theorem narrow?_toInt (k : Int64) : narrow? k.toInt = some k := by
  have h₁ := k.le_toInt
  have h₂ := k.toInt_lt
  have h₃ : (-9223372036854775808 : Int) ≤ k.toInt ∧ k.toInt ≤ 9223372036854775807 := by omega
  rw [narrow?, if_pos h₃, Int64.ofInt_toInt]

/-- The integer of 64 bits that is next to an integer: the least or the greatest one, if the integer
lies out of range. -/
def saturate (n : Int) : Int64 :=
  Int64.ofInt (max (-9223372036854775808) (min n 9223372036854775807))

/-- The character of a decimal digit. -/
def digitChar (d : Nat) : Char := Char.ofNat (48 + d)

/-- The decimal digits of a natural number, without leading zeros. -/
def digits (n : Nat) : List Char :=
  if n < 10 then [digitChar n] else digits (n / 10) ++ [digitChar (n % 10)]

/-- A natural number in decimal, as a text. -/
def decimal (n : Nat) : String := .ofList (digits n)

/-- The decimal digits of a natural number, with zeros in front up to `width` of them. -/
def padded (width n : Nat) : List Char :=
  let ds := digits n
  List.replicate (width - ds.length) '0' ++ ds

/-- An integer in decimal. -/
def write (n : Int) : List Char :=
  if n < 0 then '-' :: digits n.natAbs else digits n.natAbs

/-- Whether a text is one or more of the digits from 0 to 9. -/
def isDigits (cs : List Char) : Bool := !cs.isEmpty && cs.all Char.isDigit

/-- The number that digits denote. -/
def ofDigits (cs : List Char) : Nat := cs.foldl (fun n c => 10 * n + (c.toNat - 48)) 0

/-- The number that a text of digits denotes. -/
def readNat? (cs : List Char) : Option Nat :=
  if isDigits cs then some (ofDigits cs) else none

/-- The integer that a text of digits with at most one sign denotes. -/
def readInt? : List Char → Option Int
  | '-' :: cs => (readNat? cs).map fun n => -(n : Int)
  | '+' :: cs => (readNat? cs).map fun n => (n : Int)
  | cs => (readNat? cs).map fun n => (n : Int)

/-- The 64-bit integer that a text denotes, if it denotes one in range. -/
def read? (cs : List Char) : Option Int64 := (readInt? cs).bind narrow?

end MicroTemplate.Number
