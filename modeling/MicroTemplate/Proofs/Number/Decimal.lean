import Mathlib
import MicroTemplate.Number.Integer

/-!
# Decimal digits are read back

What is written for a natural number consists of digits and denotes that number, and zeros in front
do not change what digits denote. With its sign it is the standard decimal form. A field of fixed
width holds every number that has no more digits than it has places.
-/

namespace MicroTemplate.Number

/-! ## The standard decimal form -/

/-- The decimal form is that of the library. -/
theorem digits_eq_toDigits (n : ℕ) : digits n = Nat.toDigits 10 n := by
  have same : ∀ d < 10, digitChar d = Nat.digitChar d := by decide
  fun_induction digits n with
  | case1 n small => rw [Nat.toDigits_of_lt_base small, same n small]
  | case2 n large ih =>
    rw [Nat.toDigits_of_base_le (by decide) (by omega), ih, same (n % 10) (by omega)]

/-- What is written for an integer is its standard decimal form. -/
theorem ofList_write (n : ℤ) : String.ofList (write n) = toString n := by
  rw [write, digits_eq_toDigits]
  cases n with
  | ofNat m =>
    rw [if_neg (by simp)]
    exact Nat.repr_eq_ofList_toDigits.symm
  | negSucc m =>
    rw [if_pos (Int.negSucc_lt_zero m), String.ofList_cons, ← Nat.repr_eq_ofList_toDigits]
    rfl

/-- What digits denote is their decimal value. -/
theorem ofDigits_eq_ofDigitChars (cs : List Char) : ofDigits cs = Nat.ofDigitChars 10 cs 0 :=
  Nat.ofDigitChars_eq_foldl.symm

/-! ## Digits -/

/-- What is written for a number denotes it. -/
theorem ofDigits_digits (n : ℕ) : ofDigits (digits n) = n := by
  rw [ofDigits_eq_ofDigitChars, digits_eq_toDigits, Nat.ofDigitChars_ten_toDigits]

/-- What is written for a number are digits. -/
theorem isDigit_of_mem_digits {n : ℕ} {c : Char} (h : c ∈ digits n) : c.isDigit = true := by
  rw [digits_eq_toDigits] at h
  exact Nat.isDigit_of_mem_toDigits (by decide) (by decide) h

theorem digits_ne_nil (n : ℕ) : digits n ≠ [] := by
  rw [digits_eq_toDigits]
  exact Nat.toDigits_ne_nil

/-- Digits are some characters, all of them from 0 to 9. -/
theorem isDigits_iff {cs : List Char} :
    isDigits cs = true ↔ cs ≠ [] ∧ ∀ c ∈ cs, c.isDigit = true := by
  simp [isDigits]

/-- Digits are read as the number that they denote. -/
theorem readNat?_of_isDigits {cs : List Char} (h : isDigits cs = true) :
    readNat? cs = some (ofDigits cs) := by
  rw [readNat?, if_pos h]

/-- The decimal form of a number is made of digits. -/
theorem isDigits_digits (n : ℕ) : isDigits (digits n) = true :=
  isDigits_iff.2 ⟨digits_ne_nil n, fun _ => isDigit_of_mem_digits⟩

/-- A number is read from what is written for it. -/
theorem readNat?_digits (n : ℕ) : readNat? (digits n) = some n := by
  rw [readNat?_of_isDigits (isDigits_digits n), ofDigits_digits]

/-! ## Fields of fixed width -/

/-- A number has no more digits than a power of ten above it has zeros. -/
theorem length_digits_le {n k : ℕ} (hk : 0 < k) (h : n < 10 ^ k) : (digits n).length ≤ k := by
  rw [digits_eq_toDigits]
  exact (Nat.length_toDigits_le_iff (by decide) hk).2 h

/-- A number that fits into a field fills it. -/
theorem length_padded {width n : ℕ} (hw : 0 < width) (h : n < 10 ^ width) :
    (padded width n).length = width := by
  have fits := length_digits_le hw h
  rw [padded, List.length_append, List.length_replicate]
  omega

/-- Zeros in front do not change what digits denote. -/
theorem ofDigits_replicate_append (k : ℕ) (cs : List Char) :
    ofDigits (List.replicate k '0' ++ cs) = ofDigits cs := by
  induction k with
  | zero => rfl
  | succ k ih => exact ih

theorem isDigit_of_mem_replicate_append {k n : ℕ} {c : Char}
    (h : c ∈ List.replicate k '0' ++ digits n) : c.isDigit = true := by
  rcases List.mem_append.1 h with zero | digit
  · rw [List.eq_of_mem_replicate zero]
    rfl
  · exact isDigit_of_mem_digits digit

theorem isDigit_of_mem_padded {width n : ℕ} {c : Char} (h : c ∈ padded width n) :
    c.isDigit = true :=
  isDigit_of_mem_replicate_append h

/-- A number is read from a field that it is written into. -/
theorem readNat?_padded (width n : ℕ) : readNat? (padded width n) = some n := by
  have written : isDigits (padded width n) = true :=
    isDigits_iff.2 ⟨by simp [padded, digits_ne_nil], fun _ => isDigit_of_mem_padded⟩
  rw [readNat?_of_isDigits written, padded, ofDigits_replicate_append, ofDigits_digits]

end MicroTemplate.Number
