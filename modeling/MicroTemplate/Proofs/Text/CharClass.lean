import Mathlib
import MicroTemplate.Expression.Name

/-!
# White space is no part of words

The classes of characters come from tables that are written as text and searched by halving. A
character that the search finds lies in a range of one of the lines, so a character that no line
holds is not in the class. White space is shown in this way to be neither a letter nor a number
sign: an expression can be cut into words and white space in one way only.
-/

namespace MicroTemplate.Unicode.CodeRanges

/-- The ranges that the rest of a line writes down; `first` is the first code point of the current
range, once its hyphen has been seen, and `value` the number being read. -/
def rangesOf (first : Option Nat) (value : Nat) : List Char → List (Nat × Nat)
  | [] => [(first.getD value, value)]
  | c :: cs =>
    match hexDigit? c with
    | some d => rangesOf first (16 * value + d) cs
    | none =>
      if c = '-' then rangesOf (some value) 0 cs
      else (first.getD value, value) :: rangesOf none 0 cs

/-- Reading a line to the space behind it adds its ranges to those before. -/
theorem foldl_next (cs : List Char) (r : Reading) :
    (cs.foldl Reading.next r).next ' ' =
      ⟨r.done ++ (rangesOf r.first r.value cs).toArray, none, 0⟩ := by
  induction cs generalizing r with
  | nil =>
    have space : r.next ' ' = ⟨r.done.push (r.first.getD r.value, r.value), none, 0⟩ := rfl
    rw [List.foldl_nil, space, rangesOf]
    simp
  | cons c cs ih =>
    rw [List.foldl_cons, ih, rangesOf, Reading.next]
    cases hexDigit? c with
    | some d => rfl
    | none =>
      by_cases hc : c = '-'
      · simp only [hc, if_true]
      · simp [hc]

/-- A set has the ranges of the lines that write it down. -/
theorem ranges_read (listing : List String) :
    (read listing).ranges.toList = listing.flatMap (rangesOf none 0 ·.toList) := by
  have lines (earlier : Array (Nat × Nat)) :
      (listing.foldl (fun (r : Reading) line => (line.foldl Reading.next r).next ' ')
        ⟨earlier, none, 0⟩).done.toList =
        earlier.toList ++ listing.flatMap (rangesOf none 0 ·.toList) := by
    induction listing generalizing earlier with
    | nil => simp
    | cons line listing ih =>
      rw [List.foldl_cons, String.foldl_eq_foldl_toList, foldl_next, ih]
      simp
  have whole := lines #[]
  simpa [read] using whole

/-- What the search finds lies in one of the ranges. -/
theorem exists_of_search {ranges : Array (Nat × Nat)} {n low high : Nat}
    (h : search ranges n low high = true) : ∃ range ∈ ranges.toList, range.1 ≤ n ∧ n ≤ range.2 := by
  fun_induction search ranges n low high with
  | case1 low high hlt middle hm => cases h
  | case2 low high hlt middle first last hm hn ih => exact ih h
  | case3 low high hlt middle first last hm hn hl ih => exact ih h
  | case4 low high hlt middle first last hm hn hl =>
    have hmem : (first, last) ∈ ranges := Array.mem_of_getElem? hm
    exact ⟨(first, last), hmem.val, by omega, by omega⟩
  | case5 low high hlt => cases h

/-- Whether no range of a line meets one of some other ranges. -/
def isApart (gaps : List (Nat × Nat)) (line : List Char) : Bool :=
  (rangesOf none 0 line).all fun range =>
    gaps.all fun gap => Nat.blt range.2 gap.1 || Nat.blt gap.2 range.1

/-- The listings none of whose lines meets one of some ranges. The lines are given by their
characters, which is how they can be computed with. -/
inductive Apart (gaps : List (Nat × Nat)) : List String → Prop where
  /-- No lines. -/
  | nil : Apart gaps []
  /-- One more line. -/
  | cons {line listing} (h : isApart gaps line = true) (rest : Apart gaps listing) :
    Apart gaps (String.ofList line :: listing)

variable {gaps : List (Nat × Nat)} {listing : List String}

theorem Apart.isApart (h : Apart gaps listing) {line : String} (hl : line ∈ listing) :
    isApart gaps line.toList = true := by
  induction h with
  | nil => cases hl
  | cons hline _ ih =>
    rcases List.mem_cons.1 hl with rfl | hl
    · rwa [String.toList_ofList]
    · exact ih hl

/-- A set does not hold what lies in ranges that none of its lines meets. -/
theorem Apart.contains_eq_false (h : Apart gaps listing) {gap : Nat × Nat} (hg : gap ∈ gaps)
    {c : Char} (hl : gap.1 ≤ c.toNat) (hu : c.toNat ≤ gap.2) :
    (read listing).contains c = false := by
  by_contra hc
  have found : search (read listing).ranges c.toNat 0 (read listing).ranges.size = true := by
    simpa [contains] using hc
  obtain ⟨range, hr, hlow, hhigh⟩ := exists_of_search found
  rw [ranges_read] at hr
  obtain ⟨line, hline, hrange⟩ := List.mem_flatMap.1 hr
  have apart := List.all_eq_true.1 (List.all_eq_true.1 (h.isApart hline) range hrange) gap hg
  simp only [Bool.or_eq_true, Nat.blt_eq] at apart
  omega

end MicroTemplate.Unicode.CodeRanges

namespace MicroTemplate.Text

open Unicode

/-- The white space beyond the first 128 code points, as inclusive ranges. -/
def wideSpaces : List (Nat × Nat) :=
  [(0x85, 0x85), (0xA0, 0xA0), (0x1680, 0x1680), (0x2000, 0x200A), (0x2028, 0x2029),
    (0x202F, 0x202F), (0x205F, 0x205F), (0x3000, 0x3000)]

theorem cases_of_isSpace {c : Char} (h : isSpace c = true) :
    c = ' ' ∨ (9 ≤ c.toNat ∧ c.toNat ≤ 13) ∨
      ∃ gap ∈ wideSpaces, gap.1 ≤ c.toNat ∧ c.toNat ≤ gap.2 := by
  by_cases hc : c = ' '
  · exact .inl hc
  · refine .inr ?_
    simp only [isSpace, beq_iff_eq, hc, Bool.or_eq_true, Bool.and_eq_true, decide_eq_true_eq,
      false_or] at h
    simp only [wideSpaces, List.mem_cons, List.not_mem_nil, exists_eq_or_imp, or_false,
      exists_eq_left]
    omega

theorem alphabetic_apart {c : Char} {gap : Nat × Nat} (hg : gap ∈ wideSpaces)
    (hl : gap.1 ≤ c.toNat) (hu : c.toNat ≤ gap.2) : alphabetic.contains c = false := by
  rw [alphabetic]
  refine CodeRanges.Apart.contains_eq_false ?_ hg hl hu
  repeat' first | exact .nil | refine .cons (by decide +kernel) ?_

theorem numeric_apart {c : Char} {gap : Nat × Nat} (hg : gap ∈ wideSpaces)
    (hl : gap.1 ≤ c.toNat) (hu : c.toNat ≤ gap.2) :
    GeneralCategory.Nd.holds c = false ∧ GeneralCategory.Nl.holds c = false ∧
      GeneralCategory.No.holds c = false := by
  rw [GeneralCategory.holds, GeneralCategory.holds, GeneralCategory.holds,
    GeneralCategory.ranges, GeneralCategory.ranges, GeneralCategory.ranges,
    GeneralCategory.rangesNd, GeneralCategory.rangesNl, GeneralCategory.rangesNo]
  refine ⟨?_, ?_, ?_⟩ <;>
    refine CodeRanges.Apart.contains_eq_false ?_ hg hl hu <;>
    repeat' first | exact .nil | refine .cons (by decide +kernel) ?_

/-- White space is neither a letter nor a number sign. -/
theorem isAlphanumeric_of_isSpace {c : Char} (h : isSpace c = true) :
    isAlphanumeric c = false := by
  rcases cases_of_isSpace h with rfl | hc | ⟨gap, hg, hl, hu⟩
  · decide
  · have control : ∀ n, 9 ≤ n ∧ n ≤ 13 → isAlphanumeric (Char.ofNat n) = false := by
      intro n ⟨hl, hu⟩
      interval_cases n <;> decide
    have plain := control c.toNat hc
    rwa [Char.ofNat_toNat] at plain
  · have wide : ∀ gap ∈ wideSpaces, 128 ≤ gap.1 := by decide
    have hw : ¬c.toNat < 128 := by
      have := wide gap hg
      omega
    obtain ⟨decimal, letter, other⟩ := numeric_apart hg hl hu
    simp only [isAlphanumeric, isAlphabetic, isNumeric, if_neg hw, alphabetic_apart hg hl hu,
      decimal, letter, other, Bool.or_false]

end MicroTemplate.Text

namespace MicroTemplate.Expression

open Text

/-- White space is no part of words. -/
theorem isWordChar_of_isSpace {c : Char} (h : isSpace c = true) : isWordChar c = false := by
  have hu : (c == '_') = false := by
    by_contra hc
    have heq : c = '_' := by simpa using hc
    rw [heq] at h
    cases h
  rw [isWordChar, isAlphanumeric_of_isSpace h, hu]
  rfl

theorem isSpace_of_isWordChar {c : Char} (h : isWordChar c = true) : isSpace c = false := by
  by_contra hs
  have word := isWordChar_of_isSpace (by simpa using hs)
  rw [h] at word
  cases word

end MicroTemplate.Expression
