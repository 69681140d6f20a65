import MicroTemplate.Member.Property
import MicroTemplate.Proofs.Number.Decimal

/-!
# Thousands are set apart by commas only

A comma stands before a digit exactly if the digits from there on make up whole groups of three. So
the digits are cut into groups, of which only the first may have less than three digits, and without
the commas they are what they were.
-/

namespace MicroTemplate.Number

/-- Digits in groups, of which the first may be shorter than three digits. -/
structure Thousands where
  /-- The first group. -/
  first : List Char
  /-- All other groups. -/
  others : List (List Char)
  /-- The first group has one to three digits. -/
  length_first : 1 ≤ first.length ∧ first.length ≤ 3
  /-- The others have three. -/
  length_others : ∀ group ∈ others, group.length = 3

namespace Thousands

/-- The groups one after the other. -/
def digits (t : Thousands) : List Char := t.first ++ t.others.flatten

/-- The groups with commas between them. -/
def text (t : Thousands) : List Char := [','].intercalate (t.first :: t.others)

theorem length_digits (t : Thousands) : t.digits.length = t.first.length + 3 * t.others.length := by
  have threes : t.others.map List.length = List.replicate t.others.length 3 :=
    List.map_eq_replicate_iff.2 t.length_others
  rw [digits, List.length_append, List.length_flatten, threes, List.sum_replicate]
  simp [Nat.mul_comm]

end Thousands

/-- Digits are written in groups. Where a digit more stands in front of the groups of the others, it
is a group by itself if the first of them is full, and belongs to that one if not. -/
theorem exists_thousands {ds : List Char} (h : ds ≠ []) :
    ∃ t : Thousands, t.digits = ds ∧ t.text = groupDigits ds := by
  induction ds with
  | nil => exact absurd rfl h
  | cons d ds ih =>
    by_cases last : ds = []
    · subst last
      exact ⟨⟨[d], [], by simp, by simp⟩, rfl, rfl⟩
    · obtain ⟨t, same, written⟩ := ih last
      have count := t.length_digits
      rw [same] at count
      obtain ⟨short, long⟩ := t.length_first
      by_cases whole : ds.length % 3 = 0
      · have full : t.first.length = 3 := by omega
        refine ⟨⟨[d], t.first :: t.others, by simp, ?_⟩, ?_, ?_⟩
        · exact List.forall_mem_cons.2 ⟨full, t.length_others⟩
        · rw [← same]
          rfl
        · rw [groupDigits, if_pos (by simp [last, whole]), ← written, Thousands.text,
            List.intercalate_cons_cons]
          rfl
      · have room : t.first.length < 3 := by omega
        refine ⟨⟨d :: t.first, t.others, by simpa using Nat.succ_le_of_lt room, t.length_others⟩,
          ?_, ?_⟩
        · rw [← same]
          rfl
        · rw [groupDigits, if_neg (by simp [last, whole]), ← written, Thousands.text,
            List.intercalate_cons_cons_left]
          rfl

/-- Without the commas, digits are what they were before they were grouped. -/
theorem filter_groupDigits {ds : List Char} (h : ',' ∉ ds) :
    (groupDigits ds).filter (· != ',') = ds := by
  fun_induction groupDigits ds with
  | case1 => rfl
  | case2 d ds _ ih =>
    obtain ⟨hd, hds⟩ := not_or.1 (mt List.mem_cons.2 h)
    simp [Ne.symm hd, ih hds]
  | case3 d ds _ ih =>
    obtain ⟨hd, hds⟩ := not_or.1 (mt List.mem_cons.2 h)
    simp [Ne.symm hd, ih hds]

/-- The sign of an integer in decimal. -/
def minus (n : ℤ) : List Char := if n < 0 then ['-'] else []

theorem write_eq_minus (n : ℤ) : write n = minus n ++ digits n.natAbs := by
  rw [write, minus]
  split <;> rfl

theorem writeGrouped_eq_minus (n : ℤ) :
    writeGrouped n = minus n ++ groupDigits (digits n.natAbs) := by
  rw [writeGrouped, minus]
  split <;> rfl

/-- Without the commas, a grouped integer is the integer in decimal. -/
theorem filter_writeGrouped (n : ℤ) : (writeGrouped n).filter (· != ',') = write n := by
  have none : ',' ∉ digits n.natAbs := fun mem => absurd (isDigit_of_mem_digits mem) (by decide)
  have sign : (minus n).filter (· != ',') = minus n := by
    rw [minus]
    split <;> rfl
  rw [writeGrouped_eq_minus, List.filter_append, sign, filter_groupDigits none, write_eq_minus]

end MicroTemplate.Number

namespace MicroTemplate.Value

open Number

variable {α : Type} [HostObject α] (types : Option (TypeRegistry α))

/-- Thousands are set apart by commas only. The text that an integer is given as becomes its plain
decimal form when the commas are removed. It is a minus sign, if the integer is negative, and groups
of digits with commas between them, the first of one to three digits and all others of three. -/
theorem numberFormat_thousands (n : Int64) :
    ∃ text : String,
      (Value.int n : Value α).property types "NumberFormat" = .text text ∧
      (String.ofList (text.toList.filter (· != ',')) = (Value.int n : Value α).write ∧
        (Value.int n : Value α).write = toString n) ∧
      ∃ t : Thousands, text.toList = minus n.toInt ++ t.text ∧
        ∀ c ∈ t.digits, c.isDigit = true := by
  obtain ⟨t, digits, text⟩ := exists_thousands (digits_ne_nil n.toInt.natAbs)
  refine ⟨.ofList (writeGrouped n.toInt), rfl, ⟨?_, ofList_write n.toInt⟩, t, ?_, ?_⟩
  · rw [String.toList_ofList, filter_writeGrouped]
    rfl
  · rw [String.toList_ofList, writeGrouped_eq_minus, text]
  · rw [digits]
    exact fun c mem => isDigit_of_mem_digits mem

-- The least integer is minus one more than the greatest.
example : (Value.int Int64.minValue : Value Empty).property none "NumberFormat" =
    .text "-9,223,372,036,854,775,808" := by
  cbv

end MicroTemplate.Value
