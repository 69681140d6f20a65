import Mathlib
import MicroTemplate.Encoding.Url
import MicroTemplate.Text.Utf8

/-!
# Characters of a text among its bytes

A character below 128 is one byte, and the bytes of all other characters are at least 128. So such
a character is found among the bytes of a text exactly where it stands in the text, and as often;
and wherever the bytes are cut, what is there of a character that was cut has none of them.
-/

namespace MicroTemplate.Text

/-- The bytes of a text. -/
def bytes (text : List Char) : List UInt8 := text.flatMap String.utf8EncodeChar

@[simp] theorem bytes_nil : bytes [] = [] := rfl

@[simp] theorem bytes_cons (c : Char) (text : List Char) :
    bytes (c :: text) = String.utf8EncodeChar c ++ bytes text := rfl

@[simp] theorem bytes_append (text more : List Char) :
    bytes (text ++ more) = bytes text ++ bytes more := List.flatMap_append

@[simp] theorem length_bytes (text : List Char) : (bytes text).length = byteLength text := by
  induction text with
  | nil => rfl
  | cons c text ih =>
    rw [bytes_cons, List.length_append, String.length_utf8EncodeChar, ih, byteLength_cons]

/-- The bytes of an array are gone through from the first to the last. -/
theorem toList_loop (bytes : ByteArray) (i : ℕ) (read : List UInt8) :
    ByteArray.toList.loop bytes i read = read.reverse ++ bytes.data.toList.drop i := by
  fun_induction ByteArray.toList.loop bytes i read with
  | case1 i read within ih =>
    have next : bytes.data.toList.drop i = bytes.get! i :: bytes.data.toList.drop (i + 1) := by
      have inside : i < bytes.data.toList.length := within
      rw [List.drop_eq_getElem_cons inside]
      congr 1
      exact (getElem!_pos bytes.data i within).symm
    rw [ih, next]
    simp
  | case2 i read beyond =>
    have none : bytes.data.toList.drop i = [] := List.drop_eq_nil_of_le (Nat.le_of_not_lt beyond)
    rw [none, List.append_nil]

/-- The bytes of an array, as a list. -/
theorem toList_eq (bytes : ByteArray) : bytes.toList = bytes.data.toList := by
  rw [ByteArray.toList, toList_loop]
  rfl

/-- The bytes of a text are those of its characters, one after the other. -/
theorem utf8Bytes_eq (s : String) : Encoding.utf8Bytes s = bytes s.toList := by
  have stored : s.toUTF8.data.toList = bytes s.toList := by
    conv_lhs => rw [← String.ofList_toList (s := s)]
    exact List.toList_data_toByteArray
  rw [Encoding.utf8Bytes, toList_eq, stored]

/-! ## The bytes of one character -/

/-- A character below 128 is one byte. -/
theorem utf8EncodeChar_of_lt {c : Char} (h : c.toNat < 128) :
    String.utf8EncodeChar c = [c.toUInt8] := by
  have single : c.utf8Size = 1 := by
    rw [Char.utf8Size_eq_one_iff, UInt32.le_iff_toNat_le]
    exact Nat.le_of_lt_succ h
  exact String.utf8EncodeChar_eq_singleton single

/-- All bytes of the other characters are 128 or more. -/
theorem le_of_mem_utf8EncodeChar {c : Char} (h : 128 ≤ c.toNat) {b : UInt8}
    (mem : b ∈ String.utf8EncodeChar c) : 128 ≤ b.toNat := by
  have large : ¬c.val.toNat ≤ 127 := Nat.not_le_of_lt h
  have most : c.val.toNat < 1114112 := by
    have valid := c.valid
    simp only [UInt32.isValidChar, Nat.isValidChar] at valid
    omega
  rw [String.utf8EncodeChar, if_neg large] at mem
  -- The first byte has at least 192 added to it, and each byte after it 128.
  split at mem
  · simp only [List.mem_cons, List.not_mem_nil, or_false] at mem
    rcases mem with rfl | rfl <;> rw [UInt8.toNat_ofNat'] <;> omega
  · split at mem
    · simp only [List.mem_cons, List.not_mem_nil, or_false] at mem
      rcases mem with rfl | rfl | rfl <;> rw [UInt8.toNat_ofNat'] <;> omega
    · simp only [List.mem_cons, List.not_mem_nil, or_false] at mem
      rcases mem with rfl | rfl | rfl | rfl <;> rw [UInt8.toNat_ofNat'] <;> omega

theorem toNat_toUInt8 {c : Char} (h : c.toNat < 128) : c.toUInt8.toNat = c.toNat := by
  have byte : c.toUInt8.toNat = c.toNat % 256 := UInt32.toNat_toUInt8 c.val
  omega

variable {mark : Char} (hm : mark.toNat < 128)

include hm

/-- Only the character itself has its byte. -/
theorem mem_utf8EncodeChar_iff {c : Char} : mark.toUInt8 ∈ String.utf8EncodeChar c ↔ c = mark := by
  constructor
  · intro mem
    have byte := toNat_toUInt8 hm
    by_cases small : c.toNat < 128
    · rw [utf8EncodeChar_of_lt small, List.mem_singleton] at mem
      have same := congrArg UInt8.toNat mem
      rw [byte, toNat_toUInt8 small] at same
      exact (Char.toNat_inj.1 same).symm
    · have least := le_of_mem_utf8EncodeChar (Nat.le_of_not_lt small) mem
      omega
  · rintro rfl
    rw [utf8EncodeChar_of_lt hm]
    exact List.mem_singleton_self _

/-! ## The bytes of a text -/

/-- A character is as often among the bytes of a text as in the text. -/
theorem count_bytes (text : List Char) : (bytes text).count mark.toUInt8 = text.count mark := by
  induction text with
  | nil => rfl
  | cons c text ih =>
    rw [bytes_cons, List.count_append, ih]
    by_cases same : c = mark
    · subst same
      rw [utf8EncodeChar_of_lt hm, List.count_singleton_self, List.count_cons_self, Nat.add_comm]
    · have none := List.count_eq_zero.2 (mt (mem_utf8EncodeChar_iff hm).1 same)
      rw [none, Nat.zero_add, List.count_cons_of_ne same]

/-- Where the byte of a character is, the character stands in the text. -/
theorem exists_of_getElem?_bytes {text : List Char} {n : ℕ}
    (h : (bytes text)[n]? = some mark.toUInt8) :
    ∃ front back, text = front ++ mark :: back ∧ n = byteLength front := by
  induction text generalizing n with
  | nil => simp at h
  | cons c text ih =>
    rw [bytes_cons] at h
    have size := String.length_utf8EncodeChar c
    by_cases within : n < c.utf8Size
    · rw [List.getElem?_append_left (by omega)] at h
      obtain rfl := (mem_utf8EncodeChar_iff hm).1 (List.mem_of_getElem? h)
      have first : n = 0 := by
        rw [utf8EncodeChar_of_lt hm, List.length_singleton] at size
        omega
      exact ⟨[], text, rfl, first⟩
    · rw [List.getElem?_append_right (by omega)] at h
      obtain ⟨front, back, rfl, rest⟩ := ih h
      refine ⟨c :: front, back, rfl, ?_⟩
      rw [byteLength_cons]
      omega

omit hm

/-- The first bytes of a text are those of the characters before the cut, and those of a character
that was cut. -/
theorem exists_take_bytes (text : List Char) (n : ℕ) :
    ∃ front torn, front <+: text ∧ (bytes text).take n = bytes front ++ torn ∧
      ∀ b ∈ torn, 128 ≤ b.toNat := by
  induction text generalizing n with
  | nil => exact ⟨[], [], List.nil_prefix, by simp, by simp⟩
  | cons c text ih =>
    have size := String.length_utf8EncodeChar c
    by_cases within : n < c.utf8Size
    · refine ⟨[], (String.utf8EncodeChar c).take n, List.nil_prefix, ?_, fun b mem => ?_⟩
      · rw [bytes_cons, List.take_append_of_le_length (by omega)]
        rfl
      · by_cases small : c.toNat < 128
        · rw [utf8EncodeChar_of_lt small, List.length_singleton] at size
          have nothing : n = 0 := by omega
          rw [nothing, List.take_zero] at mem
          cases mem
        · exact le_of_mem_utf8EncodeChar (Nat.le_of_not_lt small) (List.mem_of_mem_take mem)
    · obtain ⟨front, torn, hf, cut, large⟩ := ih (n - c.utf8Size)
      refine ⟨c :: front, torn, (List.prefix_cons_inj c).2 hf, ?_, large⟩
      rw [bytes_cons, List.take_append, size, cut, List.take_of_length_le (by omega), bytes_cons,
        List.append_assoc]

end MicroTemplate.Text
