import Mathlib
import MicroTemplate.Value.Order

/-!
# The order of floating-point numbers

Two floating-point numbers are less, equal or greater, or have no order because one of them is
undefined. Swapping the numbers turns their order around. Equality, which holds between the two
zeros and never of the undefined number, is symmetric and transitive.
-/

namespace MicroTemplate.Number

open Float.Model

/-! ## Equality -/

theorem float_beq_comm (x y : Float) : (x == y) = (y == x) := by
  have symm {x y : Float} (h : (x == y) = true) : (y == x) = true := by
    rw [Float.beq_iff_ne_nan_and_eq] at h ⊢
    obtain ⟨hx, hy, rfl | ⟨hx', hy'⟩ | ⟨hx', hy'⟩⟩ := h
    · exact ⟨hx, hy, .inl rfl⟩
    · exact ⟨hy, hx, .inr (.inr ⟨hy', hx'⟩)⟩
    · exact ⟨hy, hx, .inr (.inl ⟨hy', hx'⟩)⟩
  exact Bool.eq_iff_iff.2 ⟨symm, symm⟩

/-- What is equal to a zero is a zero of either sign. -/
theorem float_beq_trans {x y z : Float} (h : (x == y) = true) (h' : (y == z) = true) :
    (x == z) = true := by
  have signs : (-0 : Float) ≠ 0 := by decide
  rw [Float.beq_iff_ne_nan_and_eq] at h h' ⊢
  obtain ⟨hx, -, first⟩ := h
  obtain ⟨-, hz, second⟩ := h'
  refine ⟨hx, hz, ?_⟩
  rcases first with rfl | ⟨rfl, rfl⟩ | ⟨rfl, rfl⟩
  · exact second
  · rcases second with rfl | ⟨zero, _⟩ | ⟨_, rfl⟩
    · exact .inr (.inl ⟨rfl, rfl⟩)
    · exact absurd zero signs
    · exact .inl rfl
  · rcases second with rfl | ⟨_, rfl⟩ | ⟨zero, _⟩
    · exact .inr (.inr ⟨rfl, rfl⟩)
    · exact .inl rfl
    · exact absurd zero.symm signs

/-! ## Order -/

/-- The order of two floating-point numbers, if they have one. -/
def floatOrder? (x y : Float) : Option Ordering := x.toModel.unpack.compare y.toModel.unpack

theorem unpacked_compare_swap (a b : UnpackedFloat) :
    b.compare a = (a.compare b).map Ordering.swap := by
  have size (e f : ℤ) (m n : ℕ) :
      ((compare e f).then (compare m n)).swap = (compare f e).then (compare n m) := by
    rw [Ordering.swap_then, Std.OrientedOrd.eq_swap (a := f), Std.OrientedOrd.eq_swap (a := n)]
  cases a with
  | notANumber => cases b <;> rfl
  | infinity s =>
    cases b with
    | infinity t => cases s <;> cases t <;> rfl
    | _ => cases s <;> rfl
  | zero s =>
    cases b with
    | notANumber => rfl
    | zero t => rfl
    | infinity t => cases t <;> rfl
    | finite t n f hn => cases t <;> rfl
  | finite s m e hm =>
    cases b with
    | notANumber => rfl
    | infinity t => cases t <;> rfl
    | zero t => cases s <;> rfl
    | finite t n f hn => cases s <;> cases t <;> simp [UnpackedFloat.compare, size]

/-- Only what is no number has no order. -/
theorem unpacked_compare_eq_none_iff {a b : UnpackedFloat} :
    a.compare b = none ↔ a.isNaN = true ∨ b.isNaN = true := by
  cases a with
  | notANumber => exact iff_of_true rfl (.inl rfl)
  | infinity s => cases s <;> cases b <;> simp [UnpackedFloat.compare, UnpackedFloat.isNaN]
  | zero s =>
    cases b with
    | infinity t => cases t <;> simp [UnpackedFloat.compare, UnpackedFloat.isNaN]
    | finite t n f hn => cases t <;> simp [UnpackedFloat.compare, UnpackedFloat.isNaN]
    | _ => simp [UnpackedFloat.compare, UnpackedFloat.isNaN]
  | finite s m e hm =>
    cases s <;> cases b with
    | notANumber | zero t => simp [UnpackedFloat.compare, UnpackedFloat.isNaN]
    | infinity t => cases t <;> simp [UnpackedFloat.compare, UnpackedFloat.isNaN]
    | finite t n f hn => cases t <;> simp [UnpackedFloat.compare, UnpackedFloat.isNaN]

theorem floatOrder?_swap (x y : Float) : floatOrder? y x = (floatOrder? x y).map Ordering.swap :=
  unpacked_compare_swap _ _

theorem floatOrder?_eq_none_iff {x y : Float} :
    floatOrder? x y = none ↔ x.isNaN = true ∨ y.isNaN = true :=
  unpacked_compare_eq_none_iff

theorem lt_iff_floatOrder? {x y : Float} : x < y ↔ floatOrder? x y = some .lt := by
  change decide (UnpackedFloat.lt _ _ = true) = true ↔ _
  simp [UnpackedFloat.lt, floatOrder?]

theorem beq_iff_floatOrder? {x y : Float} : (x == y) = true ↔ floatOrder? x y = some .eq := by
  change UnpackedFloat.beq _ _ = true ↔ _
  simp [UnpackedFloat.beq, floatOrder?]

/-- Values that are floating-point numbers are compared by their order, and are less without one. -/
theorem compareFloats_eq (x y : Float) :
    Value.compareFloats x y = (floatOrder? x y).getD .lt := by
  have turned : y < x ↔ floatOrder? x y = some .gt := by
    rw [lt_iff_floatOrder?, floatOrder?_swap, Option.map_eq_some_iff]
    simp [Ordering.swap_eq_lt]
  rw [Value.compareFloats]
  simp only [lt_iff_floatOrder?, beq_iff_floatOrder?, turned]
  cases h : floatOrder? x y with
  | none => rfl
  | some o => cases o <;> simp

end MicroTemplate.Number
