import Mathlib.Algebra.Order.Floor.Div
import Mathlib.Data.Rat.Floor

/-!
# Slices of a list

A list cut into slices of one width, the last of which may be shorter.

* `slice`: the slice after `n` others; `slice_eq_nil_iff` and `length_slice_eq_iff` say when it is
  empty and when it is full.
* `flatMap_slice`: consecutive slices put the front of a list together again.
* `ceil_div_le_iff`: when `n` slices are enough.
-/

namespace TransHub
namespace Slices

variable {α : Type*} {width : ℕ}

/-- The slice of a list after `n` others. -/
def slice (width : ℕ) (l : List α) (n : ℕ) : List α := (l.drop (n * width)).take width

theorem length_slice (l : List α) (n : ℕ) :
    (slice width l n).length = min width (l.length - n * width) := by
  rw [slice, List.length_take, List.length_drop]

/-- A slice is empty when the slices before it hold the list. -/
theorem slice_eq_nil_iff (hwidth : 0 < width) {l : List α} {n : ℕ} :
    slice width l n = [] ↔ l.length ≤ n * width := by
  rw [← List.length_eq_zero_iff, length_slice]
  omega

/-- A slice is full when the list goes on to its end. -/
theorem length_slice_eq_iff (hwidth : 0 < width) {l : List α} {n : ℕ} :
    (slice width l n).length = width ↔ (n + 1) * width ≤ l.length := by
  rw [length_slice, Nat.succ_mul]
  omega

/-- Consecutive slices put the front of a list together again. -/
theorem flatMap_slice (l : List α) (n : ℕ) :
    (List.range n).flatMap (slice width l) = l.take (n * width) := by
  induction n with
  | zero => simp
  | succ n ih =>
    have hlast : l.take (n * width) ++ slice width l n = l.take (n * width + width) :=
      List.take_add.symm
    rw [List.range_succ, List.flatMap_append, ih, List.flatMap_singleton, hlast, Nat.succ_mul]

/-- Slices that reach the end of a list put it together again. -/
theorem flatMap_slice_of_le {l : List α} {n : ℕ} (h : l.length ≤ n * width) :
    (List.range n).flatMap (slice width l) = l := by
  rw [flatMap_slice, List.take_of_length_le h]

/-- The quotient rounded up is the least number of slices that hold so many elements. -/
theorem ceil_div_le_iff (hwidth : 0 < width) {length n : ℕ} :
    ⌈(length : ℚ) / width⌉₊ ≤ n ↔ length ≤ n * width := by
  have hpos : (0 : ℚ) < width := Nat.cast_pos.mpr hwidth
  rw [Nat.ceil_le, div_le_iff₀ hpos]
  norm_cast

/-- The quotient rounded up, in natural numbers. -/
theorem ceil_div_eq (hwidth : 0 < width) (length : ℕ) :
    ⌈(length : ℚ) / width⌉₊ = (length + width - 1) / width := by
  refine eq_of_forall_ge_iff fun n => ?_
  rw [ceil_div_le_iff hwidth, ← Nat.ceilDiv_eq_add_pred_div, ceilDiv_le_iff_le_mul hwidth,
    Nat.mul_comm]

end Slices
end TransHub
