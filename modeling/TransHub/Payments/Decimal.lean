import TransHub.Payments.Charge
import Mathlib.Data.Rat.Floor
import Mathlib.Tactic.Linarith

/-!
# What a column stores of a price

A `Decimal(12, 2)` column rounds to kobo, so it stores a price as it is exactly when that is
a whole number of kobo.
-/

namespace TransHub

/-- At most two digits after the point. -/
def WholeKobo (naira : ℚ) : Prop := ∃ kobo : ℤ, naira * 100 = kobo

/-- A column stores whole kobo as they are, and nothing else. -/
theorem decimal_eq_iff {naira : ℚ} (h : 0 ≤ naira) :
    (decimal naira : ℚ) = naira * 100 ↔ WholeKobo naira := by
  constructor
  · intro heq
    exact ⟨decimal naira, heq.symm⟩
  · rintro ⟨kobo, hkobo⟩
    have hfloor : ⌊(kobo : ℚ) + 1 / 2⌋ = kobo := by
      rw [Int.floor_eq_iff]
      constructor <;> linarith
    rw [decimal, if_pos h, hkobo]
    exact congrArg Int.cast hfloor

/-- A positive price of whole kobo is stored as a positive one. -/
theorem WholeKobo.decimal_pos {naira : ℚ} (h : WholeKobo naira) (hpos : 0 < naira) :
    0 < decimal naira := by
  have heq := (decimal_eq_iff hpos.le).mpr h
  have hcast : (0 : ℚ) < decimal naira := by
    rw [heq]
    linarith
  exact_mod_cast hcast

end TransHub
