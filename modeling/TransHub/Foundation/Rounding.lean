import Mathlib.Data.Int.Log
import Mathlib.Data.Rat.Floor
import Mathlib.Tactic.Linarith
import Mathlib.Tactic.FieldSimp
import Mathlib.Tactic.Ring

/-!
# Rounding to a significand

Positive rationals rounded to a significand of `p` bits, ties to even.

* `roundHalfEven`: the nearest integer; `roundHalfEven_eq_iff_of_even` says what rounds to an
  even one.
* `roundTo`: the nearest multiple of the unit in the last place; `roundTo_eq` computes it from
  the binade.
-/

namespace TransHub
namespace Rounding

/-- The nearest integer, the even one of two. -/
def roundHalfEven (x : ℚ) : ℤ :=
  if x - ⌊x⌋ < 1 / 2 then ⌊x⌋
  else if 1 / 2 < x - ⌊x⌋ then ⌊x⌋ + 1
  else if ⌊x⌋ % 2 = 0 then ⌊x⌋ else ⌊x⌋ + 1

/-- `x` to a significand of `p` bits. -/
def roundTo (p : ℕ) (x : ℚ) : ℚ :=
  roundHalfEven (x / 2 ^ (Int.log 2 x + 1 - p)) * 2 ^ (Int.log 2 x + 1 - p)

/-- Rounding goes half a unit at most. -/
theorem abs_sub_roundHalfEven_le (x : ℚ) : |x - roundHalfEven x| ≤ 1 / 2 := by
  have hfloor := Int.floor_le x
  have hlt := Int.lt_floor_add_one x
  rw [roundHalfEven, abs_le]
  split_ifs <;> push_cast <;> constructor <;> linarith

/-- What rounds to an even integer is what lies no farther from it than half a unit. -/
theorem roundHalfEven_eq_iff_of_even {x : ℚ} {z : ℤ} (hz : z % 2 = 0) :
    roundHalfEven x = z ↔ |x - z| ≤ 1 / 2 := by
  constructor
  · rintro rfl
    exact abs_sub_roundHalfEven_le x
  · intro h
    obtain ⟨hlow, hhigh⟩ := abs_le.mp h
    have hfloor := Int.floor_le x
    have hlt := Int.lt_floor_add_one x
    have hge : z - 1 ≤ ⌊x⌋ := by
      rw [Int.le_floor]
      push_cast
      linarith
    have hle : ⌊x⌋ < z + 1 := by
      rw [Int.floor_lt]
      push_cast
      linarith
    have hcases : ⌊x⌋ = z ∨ ⌊x⌋ = z - 1 := by omega
    rcases hcases with hf | hf
    · rw [roundHalfEven, hf, if_pos hz]
      split_ifs with hdown hup
      · rfl
      · exact absurd hup (by linarith)
      · rfl
    · have hodd : ¬ (z - 1) % 2 = 0 := by omega
      rw [roundHalfEven, hf, if_neg hodd]
      split_ifs with hdown
      · push_cast at hdown
        linarith
      · omega
      · omega

/-- Rounding keeps the order to an integer. -/
theorem le_roundHalfEven {x : ℚ} {z : ℤ} (h : (z : ℚ) ≤ x) : z ≤ roundHalfEven x := by
  have hle : z ≤ ⌊x⌋ := Int.le_floor.mpr h
  rw [roundHalfEven]
  split_ifs <;> omega

theorem roundHalfEven_le {x : ℚ} {z : ℤ} (h : x ≤ z) : roundHalfEven x ≤ z := by
  have herr := (abs_le.mp (abs_sub_roundHalfEven_le x)).1
  have hlt : (roundHalfEven x : ℚ) < z + 1 := by linarith
  exact Int.lt_add_one_iff.mp (by exact_mod_cast hlt)

/-- The unit of a binade. -/
theorem roundTo_eq {p : ℕ} {x : ℚ} {e : ℤ} (hle : 2 ^ e ≤ x) (hlt : x < 2 ^ (e + 1)) :
    roundTo p x = roundHalfEven (x / 2 ^ (e + 1 - p)) * 2 ^ (e + 1 - p) := by
  have hpos : 0 < x := lt_of_lt_of_le (zpow_pos (by norm_num) e) hle
  have hlog : Int.log 2 x = e := by
    have hge : e ≤ Int.log 2 x :=
      (Int.zpow_le_iff_le_log (by norm_num) hpos).mp (by exact_mod_cast hle)
    have hlt' : Int.log 2 x < e + 1 :=
      (Int.lt_zpow_iff_log_lt (by norm_num) hpos).mp (by exact_mod_cast hlt)
    omega
  rw [roundTo, hlog]

/-- What is positive stays so. -/
theorem roundTo_pos {p : ℕ} (hp : 0 < p) {x : ℚ} (hx : 0 < x) : 0 < roundTo p x := by
  have hle : (2 : ℚ) ^ Int.log 2 x ≤ x := Int.zpow_log_le_self (by norm_num) hx
  have hlt : x < (2 : ℚ) ^ (Int.log 2 x + 1) := Int.lt_zpow_succ_log_self (by norm_num) x
  have hunit : (0 : ℚ) < 2 ^ (Int.log 2 x + 1 - p) := zpow_pos (by norm_num) _
  -- the binade begins at a unit or later
  have hone : ((1 : ℤ) : ℚ) ≤ x / 2 ^ (Int.log 2 x + 1 - p) := by
    rw [Int.cast_one, le_div_iff₀ hunit, one_mul]
    exact (zpow_le_zpow_right₀ (by norm_num) (by omega)).trans hle
  have hround : (0 : ℚ) < roundHalfEven (x / 2 ^ (Int.log 2 x + 1 - p)) :=
    Int.cast_pos.mpr (le_roundHalfEven hone)
  exact mul_pos hround hunit

end Rounding
end TransHub
