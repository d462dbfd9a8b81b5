import TransHub.Foundation.Rounding

/-!
# Kobo

The amounts that `initializeWaybillPayment` and `initializeCharterPayment` send, and those that
`handlePaymentConfirmed` and `processWebhookPayment` compare with, in the numbers of the language:
rationals with a significand of 53 bits.

* `kobo`: `Number(price) * 100`; `timesHundred` is the same of any stored amount.
* `kobo_eq_iff`: when it is the price in kobo, by the price scaled to a significand.
* `eq_hundredths_of_kobo`: it is no other integer; `waybillExpectedKobo_eq`: rounded, it is the
  price in kobo.
-/

namespace TransHub
namespace Kobo

open Rounding

/-- A positive `Decimal(12, 2)`. -/
structure Price where
  hundredths : ℕ
  pos : 0 < hundredths
  lt : hundredths < 10 ^ 12

/-- `Number` of a decimal. -/
def toNumber (price : Price) : ℚ := roundTo 53 (price.hundredths / 100)

/-- `Number(price) * 100`. -/
def kobo (price : Price) : ℚ := roundTo 53 (toNumber price * 100)

/-- `Number(amount) * 100` of an amount in hundredths, of either sign. -/
def timesHundred (hundredths : ℤ) : ℚ :=
  hundredths.sign * roundTo 53 (roundTo 53 (hundredths.natAbs / 100) * 100)

/-- `Math.round`. -/
def mathRound (x : ℚ) : ℤ := ⌊x + 1 / 2⌋

/-- `amountKobo` of `initializeWaybillPayment`. -/
def waybillAmountKobo (fee : Price) : ℚ := kobo fee

/-- `expectedKobo` of `handlePaymentConfirmed`. -/
def waybillExpectedKobo (fee : Price) : ℤ := mathRound (kobo fee)

/-- `amountKobo` of `initializeCharterPayment`. -/
def charterAmountKobo (quotedPrice : Price) : ℚ := kobo quotedPrice

/-- `expectedKobo` of `processWebhookPayment`. -/
def charterExpectedKobo (quotedPrice : Price) : ℚ := kobo quotedPrice

/-! ## The price scaled to a significand -/

/-- The power of two that scales a price in hundredths to a significand of the price. -/
structure IsScale (n k : ℕ) : Prop where
  low : 100 * 2 ^ 52 ≤ n * 2 ^ k
  high : n * 2 ^ k < 100 * 2 ^ 53

/-- Every price has one. -/
theorem exists_isScale (price : Price) : ∃ k, IsScale price.hundredths k := by
  have hpos := price.pos
  have hlt := price.lt
  have hex : ∃ k, 100 * 2 ^ 52 ≤ price.hundredths * 2 ^ k := ⟨59, by omega⟩
  refine ⟨Nat.find hex, Nat.find_spec hex, ?_⟩
  cases hfind : Nat.find hex with
  | zero =>
    have hzero := Nat.find_spec hex
    rw [hfind] at hzero
    omega
  | succ k =>
    have hbefore := Nat.find_min hex (m := k) (by omega)
    rw [Nat.pow_succ, ← Nat.mul_assoc]
    omega

section
variable {n k : ℕ}

/-- The scaled price is a multiple of a large power of two. -/
theorem IsScale.le_exponent (h : IsScale n k) (hn : n < 10 ^ 12) : 19 ≤ k := by
  by_contra hlt
  have hpow : 2 ^ k ≤ 2 ^ 18 := Nat.pow_le_pow_right (by norm_num) (by omega)
  have hle : n * 2 ^ k ≤ n * 2 ^ 18 := Nat.mul_le_mul_left n hpow
  have hlow := h.low
  omega

/-- The significand of the price. -/
def significand (n k : ℕ) : ℤ := roundHalfEven ((n * 2 ^ k : ℕ) / 100)

/-- A significand is within half a unit. -/
theorem abs_significand_le (n k : ℕ) : (n * 2 ^ k : ℕ) - 100 * significand n k ≤ 50 ∧
    -50 ≤ (n * 2 ^ k : ℕ) - 100 * significand n k := by
  have herr := abs_sub_roundHalfEven_le ((n * 2 ^ k : ℕ) / 100)
  rw [← significand] at herr
  obtain ⟨hlow, hhigh⟩ := abs_le.mp herr
  constructor
  · have h : ((n * 2 ^ k : ℕ) : ℚ) - 100 * significand n k ≤ 50 := by linarith
    exact_mod_cast h
  · have h : (-50 : ℚ) ≤ (n * 2 ^ k : ℕ) - 100 * significand n k := by linarith
    exact_mod_cast h

theorem IsScale.significand_mem (h : IsScale n k) :
    2 ^ 52 ≤ significand n k ∧ significand n k ≤ 2 ^ 53 := by
  have hlow : ((100 * 2 ^ 52 : ℕ) : ℚ) ≤ (n * 2 ^ k : ℕ) := Nat.cast_le.mpr h.low
  have hhigh : ((n * 2 ^ k : ℕ) : ℚ) ≤ (100 * 2 ^ 53 : ℕ) := Nat.cast_le.mpr h.high.le
  constructor
  · refine le_roundHalfEven ?_
    push_cast at hlow ⊢
    linarith
  · refine roundHalfEven_le ?_
    push_cast at hhigh ⊢
    linarith

/-- `Number` of the price. -/
theorem IsScale.roundTo_div (h : IsScale n k) :
    roundTo 53 ((n : ℚ) / 100) = significand n k / 2 ^ k := by
  have hlow : ((100 * 2 ^ 52 : ℕ) : ℚ) ≤ (n * 2 ^ k : ℕ) := Nat.cast_le.mpr h.low
  have hhigh : ((n * 2 ^ k : ℕ) : ℚ) < (100 * 2 ^ 53 : ℕ) := Nat.cast_lt.mpr h.high
  have hpow : (0 : ℚ) < 2 ^ k := by positivity
  have hsub : ∀ j : ℤ, (2 : ℚ) ^ (j - k) = 2 ^ j / 2 ^ k := fun j => by
    rw [zpow_sub₀ (by norm_num), zpow_natCast]
  have he : (52 - k + 1 : ℤ) = 53 - k := by ring
  have hu : (52 - k + 1 - (53 : ℕ) : ℤ) = 0 - k := by push_cast; ring
  push_cast at hlow hhigh
  have hle : (2 : ℚ) ^ (52 - k : ℤ) ≤ n / 100 := by
    rw [hsub, div_le_div_iff₀ hpow (by norm_num)]
    norm_num at hlow ⊢
    linarith
  have hlt : (n : ℚ) / 100 < 2 ^ (52 - k + 1 : ℤ) := by
    rw [he, hsub, div_lt_div_iff₀ (by norm_num) hpow]
    norm_num at hhigh ⊢
    linarith
  rw [roundTo_eq hle hlt, hu, hsub, zpow_zero, significand]
  have harg : (n : ℚ) / 100 / (1 / 2 ^ k) = (n * 2 ^ k : ℕ) / 100 := by
    push_cast
    field_simp
  rw [harg]
  ring

/-- Times a hundred, in the binade of the product. -/
theorem roundTo_mul_hundred {m : ℤ} {j : ℕ} (hlow : 2 ^ (52 + j) ≤ 100 * m)
    (hhigh : 100 * m < 2 ^ (53 + j)) (k : ℕ) :
    roundTo 53 ((m : ℚ) / 2 ^ k * 100) = roundHalfEven (100 * m / 2 ^ j) * 2 ^ j / 2 ^ k := by
  have hlow' : ((2 ^ (52 + j) : ℤ) : ℚ) ≤ (100 * m : ℤ) := Int.cast_le.mpr hlow
  have hhigh' : ((100 * m : ℤ) : ℚ) < (2 ^ (53 + j) : ℤ) := Int.cast_lt.mpr hhigh
  push_cast at hlow' hhigh'
  have hpow : (0 : ℚ) < 2 ^ k := by positivity
  have hsub : ∀ i : ℕ, (2 : ℚ) ^ (i - k : ℤ) = 2 ^ i / 2 ^ k := fun i => by
    rw [zpow_sub₀ (by norm_num), zpow_natCast, zpow_natCast]
  have hcast : ∀ i : ℕ, ((i + j : ℕ) : ℤ) = i + j := fun i => by push_cast; rfl
  have he : (52 + j : ℕ) - k + 1 = ((53 + j : ℕ) : ℤ) - k := by push_cast; ring
  have hu : (52 + j : ℕ) - k + 1 - (53 : ℕ) = (j : ℤ) - k := by push_cast; ring
  have hvalue : (m : ℚ) / 2 ^ k * 100 = 100 * m / 2 ^ k := by ring
  have hle : (2 : ℚ) ^ ((52 + j : ℕ) - k : ℤ) ≤ m / 2 ^ k * 100 := by
    rw [hsub, hvalue]
    exact div_le_div_of_nonneg_right hlow' hpow.le
  have hlt : (m : ℚ) / 2 ^ k * 100 < 2 ^ ((52 + j : ℕ) - k + 1 : ℤ) := by
    rw [he, hsub, hvalue]
    exact div_lt_div_of_pos_right hhigh' hpow
  rw [roundTo_eq hle hlt, hu, hsub]
  have harg : (m : ℚ) / 2 ^ k * 100 / (2 ^ j / 2 ^ k) = 100 * m / 2 ^ j := by
    field_simp
  rw [harg]
  ring

/-- The product is the price in kobo when it lies within half a unit of the scaled price. -/
theorem roundHalfEven_scaled_eq_iff {m : ℤ} {j : ℕ} (hj : j + 1 ≤ k) :
    (roundHalfEven (100 * m / 2 ^ j) * 2 ^ j / 2 ^ k : ℚ) = n ↔
      2 * |(100 * m - (n * 2 ^ k : ℕ) : ℤ)| ≤ 2 ^ j := by
  obtain ⟨i, rfl⟩ := Nat.exists_eq_add_of_le hj
  have hpow : (2 : ℚ) ^ j ≠ 0 := by positivity
  have hpos : (0 : ℚ) < 2 ^ j := by positivity
  have heven : ((n * 2 ^ i * 2 : ℕ) : ℤ) % 2 = 0 := by push_cast; omega
  have hleft : (roundHalfEven (100 * m / 2 ^ j) * 2 ^ j / 2 ^ (j + 1 + i) : ℚ) = n ↔
      roundHalfEven (100 * m / 2 ^ j) = ((n * 2 ^ i * 2 : ℕ) : ℤ) := by
    have hscaled : (n : ℚ) * 2 ^ (j + 1 + i) = (n * 2 ^ i * 2) * 2 ^ j := by ring
    rw [div_eq_iff (by positivity), hscaled, mul_left_inj' hpow, ← Int.cast_inj (α := ℚ)]
    push_cast
    rfl
  have hdiff : (100 * m / 2 ^ j - ((n * 2 ^ i * 2 : ℕ) : ℤ) : ℚ) =
      ((100 * m - (n * 2 ^ (j + 1 + i) : ℕ) : ℤ) : ℚ) / 2 ^ j := by
    push_cast
    field_simp
    ring
  rw [hleft, roundHalfEven_eq_iff_of_even heven, hdiff, abs_div, abs_of_pos hpos,
    div_le_iff₀ hpos, ← Int.cast_abs]
  constructor
  · intro h
    have h' : ((2 * |(100 * m - (n * 2 ^ (j + 1 + i) : ℕ) : ℤ)| : ℤ) : ℚ) ≤ (2 ^ j : ℤ) := by
      push_cast at h ⊢
      linarith
    exact_mod_cast h'
  · intro h
    have h' : ((2 * |(100 * m - (n * 2 ^ (j + 1 + i) : ℕ) : ℤ)| : ℤ) : ℚ) ≤ (2 ^ j : ℤ) :=
      Int.cast_le.mpr h
    push_cast at h' ⊢
    linarith

end

section
variable {price : Price} {k : ℕ}

/-- The product is rounded to a multiple of `64`, or of `128` in the upper binade. -/
theorem kobo_eq_scaled (h : IsScale price.hundredths k) :
    ∃ j : ℕ, (j = 6 ∨ j = 7) ∧ (j = 6 ↔ 100 * significand price.hundredths k < 2 ^ 59) ∧
      kobo price =
        roundHalfEven (100 * significand price.hundredths k / 2 ^ j) * 2 ^ j / 2 ^ k := by
  obtain ⟨hlow, hhigh⟩ := h.significand_mem
  by_cases hbinade : 100 * significand price.hundredths k < 2 ^ 59
  · refine ⟨6, Or.inl rfl, iff_of_true rfl hbinade, ?_⟩
    rw [kobo, toNumber, h.roundTo_div]
    exact roundTo_mul_hundred (by omega) (by omega) k
  · refine ⟨7, Or.inr rfl, iff_of_false (by omega) hbinade, ?_⟩
    rw [kobo, toNumber, h.roundTo_div]
    exact roundTo_mul_hundred (by omega) (by omega) k

/-- A price whose product is the price in kobo: scaled to a significand, it lies in the upper
binade or near a multiple of a hundred. -/
def Exact (n k : ℕ) : Prop :=
  2 ^ 59 ≤ n * 2 ^ k ∨ n * 2 ^ k % 100 ≤ 32 ∨ 68 ≤ n * 2 ^ k % 100

/-- The product is the price in kobo exactly for such prices. -/
theorem kobo_eq_iff (h : IsScale price.hundredths k) :
    kobo price = price.hundredths ↔ Exact price.hundredths k := by
  obtain ⟨j, hj, hbinade, hkobo⟩ := kobo_eq_scaled h
  have hk := h.le_exponent price.lt
  obtain ⟨hclose, hclose'⟩ := abs_significand_le price.hundredths k
  rw [hkobo, roundHalfEven_scaled_eq_iff (by omega), Exact]
  -- Within the binade of the product the scaled prices are far apart.
  have hmultiple : ∃ i, price.hundredths * 2 ^ k = 524288 * i := by
    obtain ⟨i, rfl⟩ := Nat.exists_eq_add_of_le hk
    exact ⟨price.hundredths * 2 ^ i, by ring⟩
  obtain ⟨i, hi⟩ := hmultiple
  have hsize : ∀ x b : ℤ, 2 * |x| ≤ b ↔ 2 * x ≤ b ∧ -b ≤ 2 * x := by
    intro x b
    rcases abs_cases x with ⟨habs, hsign⟩ | ⟨habs, hsign⟩ <;> rw [habs] <;> omega
  rw [hsize]
  generalize price.hundredths * 2 ^ k = scaled at *
  generalize significand price.hundredths k = m at *
  have hquotient : m = scaled / 100 ∨ m = scaled / 100 + 1 := by omega
  rcases hquotient with rfl | rfl <;> rcases hj with rfl | rfl <;> omega

/-- The product is near the price in kobo. -/
theorem abs_kobo_sub_lt (price : Price) : |kobo price - price.hundredths| < 1 / 2 := by
  obtain ⟨k, h⟩ := exists_isScale price
  obtain ⟨j, hj, -, hkobo⟩ := kobo_eq_scaled h
  have hk := h.le_exponent price.lt
  obtain ⟨hclose, hclose'⟩ := abs_significand_le price.hundredths k
  have hunit : (0 : ℚ) < 2 ^ j ∧ (2 : ℚ) ^ j ≤ 128 := by
    rcases hj with rfl | rfl <;> norm_num
  have herr := abs_le.mp (abs_sub_roundHalfEven_le
    (100 * significand price.hundredths k / 2 ^ j))
  generalize roundHalfEven (100 * significand price.hundredths k / 2 ^ j) = r at *
  generalize significand price.hundredths k = m at *
  have hscaled : kobo price * 2 ^ k = r * 2 ^ j := by
    rw [hkobo]
    field_simp
  have hnear : (100 * m : ℚ) / 2 ^ j * 2 ^ j = 100 * m := by
    have := hunit.1.ne'
    field_simp
  have hr : |(r * 2 ^ j - 100 * m : ℚ)| ≤ 64 := by
    rw [abs_le]
    constructor <;> nlinarith [hunit.1, hunit.2, herr.1, herr.2]
  have hrow : |(kobo price - price.hundredths) * 2 ^ k| ≤ 114 := by
    have hclose1 : ((price.hundredths * 2 ^ k : ℕ) : ℚ) - 100 * m ≤ 50 := by exact_mod_cast hclose
    have hclose2 : (-50 : ℚ) ≤ (price.hundredths * 2 ^ k : ℕ) - 100 * m := by
      exact_mod_cast hclose'
    obtain ⟨hr1, hr2⟩ := abs_le.mp hr
    push_cast at hclose1 hclose2
    rw [sub_mul, hscaled, abs_le]
    constructor <;> linarith
  have hpow : (2 : ℚ) ^ 19 ≤ 2 ^ k := pow_le_pow_right₀ (by norm_num) hk
  rw [abs_mul, abs_of_pos (by positivity : (0 : ℚ) < 2 ^ k)] at hrow
  by_contra hle
  nlinarith [not_lt.mp hle]

/-- It is no other integer. -/
theorem eq_hundredths_of_kobo {z : ℤ} (hz : kobo price = z) : z = price.hundredths := by
  have hnear := abs_kobo_sub_lt price
  rw [hz] at hnear
  by_contra hne
  have hint : (1 : ℤ) ≤ |z - price.hundredths| := Int.one_le_abs (sub_ne_zero.mpr hne)
  have hone : (1 : ℚ) ≤ |(z - price.hundredths : ℚ)| := by exact_mod_cast hint
  linarith

/-- Rounded, it is the price in kobo. -/
theorem waybillExpectedKobo_eq (fee : Price) : waybillExpectedKobo fee = fee.hundredths := by
  obtain ⟨hlow, hhigh⟩ := abs_lt.mp (abs_kobo_sub_lt fee)
  rw [waybillExpectedKobo, mathRound, Int.floor_eq_iff]
  push_cast
  constructor <;> linarith

/-- An amount that a price can be is multiplied as a price is. -/
theorem timesHundred_hundredths (price : Price) :
    timesHundred price.hundredths = kobo price := by
  have hpos : (0 : ℤ) < price.hundredths := Int.natCast_pos.mpr price.pos
  rw [timesHundred, Int.sign_eq_one_of_pos hpos, Int.natAbs_natCast, Int.cast_one, one_mul]
  rfl

/-- So is a positive amount a positive product. -/
theorem timesHundred_pos {z : ℤ} (hz : 0 < z) : 0 < timesHundred z := by
  have habs : (0 : ℚ) < z.natAbs / 100 := by
    have : 0 < z.natAbs := Int.natAbs_pos.mpr hz.ne'
    positivity
  have hnumber := roundTo_pos (p := 53) (by norm_num) habs
  rw [timesHundred, Int.sign_eq_one_of_pos hz, Int.cast_one, one_mul]
  exact roundTo_pos (by norm_num) (by positivity)

/-- The amounts sent are the amounts expected, and whole kobo; what a customer has paid in full is
expected too. -/
structure Agree (price : Price) : Prop where
  waybill : waybillAmountKobo price = waybillExpectedKobo price
  charter : charterAmountKobo price = charterExpectedKobo price
  whole : ∃ z : ℤ, charterAmountKobo price = z
  paid : waybillExpectedKobo price = price.hundredths ∧
    charterExpectedKobo price = price.hundredths

/-- The product is a whole number of kobo only when it is the price in kobo. -/
theorem exists_kobo_eq_iff : (∃ z : ℤ, kobo price = z) ↔ kobo price = price.hundredths := by
  constructor
  · rintro ⟨z, hz⟩
    rw [hz, eq_hundredths_of_kobo hz]
    rfl
  · intro h
    exact ⟨price.hundredths, h⟩

/-- The conversions agree when the product is the price in kobo. -/
theorem agree_iff_kobo_eq : Agree price ↔ kobo price = price.hundredths := by
  constructor
  · intro h
    exact exists_kobo_eq_iff.mp h.whole
  · intro h
    have hint : kobo price = ((price.hundredths : ℤ) : ℚ) := by
      rw [h]
      rfl
    have hexpected := waybillExpectedKobo_eq price
    refine ⟨?_, rfl, ⟨price.hundredths, hint⟩, hexpected, h⟩
    rw [hexpected]
    exact hint

/-- The kobo conversions agree exactly on the prices that, scaled to a significand, lie in the
upper binade of the product or within `32` of a multiple of a hundred. -/
theorem agree_iff (price : Price) :
    Agree price ↔ ∃ k, IsScale price.hundredths k ∧ Exact price.hundredths k := by
  rw [agree_iff_kobo_eq]
  constructor
  · intro h
    obtain ⟨k, hk⟩ := exists_isScale price
    exact ⟨k, hk, (kobo_eq_iff hk).mp h⟩
  · rintro ⟨k, hk, hexact⟩
    exact (kobo_eq_iff hk).mpr hexact

/-- One naira and ten kobo. -/
def oneTen : Price where
  hundredths := 110
  pos := by decide
  lt := by decide

example : kobo oneTen = 7740561859543041 / 70368744177664 := by decide +kernel

/-- The charge is a fraction of a kobo too large for what is expected, and for Paystack. -/
theorem not_agree_oneTen : ¬ Agree oneTen ∧
    waybillAmountKobo oneTen ≠ waybillExpectedKobo oneTen ∧
    ∀ z : ℤ, charterAmountKobo oneTen ≠ z := by
  have hkobo : kobo oneTen ≠ oneTen.hundredths := by
    have hscale : IsScale oneTen.hundredths 52 := ⟨by decide, by decide⟩
    rw [Ne, kobo_eq_iff hscale]
    unfold Exact
    decide
  have hwhole : ∀ z : ℤ, kobo oneTen ≠ z := fun z hz => hkobo (exists_kobo_eq_iff.mp ⟨z, hz⟩)
  exact ⟨fun h => hkobo (agree_iff_kobo_eq.mp h), hwhole _, hwhole⟩

end

end Kobo
end TransHub
