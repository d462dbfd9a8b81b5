import Mathlib

/-!
# The Gregorian calendar

The calendar of the Gregorian rules, over all years before and after they were made.

* `Date`: a day that exists; dates compare by year, month and day.
* `tomorrow`, `yesterday`, `addDays`: how the days follow one another.
* `number`: the days since 1 January 1970; by `number_strictMono` and `number_addDays` the dates are
  ordered as the integers are, and none is left out.
-/

namespace TransHub
namespace Calendar

/-! ## Months -/

/-- A leap year. -/
def IsLeap (year : ℤ) : Prop := year % 4 = 0 ∧ (year % 100 ≠ 0 ∨ year % 400 = 0)

instance (year : ℤ) : Decidable (IsLeap year) := inferInstanceAs (Decidable (_ ∧ _))

def daysInMonth (year : ℤ) (month : ℕ) : ℕ :=
  if month = 2 then if IsLeap year then 29 else 28
  else if month = 4 ∨ month = 6 ∨ month = 9 ∨ month = 11 then 30
  else 31

def daysInYear (year : ℤ) : ℕ := if IsLeap year then 366 else 365

theorem daysInMonth_pos (year : ℤ) (month : ℕ) : 1 ≤ daysInMonth year month := by
  rw [daysInMonth]
  split_ifs <;> omega

theorem daysInMonth_le (year : ℤ) (month : ℕ) : daysInMonth year month ≤ 31 := by
  rw [daysInMonth]
  split_ifs <;> omega

/-- The days of a year before a month. -/
def daysBeforeMonth (year : ℤ) (month : ℕ) : ℕ := ∑ m ∈ Finset.Ico 1 month, daysInMonth year m

theorem daysBeforeMonth_one (year : ℤ) : daysBeforeMonth year 1 = 0 := rfl

theorem daysBeforeMonth_succ (year : ℤ) {month : ℕ} (h : 1 ≤ month) :
    daysBeforeMonth year (month + 1) = daysBeforeMonth year month + daysInMonth year month :=
  Finset.sum_Ico_succ_top h _

theorem daysBeforeMonth_mono (year : ℤ) : Monotone (daysBeforeMonth year) := by
  intro m m' h
  exact Finset.sum_le_sum_of_subset (Finset.Ico_subset_Ico_right h)

/-- The months make the year. -/
theorem daysBeforeMonth_thirteen (year : ℤ) : daysBeforeMonth year 13 = daysInYear year := by
  rw [daysBeforeMonth, daysInYear]
  split_ifs with hleap <;> simp [Finset.sum_Ico_succ_top, daysInMonth, hleap]

theorem daysBeforeMonth_of_le_two (year : ℤ) {month : ℕ} (hpos : 1 ≤ month) (hle : month ≤ 2) :
    daysBeforeMonth year month = 31 * (month - 1) := by
  interval_cases month <;> rfl

/-- From March on the months have 153 days in five, and the leap day is before them. -/
theorem daysBeforeMonth_from_march (year : ℤ) {month : ℕ} (hmarch : 3 ≤ month) (hle : month ≤ 12) :
    daysBeforeMonth year month =
      (if IsLeap year then 60 else 59) + (153 * (month - 3) + 2) / 5 := by
  rw [daysBeforeMonth]
  split_ifs with hleap <;> interval_cases month <;>
    simp [Finset.sum_Ico_succ_top, daysInMonth, hleap]

/-! ## Years -/

/-- The days from 1 January of the year 0 to that of a year. -/
def daysBeforeYear (year : ℤ) : ℤ :=
  365 * year + (year + 3) / 4 - (year + 99) / 100 + (year + 399) / 400

theorem daysBeforeYear_succ (year : ℤ) :
    daysBeforeYear (year + 1) = daysBeforeYear year + daysInYear year := by
  rw [daysBeforeYear, daysBeforeYear, daysInYear]
  split_ifs with hleap <;> rw [IsLeap] at hleap <;> push_cast <;> omega

theorem daysBeforeYear_strictMono : StrictMono daysBeforeYear := by
  refine strictMono_int_of_lt_succ fun year => ?_
  rw [daysBeforeYear_succ, daysInYear]
  split_ifs <;> omega

/-! ## Dates -/

/-- A day of the calendar. -/
structure Date where
  year : ℤ
  month : ℕ
  day : ℕ
  month_pos : 1 ≤ month
  month_le : month ≤ 12
  day_pos : 1 ≤ day
  day_le : day ≤ daysInMonth year month

namespace Date

/-- By year, then month, then day. -/
def key (d : Date) : ℤ ×ₗ ℕ ×ₗ ℕ := toLex (d.year, toLex (d.month, d.day))

theorem key_injective : Function.Injective key := by
  intro d e h
  cases d; cases e
  simpa [key] using h

instance : LinearOrder Date := LinearOrder.lift' key key_injective

theorem lt_iff {d e : Date} : d < e ↔ d.year < e.year ∨
    (d.year = e.year ∧ (d.month < e.month ∨ (d.month = e.month ∧ d.day < e.day))) := by
  show key d < key e ↔ _
  rw [key, key, Prod.Lex.toLex_lt_toLex, Prod.Lex.toLex_lt_toLex]

theorem year_mono : Monotone year := by
  intro d e h
  rcases h.eq_or_lt with rfl | hlt
  · exact le_rfl
  · rcases lt_iff.mp hlt with hyear | ⟨hyear, -⟩
    · exact hyear.le
    · exact hyear.le

/-- 1 January 1970. -/
def epoch : Date where
  year := 1970
  month := 1
  day := 1
  month_pos := le_rfl
  month_le := by omega
  day_pos := le_rfl
  day_le := daysInMonth_pos _ _

/-- The first of a month. -/
def first (year : ℤ) (month : ℕ) (hpos : 1 ≤ month) (hle : month ≤ 12) : Date :=
  ⟨year, month, 1, hpos, hle, le_rfl, daysInMonth_pos year month⟩

/-- The last of a month. -/
def last (year : ℤ) (month : ℕ) (hpos : 1 ≤ month) (hle : month ≤ 12) : Date :=
  ⟨year, month, daysInMonth year month, hpos, hle, daysInMonth_pos year month, le_rfl⟩

/-- The day after. -/
def tomorrow (d : Date) : Date :=
  if hday : d.day < daysInMonth d.year d.month then
    { d with day := d.day + 1, day_pos := Nat.le_add_left 1 d.day, day_le := hday }
  else if hmonth : d.month < 12 then
    first d.year (d.month + 1) (Nat.le_add_left 1 d.month) hmonth
  else first (d.year + 1) 1 le_rfl (by omega)

/-- The day before. -/
def yesterday (d : Date) : Date :=
  if hday : 1 < d.day then
    { d with day := d.day - 1, day_pos := Nat.le_sub_one_of_lt hday
             day_le := (Nat.sub_le d.day 1).trans d.day_le }
  else if hmonth : 1 < d.month then
    last d.year (d.month - 1) (Nat.le_sub_one_of_lt hmonth) ((Nat.sub_le _ 1).trans d.month_le)
  else last (d.year - 1) 12 (by omega) le_rfl

/-! ## Day numbers -/

/-- The day of the year, from 1 on. -/
def dayOfYear (d : Date) : ℕ := daysBeforeMonth d.year d.month + d.day

/-- The days since 1 January 1970. -/
def number (d : Date) : ℤ := daysBeforeYear d.year + d.dayOfYear - 719529

theorem number_epoch : number epoch = 0 := by
  show daysBeforeYear 1970 + ((daysBeforeMonth 1970 1 + 1 : ℕ) : ℤ) - 719529 = 0
  rw [daysBeforeMonth_one, daysBeforeYear]
  rfl

theorem number_eq (d : Date) :
    d.number = daysBeforeYear d.year + daysBeforeMonth d.year d.month + d.day - 719529 := by
  rw [number, dayOfYear]
  push_cast
  ring

theorem number_first {year : ℤ} {month : ℕ} (hpos : 1 ≤ month) (hle : month ≤ 12) :
    (first year month hpos hle).number =
      daysBeforeYear year + daysBeforeMonth year month + 1 - 719529 := number_eq _

/-- After the last of a month the next one comes. -/
theorem number_last {year : ℤ} {month : ℕ} (hpos : 1 ≤ month) (hle : month ≤ 12) :
    (last year month hpos hle).number =
      daysBeforeYear year + daysBeforeMonth year (month + 1) - 719529 := by
  rw [number_eq, daysBeforeMonth_succ year hpos]
  push_cast [last]
  ring

theorem dayOfYear_pos (d : Date) : 1 ≤ d.dayOfYear := d.day_pos.trans (Nat.le_add_left _ _)

/-- A day comes before the next month. -/
theorem dayOfYear_le_daysBeforeMonth (d : Date) {month : ℕ} (h : d.month < month) :
    d.dayOfYear ≤ daysBeforeMonth d.year month := by
  calc d.dayOfYear ≤ daysBeforeMonth d.year d.month + daysInMonth d.year d.month :=
        Nat.add_le_add_left d.day_le _
    _ = daysBeforeMonth d.year (d.month + 1) := (daysBeforeMonth_succ d.year d.month_pos).symm
    _ ≤ daysBeforeMonth d.year month := daysBeforeMonth_mono d.year h

theorem dayOfYear_le (d : Date) : d.dayOfYear ≤ daysInYear d.year :=
  daysBeforeMonth_thirteen d.year ▸ d.dayOfYear_le_daysBeforeMonth (Nat.lt_succ_of_le d.month_le)

/-- The numbers are in the order of the dates. -/
theorem number_strictMono : StrictMono number := by
  intro d e h
  rw [number, number]
  have hd := d.dayOfYear_le
  have he := e.dayOfYear_pos
  rcases lt_iff.mp h with hyear | ⟨hyear, hmonth | ⟨hmonth, hday⟩⟩
  · have hnext : daysBeforeYear (d.year + 1) ≤ daysBeforeYear e.year :=
      daysBeforeYear_strictMono.monotone hyear
    rw [daysBeforeYear_succ] at hnext
    omega
  · have hbefore := d.dayOfYear_le_daysBeforeMonth hmonth
    have hday : e.dayOfYear = daysBeforeMonth e.year e.month + e.day := rfl
    have hpos := e.day_pos
    rw [hyear] at hbefore ⊢
    omega
  · rw [dayOfYear, dayOfYear, hyear, hmonth]
    omega

theorem number_injective : Function.Injective number := number_strictMono.injective

theorem number_tomorrow (d : Date) : d.tomorrow.number = d.number + 1 := by
  have hle := d.day_le
  rw [tomorrow]
  split_ifs with hday hmonth
  · rw [number_eq, number_eq]
    push_cast
    ring
  · have hsucc := daysBeforeMonth_succ d.year d.month_pos
    rw [number_first, number_eq]
    omega
  · have hdecember : d.month = 12 := le_antisymm d.month_le (Nat.le_of_not_lt hmonth)
    have hsucc := daysBeforeMonth_succ d.year d.month_pos
    rw [hdecember, daysBeforeMonth_thirteen] at hsucc
    rw [number_first, number_eq, daysBeforeMonth_one, daysBeforeYear_succ, hdecember]
    rw [hdecember] at hday hle
    omega

theorem number_yesterday (d : Date) : d.yesterday.number = d.number - 1 := by
  have hpos := d.day_pos
  rw [yesterday]
  split_ifs with hday hmonth
  · rw [number_eq, number_eq]
    push_cast [hpos]
    ring
  · have hsame : d.month - 1 + 1 = d.month := Nat.sub_add_cancel d.month_pos
    rw [number_last, number_eq, hsame]
    omega
  · have hjanuary : d.month = 1 := le_antisymm (Nat.le_of_not_lt hmonth) d.month_pos
    have hyear := daysBeforeYear_succ (d.year - 1)
    rw [sub_add_cancel] at hyear
    rw [number_last, number_eq, daysBeforeMonth_thirteen, hjanuary, daysBeforeMonth_one, hyear]
    omega

/-! ## Counting days -/

/-- The days in their order. -/
def succession : Equiv.Perm Date where
  toFun := tomorrow
  invFun := yesterday
  left_inv d := number_injective (by rw [number_yesterday, number_tomorrow, add_sub_cancel_right])
  right_inv d := number_injective (by rw [number_tomorrow, number_yesterday, sub_add_cancel])

/-- The day after, or before, so many days. -/
def addDays (d : Date) (n : ℤ) : Date := (succession ^ n) d

theorem number_addDays (d : Date) (n : ℤ) : (d.addDays n).number = d.number + n := by
  induction n with
  | zero => rw [addDays, zpow_zero, Equiv.Perm.one_apply, add_zero]
  | succ n ih =>
    have hstep : d.addDays (n + 1) = (d.addDays n).tomorrow := by
      rw [addDays, add_comm, zpow_add, zpow_one, Equiv.Perm.mul_apply]
      rfl
    rw [hstep, number_tomorrow, ih, add_assoc]
  | pred n ih =>
    have hstep : d.addDays (-n - 1) = (d.addDays (-n)).yesterday := by
      rw [addDays, sub_eq_neg_add, zpow_add, zpow_neg_one, Equiv.Perm.mul_apply]
      rfl
    rw [hstep, number_yesterday, ih]
    ring

end Date
end Calendar
end TransHub
