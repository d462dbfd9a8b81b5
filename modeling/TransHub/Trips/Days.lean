import TransHub.Foundation.Calendar
import TransHub.Trips.Search
import Mathlib

/-!
# Days in WAT

The bounds of `watDayBounds` and the ranges of `toDateRange`, for the dates of the calendar.

* `IsoDate.civil`: the date that a text names, if there is one.
* `watDate`: the date in WAT of an instant.
* `mem_watDay_iff`: a date has the instants of its day and no others.
* `watDays_tile`: the days leave no instant out and share none, and a range is made of its days.
-/

namespace TransHub

open Calendar (Date)

/-! ## The dates that texts name -/

namespace IsoDate

/-- The date of the calendar that a text names. -/
def civil (d : IsoDate) : Option Date :=
  if h : 1 ≤ d.month.val ∧ d.month.val ≤ 12 ∧ 1 ≤ d.day.val ∧
      d.day.val ≤ Calendar.daysInMonth d.year.val d.month.val then
    some ⟨d.year.val, d.month.val, d.day.val, h.1, h.2.1, h.2.2.1, h.2.2.2⟩
  else none

example : (IsoDate.mk 2000 2 29).civil.isSome = true := by decide
example : (IsoDate.mk 1900 2 29).civil = none := by decide

theorem civil_eq_some_iff {d : IsoDate} {c : Date} :
    d.civil = some c ↔ (d.year.val : ℤ) = c.year ∧ d.month.val = c.month ∧ d.day.val = c.day := by
  rw [civil]
  constructor
  · intro h
    split_ifs at h with hreal
    cases h
    exact ⟨rfl, rfl, rfl⟩
  · rintro ⟨hyear, hmonth, hday⟩
    obtain ⟨year, month, day, hpos, hle, hdpos, hdle⟩ := c
    subst hyear hmonth hday
    exact dif_pos ⟨hpos, hle, hdpos, hdle⟩

/-- Two texts do not name one date. -/
theorem civil_injective {d e : IsoDate} {c : Date} (hd : d.civil = some c) (he : e.civil = some c) :
    d = e := by
  obtain ⟨hyear, hmonth, hday⟩ := civil_eq_some_iff.mp hd
  obtain ⟨hyear', hmonth', hday'⟩ := civil_eq_some_iff.mp he
  have hy : d.year = e.year := Fin.ext (by omega)
  have hm : d.month = e.month := Fin.ext (hmonth.trans hmonth'.symm)
  have hn : d.day = e.day := Fin.ext (hday.trans hday'.symm)
  cases d; cases e
  rw [mk.injEq]
  exact ⟨hy, hm, hn⟩

/-- A date of a year of four digits has a text. -/
theorem exists_civil {c : Date} (hpos : 0 ≤ c.year) (hle : c.year ≤ 9999) :
    ∃ d : IsoDate, d.civil = some c := by
  obtain ⟨y, hy⟩ := Int.eq_ofNat_of_zero_le hpos
  have hmonth := c.month_le
  have hday := c.day_le.trans (Calendar.daysInMonth_le c.year c.month)
  exact ⟨⟨⟨y, by omega⟩, ⟨c.month, by omega⟩, ⟨c.day, by omega⟩⟩,
    civil_eq_some_iff.mpr ⟨hy.symm, rfl, rfl⟩⟩

/-- The year from March is the year of the calendar. -/
theorem toDays_eq_number {d : IsoDate} {c : Date} (h : d.civil = some c) : d.toDays = c.number := by
  obtain ⟨hyear, hmonth, hday⟩ := civil_eq_some_iff.mp h
  rw [Date.number_eq, toDays, hyear, hmonth, hday]
  by_cases hspring : c.month ≤ 2
  · have hbefore := Calendar.daysBeforeMonth_of_le_two c.year c.month_pos hspring
    have hpos := c.month_pos
    have hfrom : (c.month + 9) % 12 = c.month + 9 := Nat.mod_eq_of_lt (by omega)
    rw [if_pos hspring, hfrom, hbefore, daysBeforeMarch, Calendar.daysBeforeYear]
    omega
  · have hmarch : 3 ≤ c.month := Nat.lt_of_not_le hspring
    have hbefore := Calendar.daysBeforeMonth_from_march c.year hmarch c.month_le
    have hle := c.month_le
    have hfrom : (c.month + 9) % 12 = c.month - 3 := by omega
    rw [if_neg hspring, hfrom, hbefore, daysBeforeMarch, Calendar.daysBeforeYear]
    split_ifs with hleap <;> rw [Calendar.IsLeap] at hleap <;> omega

theorem toDate_eq {d : IsoDate} {c : Date} (h : d.civil = some c) (millisecond : ℤ) :
    d.toDate millisecond = some (c.number * 86400000 + millisecond - 3600000) := by
  obtain ⟨-, hmonth, hday⟩ := civil_eq_some_iff.mp h
  have hpos := c.month_pos
  have hle := c.month_le
  have hdpos := c.day_pos
  have hdle := c.day_le.trans (Calendar.daysInMonth_le c.year c.month)
  rw [toDate, if_pos (by omega), toDays_eq_number h]

end IsoDate

/-! ## Ranges of instants -/

/-- A range of dates against an instant. -/
def Range.containsInstant (r : Range (Option ℤ)) (t : ℤ) : Bool :=
  r.gte.all (fun b => b.any fun s => s ≤ t) && r.lte.all fun b => b.any fun s => t ≤ s

theorem containsTime_eq (r : Range (Option ℤ)) (t : Time) :
    r.containsTime t = r.containsInstant t := rfl

namespace Trips

/-- The instants that a filter by a range lets through. -/
def selected (range : Option (Range (Option ℤ))) : Set ℤ :=
  {t | (range.all fun r => r.containsInstant t) = true}

/-- The instants between the bounds of a day. -/
def watDay (d : IsoDate) : Set ℤ :=
  {t | ((watDayBounds d).1.any (fun b => b ≤ t) && (watDayBounds d).2.any fun b => t ≤ b) = true}

/-- The date in WAT of an instant. -/
def watDate (instant : ℤ) : Date := Date.epoch.addDays ((instant + 3600000) / 86400000)

/-- The texts of the dates from one to another. -/
def datesBetween (c₁ c₂ : Date) : Set IsoDate := {d | ∃ c, d.civil = some c ∧ c₁ ≤ c ∧ c ≤ c₂}

variable {d d₁ d₂ : IsoDate} {c c₁ c₂ : Date} {t : ℤ}

theorem number_watDate (t : ℤ) : (watDate t).number = (t + 3600000) / 86400000 := by
  rw [watDate, Date.number_addDays, Date.number_epoch, zero_add]

example : watDate 951778800000 = Date.last 2000 2 one_le_two (by decide) :=
  Date.number_injective ((number_watDate _).trans (by decide))

/-- A date has the instants of its day. -/
theorem mem_watDay_iff (h : d.civil = some c) : t ∈ watDay d ↔ watDate t = c := by
  have hdate : (d.toDate 0).isSome := by rw [IsoDate.toDate_eq h]; rfl
  rw [watDay, Set.mem_ofPred_eq, watDayBounds_iff hdate, IsoDate.toDays_eq_number h,
    ← number_watDate, Date.number_injective.eq_iff]

/-- A range of dates has the instants from its first day to its last. -/
theorem mem_selected_iff (h₁ : d₁.civil = some c₁) (h₂ : d₂.civil = some c₂) :
    t ∈ selected (toDateRange (some d₁) (some d₂)) ↔ c₁ ≤ watDate t ∧ watDate t ≤ c₂ := by
  rw [← Date.number_strictMono.le_iff_le, ← Date.number_strictMono.le_iff_le, number_watDate]
  simp only [selected, toDateRange, Range.of, Option.map_some, IsoDate.toDate_eq h₁,
    IsoDate.toDate_eq h₂, Option.isSome_some, Bool.or_self, if_true, Set.mem_ofPred_eq,
    Option.all_some, Range.containsInstant, Option.any_some, Bool.and_eq_true, decide_eq_true_eq]
  omega

/-- A list that is filtered by dates has the rows of their days. -/
theorem containsTime_toDateRange_iff (h₁ : d₁.civil = some c₁) (h₂ : d₂.civil = some c₂)
    (t : Time) : ((toDateRange (some d₁) (some d₂)).all fun r => r.containsTime t) = true ↔
      c₁ ≤ watDate t ∧ watDate t ≤ c₂ := by
  simp only [containsTime_eq]
  exact mem_selected_iff h₁ h₂

/-- The trips that a search finds depart on its date. -/
theorem watDate_eq_of_matches {q : SearchTripsQuery} {trip : Trip} (hq : q.date.civil = some c)
    (h : q.Matches trip) : watDate trip.departureTime = c := by
  apply Date.number_injective
  rw [number_watDate, h.day, IsoDate.toDays_eq_number hq]

/-- The day of an instant, if its year has four digits. -/
theorem exists_watDay (hpos : 0 ≤ (watDate t).year) (hle : (watDate t).year ≤ 9999) :
    ∃ d : IsoDate, d.civil = some (watDate t) ∧ t ∈ watDay d := by
  obtain ⟨d, hd⟩ := IsoDate.exists_civil hpos hle
  exact ⟨d, hd, (mem_watDay_iff hd).mpr rfl⟩

theorem civil_eq_of_mem_watDay (h : d.civil.isSome) (ht : t ∈ watDay d) :
    d.civil = some (watDate t) := by
  obtain ⟨c, hc⟩ := Option.isSome_iff_exists.mp h
  rw [hc, (mem_watDay_iff hc).mp ht]

/-- Days of two dates have no instant in common. -/
theorem disjoint_watDay (h₁ : d₁.civil.isSome) (h₂ : d₂.civil.isSome) (hne : d₁ ≠ d₂) :
    Disjoint (watDay d₁) (watDay d₂) := by
  rw [Set.disjoint_left]
  intro t ht₁ ht₂
  exact hne (IsoDate.civil_injective (civil_eq_of_mem_watDay h₁ ht₁)
    (civil_eq_of_mem_watDay h₂ ht₂))

/-- A range of dates is made of its days. -/
theorem selected_eq_iUnion (h₁ : d₁.civil = some c₁) (h₂ : d₂.civil = some c₂) :
    selected (toDateRange (some d₁) (some d₂)) = ⋃ d ∈ datesBetween c₁ c₂, watDay d := by
  ext t
  rw [mem_selected_iff h₁ h₂, Set.mem_iUnion₂]
  constructor
  · rintro ⟨hle₁, hle₂⟩
    -- The texts bound the years, so that the date between them has a text too.
    have hyear₁ := Date.year_mono hle₁
    have hyear₂ := Date.year_mono hle₂
    rw [← (IsoDate.civil_eq_some_iff.mp h₁).1] at hyear₁
    rw [← (IsoDate.civil_eq_some_iff.mp h₂).1] at hyear₂
    have hpos : 0 ≤ (watDate t).year := by omega
    have hfour : (watDate t).year ≤ 9999 := by omega
    obtain ⟨d, hd, ht⟩ := exists_watDay hpos hfour
    exact ⟨d, ⟨watDate t, hd, hle₁, hle₂⟩, ht⟩
  · rintro ⟨d, ⟨c, hc, hle₁, hle₂⟩, ht⟩
    rw [(mem_watDay_iff hc).mp ht]
    exact ⟨hle₁, hle₂⟩

/-- Every instant whose date in WAT has a year of four digits is between the bounds of one date
and of no other, its date in WAT; a range of dates selects the disjoint union of the days of its
dates; and the bounds of a day are the range from the day to itself. -/
theorem watDays_tile :
    (∀ t : ℤ, 0 ≤ (watDate t).year → (watDate t).year ≤ 9999 →
      (∃! d : IsoDate, d.civil.isSome ∧ t ∈ watDay d) ∧
      ∀ d : IsoDate, d.civil.isSome → t ∈ watDay d → d.civil = some (watDate t)) ∧
    (∀ (d₁ d₂ : IsoDate) (c₁ c₂ : Date), d₁.civil = some c₁ → d₂.civil = some c₂ →
      selected (toDateRange (some d₁) (some d₂)) = ⋃ d ∈ datesBetween c₁ c₂, watDay d ∧
      (datesBetween c₁ c₂).PairwiseDisjoint watDay) ∧
    ∀ d : IsoDate, toDateRange (some d) (some d) =
      some { gte := some (watDayBounds d).1, lte := some (watDayBounds d).2 } := by
  refine ⟨?_, ?_, fun d => rfl⟩
  · intro t hpos hle
    obtain ⟨d, hd, ht⟩ := exists_watDay hpos hle
    refine ⟨⟨d, ⟨hd ▸ rfl, ht⟩, ?_⟩, fun e he hte => civil_eq_of_mem_watDay he hte⟩
    rintro e ⟨he, hte⟩
    exact IsoDate.civil_injective (civil_eq_of_mem_watDay he hte) hd
  · intro d₁ d₂ c₁ c₂ h₁ h₂
    refine ⟨selected_eq_iUnion h₁ h₂, ?_⟩
    rintro d ⟨c, hc, -, -⟩ e ⟨c', hc', -, -⟩ hne
    exact disjoint_watDay (hc ▸ rfl) (hc' ▸ rfl) hne

end Trips
end TransHub
