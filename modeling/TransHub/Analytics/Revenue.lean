import TransHub.Foundation.Aggregates
import TransHub.Listings.Isolation
import Mathlib.Algebra.Order.Group.Int

/-!
# Revenue by day

`getRevenueByDay` groups the confirmed bookings by the day of `AT TIME ZONE` and cuts them off
some days ago; the admin's list takes a day from its midnight in WAT.

* `getRevenueByDay`: the query, with the days of the calendar counted from the epoch.
* `watDay`, `watRevenue`: the day of an instant in WAT, and what its bookings amount to;
  `adminWhere_iff` and `adminRevenue_eq` say that this is the day of the admin's list.
* `miscounted`, `missed`: what the query counts for a day although it belongs to the next one,
  and what it leaves out.
* `revenueByDay_iff`: the revenues are per day in WAT exactly when the two amount to the same.
-/

namespace TransHub
namespace Analytics

open Listings

/-! ## The query -/

/-- `Date.now() - days * 24 * 60 * 60 * 1000 - 60 * 60 * 1000`. -/
def cutoff (now : ℤ) (days : ℕ) : ℤ := now - days * 24 * 60 * 60 * 1000 - 60 * 60 * 1000

/-- `timestamp AT TIME ZONE zone` of a timestamp without time zone: the instant at which the
clocks of the zone, `offset` ahead of UTC, show it. -/
def atTimeZone (timestamp offset : ℤ) : ℤ := timestamp - offset

/-- `DATE` of an instant, on the clocks of the session. -/
def date (session instant : ℤ) : ℤ := (instant + session) / 86400000

/-- The offset of `Africa/Lagos`. -/
def lagos : ℤ := 3600000

/-- The offset of the session, which is in UTC. -/
def session : ℤ := 0

/-- `DATE("createdAt" AT TIME ZONE 'Africa/Lagos')`. -/
def revenueDate (b : BookingRow) : ℤ := date session (atTimeZone b.createdAt lagos)

/-- `RevenueByDay`, its date as the days since the epoch. -/
structure RevenueByDay where
  date : ℤ
  revenue : ℤ
  deriving DecidableEq, Repr

/-- `status = 'confirmed'`. -/
def confirmed (t : Tables) : List BookingRow := t.bookings.filter fun b => b.status == .confirmed

def getRevenueByDay (now : ℤ) (days : ℕ) (t : Tables) : List RevenueByDay :=
  (groupSums revenueDate (fun b => b.totalAmount)
    ((confirmed t).filter fun b => cutoff now days ≤ (b.createdAt : ℤ))).map fun g => ⟨g.1, g.2⟩

/-- The rows come by date, one for each. -/
theorem getRevenueByDay_sorted (now : ℤ) (days : ℕ) (t : Tables) :
    ((getRevenueByDay now days t).map RevenueByDay.date).Pairwise (· < ·) := by
  rw [getRevenueByDay, List.map_map]
  exact groupSums_sorted

/-! ## The days of WAT -/

/-- The day of an instant in WAT, an hour ahead of UTC. -/
def watDay (instant : ℤ) : ℤ := (instant + 3600000) / 86400000

/-- What the confirmed bookings of a day in WAT amount to. -/
def watRevenue (day : ℤ) (t : Tables) : ℤ :=
  (((confirmed t).filter fun b => watDay b.createdAt = day).map fun b => b.totalAmount).sum

/-- The bookings that the admin's list selects with `status=confirmed` and both dates `d`. -/
def adminBookings (text : SearchText) (d : IsoDate) (t : Tables) : List BookingRecord :=
  t.bookingRecords.filter (allOf (buildBookingWhere text
    { status := some .confirmed, dateFrom := some d, dateTo := some d }))

/-- **The list takes the day in WAT.** -/
theorem adminWhere_iff {text : SearchText} {d : IsoDate} (hvalid : (d.toDate 0).isSome = true)
    (b : BookingRecord) :
    allOf (buildBookingWhere text
        { status := some .confirmed, dateFrom := some d, dateTo := some d }) b = true ↔
      b.status = .confirmed ∧ watDay b.createdAt = d.toDays := by
  have hwindow : (Range.containsTime ⟨some (d.toDate 0), some (d.toDate 86399999)⟩
      b.createdAt = true) ↔ watDay b.createdAt = d.toDays :=
    IsoDate.toDate_bounds_iff hvalid b.createdAt
  rw [← hwindow, allOf_eq_true]
  simp [buildBookingWhere, pushIf, toNumberRange, toDateRange, Range.of]

/-- The bookings of the list amount to the revenue of the day. -/
theorem adminRevenue_eq {text : SearchText} {d : IsoDate} (hvalid : (d.toDate 0).isSome = true)
    (t : Tables) :
    ((adminBookings text d t).map fun b => b.totalAmount).sum = watRevenue d.toDays t := by
  have hfilter : t.bookings.filter (fun b => allOf (buildBookingWhere text
        { status := some .confirmed, dateFrom := some d, dateTo := some d })
          { Bookings.toDTO t.ledger b.toBooking with
            createdAt := b.createdAt
            user := t.findUser b.userId }) =
      (confirmed t).filter fun b => watDay b.createdAt = d.toDays := by
    rw [confirmed, List.filter_filter]
    refine List.filter_congr fun b _ => ?_
    rw [Bool.eq_iff_iff, adminWhere_iff hvalid, Bool.and_eq_true, beq_iff_eq, decide_eq_true_eq,
      and_comm]
    exact Iff.rfl
  rw [adminBookings, Tables.bookingRecords, List.filter_map, List.map_map, watRevenue]
  exact congrArg (fun rows => (rows.map fun b : BookingRow => b.totalAmount).sum) hfilter

/-! ## The two days -/

/-- What the confirmed bookings amount to that were created from `a` on and before `b`. -/
def revenueBetween (t : Tables) (a b : ℤ) : ℤ :=
  sumBetween (fun b : BookingRow => (b.createdAt : ℤ)) (fun b => b.totalAmount) (confirmed t) a b

/-- The bookings of a day in WAT, from an hour before its midnight in UTC. -/
theorem watRevenue_eq (day : ℤ) (t : Tables) : watRevenue day t =
    revenueBetween t (day * 86400000 - 3600000) (day * 86400000 + 82800000) := by
  rw [watRevenue, revenueBetween, sumBetween]
  congr 2
  refine List.filter_congr fun b _ => ?_
  rw [decide_eq_decide, watDay]
  omega

/-- The date of a booking in the query. -/
theorem revenueDate_eq_iff (b : BookingRow) (day : ℤ) : revenueDate b = day ↔
    day * 86400000 + 3600000 ≤ (b.createdAt : ℤ) ∧
      (b.createdAt : ℤ) < day * 86400000 + 90000000 := by
  rw [revenueDate, date, session, atTimeZone, lagos]
  omega

/-- **The query takes a day from an hour after its midnight in UTC.**  That is two hours late. -/
theorem mem_getRevenueByDay {now : ℤ} {days : ℕ} {t : Tables} {row : RevenueByDay} :
    row ∈ getRevenueByDay now days t ↔
      (∃ b ∈ confirmed t, cutoff now days ≤ b.createdAt ∧
        row.date * 86400000 + 3600000 ≤ (b.createdAt : ℤ) ∧
        (b.createdAt : ℤ) < row.date * 86400000 + 90000000) ∧
      row.revenue = revenueBetween t (max (cutoff now days) (row.date * 86400000 + 3600000))
        (row.date * 86400000 + 90000000) := by
  have hrows : ((confirmed t).filter fun b => cutoff now days ≤ (b.createdAt : ℤ)).filter
        (fun b => revenueDate b = row.date) =
      (confirmed t).filter fun b =>
        max (cutoff now days) (row.date * 86400000 + 3600000) ≤ (b.createdAt : ℤ) ∧
          (b.createdAt : ℤ) < row.date * 86400000 + 90000000 := by
    rw [List.filter_filter]
    refine List.filter_congr fun b _ => ?_
    rw [Bool.eq_iff_iff, Bool.and_eq_true, decide_eq_true_eq, decide_eq_true_eq,
      decide_eq_true_eq, revenueDate_eq_iff, max_le_iff]
    tauto
  have hgroup : row ∈ getRevenueByDay now days t ↔
      (row.date, row.revenue) ∈ groupSums revenueDate (fun b => b.totalAmount)
        ((confirmed t).filter fun b => cutoff now days ≤ (b.createdAt : ℤ)) := by
    rw [getRevenueByDay, List.mem_map]
    constructor
    · rintro ⟨g, hg, rfl⟩
      exact hg
    · intro hg
      exact ⟨_, hg, rfl⟩
  rw [hgroup, mem_groupSums, hrows]
  refine and_congr ?_ Iff.rfl
  constructor
  · rintro ⟨b, hb, hdate⟩
    rw [List.mem_filter, decide_eq_true_eq] at hb
    exact ⟨b, hb.1, hb.2, (revenueDate_eq_iff b _).mp hdate⟩
  · rintro ⟨b, hb, hcut, hdate⟩
    refine ⟨b, ?_, (revenueDate_eq_iff b _).mpr hdate⟩
    rw [List.mem_filter, decide_eq_true_eq]
    exact ⟨hb, hcut⟩

/-! ## When the revenue is per day in WAT -/

/-- What the query counts for a day although it belongs to the next one: the two hours before
one in the morning of that. -/
def miscounted (now : ℤ) (days : ℕ) (day : ℤ) (t : Tables) : ℤ :=
  revenueBetween t (max (cutoff now days) (day * 86400000 + 82800000)) (day * 86400000 + 90000000)

/-- What it leaves out of the day: its first two hours, and what lies before the cutoff. -/
def missed (now : ℤ) (days : ℕ) (day : ℤ) (t : Tables) : ℤ :=
  revenueBetween t (day * 86400000 - 3600000)
    (min (max (cutoff now days) (day * 86400000 + 3600000)) (day * 86400000 + 82800000))

/-- **When the revenue is per day in WAT.**  Each date of the output has the revenue of that
day in WAT, which is the total of what the admin's list selects for the date, exactly when on
each date that is there the bookings of the next day that it counts amount to as much as those
of its own that it leaves out. -/
theorem revenueByDay_iff (now : ℤ) (days : ℕ) (t : Tables) :
    (∀ row ∈ getRevenueByDay now days t, row.revenue = watRevenue row.date t ∧
      ∀ (text : SearchText) (d : IsoDate), (d.toDate 0).isSome = true → d.toDays = row.date →
        row.revenue = ((adminBookings text d t).map fun b => b.totalAmount).sum) ↔
      ∀ day : ℤ, (∃ b ∈ confirmed t, cutoff now days ≤ b.createdAt ∧
        day * 86400000 + 3600000 ≤ (b.createdAt : ℤ) ∧
        (b.createdAt : ℤ) < day * 86400000 + 90000000) →
          miscounted now days day t = missed now days day t := by
  -- both windows of a day, by what lies in only one of them
  have hwindows : ∀ day : ℤ, revenueBetween t (max (cutoff now days) (day * 86400000 + 3600000))
        (day * 86400000 + 90000000) = watRevenue day t ↔
      miscounted now days day t = missed now days day t := by
    intro day
    have hmax : max (max (cutoff now days) (day * 86400000 + 3600000)) (day * 86400000 + 82800000)
        = max (cutoff now days) (day * 86400000 + 82800000) := by
      omega
    rw [watRevenue_eq, revenueBetween, revenueBetween,
      sumBetween_eq_iff _ _ _ (le_max_of_le_right (by omega)) (by omega), hmax]
    exact Iff.rfl
  constructor
  · rintro h day ⟨b, hb, hcut, hdate⟩
    have hrow : (⟨day, revenueBetween t (max (cutoff now days) (day * 86400000 + 3600000))
        (day * 86400000 + 90000000)⟩ : RevenueByDay) ∈ getRevenueByDay now days t :=
      mem_getRevenueByDay.mpr ⟨⟨b, hb, hcut, hdate⟩, rfl⟩
    exact (hwindows day).mp (h _ hrow).1
  · intro h row hrow
    obtain ⟨hsome, hrevenue⟩ := mem_getRevenueByDay.mp hrow
    have hwat := hrevenue.trans ((hwindows row.date).mpr (h row.date hsome))
    refine ⟨hwat, ?_⟩
    intro text d hvalid hday
    rw [adminRevenue_eq hvalid, hday]
    exact hwat

/-! ## A booking at half past midnight -/

/-- A booking of half past midnight, on the twentieth of July 2026 in WAT. -/
def halfPastMidnight : Tables where
  bookings := [{ id := 20, userId := 7, tripId := 1, status := .confirmed, totalAmount := 5000
                 paymentRef := some 99, createdAt := 1784503800000 }]

/-- **It counts for the nineteenth.**  On that day there was no booking in WAT, and the admin's
list shows this one on the twentieth. -/
theorem halfPastMidnight_revenue :
    getRevenueByDay 1784548800000 30 halfPastMidnight = [⟨(IsoDate.mk 2026 7 19).toDays, 5000⟩] ∧
      watRevenue (IsoDate.mk 2026 7 19).toDays halfPastMidnight = 0 ∧
      (adminBookings plainText ⟨2026, 7, 19⟩ halfPastMidnight).length = 0 ∧
      (adminBookings plainText ⟨2026, 7, 20⟩ halfPastMidnight).length = 1 := by
  exact ⟨by decide +kernel, by decide +kernel, by decide +kernel, by decide +kernel⟩

end Analytics
end TransHub
