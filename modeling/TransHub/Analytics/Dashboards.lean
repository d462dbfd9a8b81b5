import TransHub.Analytics.Revenue
import TransHub.Fleet.Vehicles
import TransHub.Foundation.Reports
import TransHub.Ledger.Runs

/-!
# The dashboards

`analytics.repository`: the summary of the admin, its routes and operators with most revenue, and
the figures of one operator.  Each is a query of its own over the same tables.

* `getSummary`, `TopRoutes`, `BookingsByOperator`, `getOperatorStats`: the queries.
* `map_fst_tripBookings`, `map_fst_operatorBookings`: the joins lose and repeat no booking.
* `dashboards_reconcile`: the dashboards share out what the summary says.
-/

namespace TransHub
namespace Analytics

open Fleet (Vehicle)
open Listings

/-! ## The queries -/

/-- `AnalyticsSummary`. -/
structure AnalyticsSummary where
  totalRevenue : ℤ
  totalBookings : ℕ
  totalPassengers : ℕ
  activeTrips : ℕ
  deriving DecidableEq, Repr

/-- `status IN ('scheduled', 'active')`. -/
def isActive (trip : Trip) : Bool := trip.status == .scheduled || trip.status == .active

def getSummary (t : Tables) : AnalyticsSummary where
  totalRevenue := ((confirmed t).map fun b => b.totalAmount).sum
  totalBookings := (confirmed t).length
  totalPassengers := ((confirmed t).map fun b => b.userId).dedup.length
  activeTrips := t.trips.countP isActive

/-- `FROM bookings b JOIN trips t ON t.id = b."tripId" WHERE b.status = 'confirmed'`. -/
def tripBookings (t : Tables) : List (BookingRow × Trip) :=
  Reports.join (fun b trip => trip.id = b.tripId) (confirmed t) t.trips

/-- `TopRoute`. -/
structure TopRoute where
  route : String
  bookings : ℕ
  revenue : ℤ
  deriving DecidableEq, Repr

/-- `GROUP BY t."from", t."to"`. -/
def routes (t : Tables) : List TopRoute :=
  (Reports.groups (fun p => (p.2.fromCity, p.2.toCity)) (tripBookings t)).map fun g =>
    ⟨route g.1.1 g.1.2, g.2.length, (g.2.map fun p => p.1.totalAmount).sum⟩

/-- What `getTopRoutes(limit)` may answer. -/
def TopRoutes (limit : ℕ) (t : Tables) (answer : List TopRoute) : Prop :=
  Reports.Ranked TopRoute.revenue limit (routes t) answer

/-- `JOIN operators o ON o.id = t."operatorId"`. -/
def operatorBookings (t : Tables) : List ((BookingRow × Trip) × OperatorProfile) :=
  Reports.join (fun p o => o.id = p.2.operatorId) (tripBookings t) t.operators

/-- `OperatorStat`. -/
structure OperatorStat where
  operator : String
  bookings : ℕ
  revenue : ℤ
  deriving DecidableEq, Repr

/-- `GROUP BY o."companyName"`: operators of one name are one row. -/
def companies (t : Tables) : List OperatorStat :=
  (Reports.groups (fun q => q.2.companyName) (operatorBookings t)).map fun g =>
    ⟨g.1, g.2.length, (g.2.map fun q => q.1.1.totalAmount).sum⟩

/-- What `getBookingsByOperator(limit)` may answer. -/
def BookingsByOperator (limit : ℕ) (t : Tables) (answer : List OperatorStat) : Prop :=
  Reports.Ranked OperatorStat.revenue limit (companies t) answer

/-- `OperatorStats`. -/
structure OperatorStats where
  totalBookings : ℕ
  revenue : ℤ
  activeTrips : ℕ
  totalVehicles : ℕ
  deriving DecidableEq, Repr

/-- `b."createdAt" >= cutoff`, thirty days ago. -/
def isRecent (now : ℤ) (b : BookingRow) : Bool :=
  now - 30 * 24 * 60 * 60 * 1000 ≤ (b.createdAt : ℤ)

def getOperatorStats (now : ℤ) (operatorId : OperatorId) (t : Tables) (vehicles : List Vehicle) :
    OperatorStats :=
  let bookings := ((tripBookings t).filter fun p => isRecent now p.1).filter fun p =>
    p.2.operatorId = operatorId
  { totalBookings := bookings.length
    revenue := (bookings.map fun p => p.1.totalAmount).sum
    activeTrips :=
      ((t.trips.filter isActive).filter fun trip => trip.operatorId = operatorId).length
    totalVehicles := vehicles.countP fun v => v.operatorId == operatorId && v.active }

/-! ## The joins -/

/-- The primary key of `operators` and the foreign key of `trips` to it. -/
structure OperatorKeys (t : Tables) : Prop where
  operators : (t.operators.map OperatorProfile.id).Nodup
  trips : ∀ trip ∈ t.trips, ∃ o ∈ t.operators, o.id = trip.operatorId

section Joins

variable {t : Tables}

/-- **Each booking is joined with its trip.** -/
theorem map_fst_tripBookings (h : LedgerInv t.ledger) :
    (tripBookings t).map Prod.fst = confirmed t := by
  refine Reports.map_fst_join fun b hb => ?_
  have hmem : b.toBooking ∈ t.ledger.bookings :=
    List.mem_map_of_mem (List.mem_of_mem_filter hb)
  obtain ⟨trip, htrip, hid⟩ := h.booking_trip _ hmem
  refine ⟨trip, ?_⟩
  rw [show b.tripId = trip.id from hid.symm]
  exact Reports.filter_key h.nodup_tripIds htrip

/-- **Each of these is joined with the operator of the trip.** -/
theorem map_fst_operatorBookings (hkeys : OperatorKeys t) :
    (operatorBookings t).map Prod.fst = tripBookings t := by
  refine Reports.map_fst_join fun p hp => ?_
  obtain ⟨-, htrip, -⟩ := Reports.mem_join.mp (show (p.1, p.2) ∈ tripBookings t from hp)
  obtain ⟨o, ho, hid⟩ := hkeys.trips p.2 htrip
  refine ⟨o, ?_⟩
  rw [← hid]
  exact Reports.filter_key hkeys.operators ho

theorem sum_tripBookings (h : LedgerInv t.ledger) (f : BookingRow → ℤ) :
    ((tripBookings t).map fun p => f p.1).sum = ((confirmed t).map f).sum := by
  rw [← map_fst_tripBookings h, List.map_map]
  rfl

theorem length_tripBookings (h : LedgerInv t.ledger) :
    (tripBookings t).length = (confirmed t).length := by
  rw [← map_fst_tripBookings h, List.length_map]

theorem sum_operatorBookings (hkeys : OperatorKeys t) (f : BookingRow → ℤ) :
    ((operatorBookings t).map fun q => f q.1.1).sum =
      ((tripBookings t).map fun p => f p.1).sum := by
  rw [← map_fst_operatorBookings hkeys, List.map_map]
  rfl

theorem length_operatorBookings (hkeys : OperatorKeys t) :
    (operatorBookings t).length = (tripBookings t).length := by
  rw [← map_fst_operatorBookings hkeys, List.length_map]

end Joins

/-! ## What the dashboards add up to -/

section Totals

variable {t : Tables}

theorem routes_totals (h : LedgerInv t.ledger) :
    ((routes t).map TopRoute.bookings).sum = (getSummary t).totalBookings ∧
      ((routes t).map TopRoute.revenue).sum = (getSummary t).totalRevenue := by
  rw [routes, List.map_map, List.map_map]
  refine ⟨?_, ?_⟩
  · exact (Reports.length_groups _ _).trans (length_tripBookings h)
  · exact (Reports.sum_groups _ _ _).trans (sum_tripBookings h fun b => b.totalAmount)

theorem companies_totals (h : LedgerInv t.ledger) (hkeys : OperatorKeys t) :
    ((companies t).map OperatorStat.bookings).sum = (getSummary t).totalBookings ∧
      ((companies t).map OperatorStat.revenue).sum = (getSummary t).totalRevenue := by
  rw [companies, List.map_map, List.map_map]
  refine ⟨?_, ?_⟩
  · exact (Reports.length_groups _ _).trans
      ((length_operatorBookings hkeys).trans (length_tripBookings h))
  · exact (Reports.sum_groups _ _ _).trans
      ((sum_operatorBookings hkeys fun b => b.totalAmount).trans
        (sum_tripBookings h fun b => b.totalAmount))

/-- The operators share out the recent bookings, and the trips that are on. -/
theorem operatorStats_totals (h : LedgerInv t.ledger) (hkeys : OperatorKeys t) (now : ℤ)
    (vehicles : List Vehicle) :
    (t.operators.map fun o => (getOperatorStats now o.id t vehicles).totalBookings).sum =
        ((confirmed t).filter (isRecent now)).length ∧
      (t.operators.map fun o => (getOperatorStats now o.id t vehicles).revenue).sum =
        (((confirmed t).filter (isRecent now)).map fun b => b.totalAmount).sum ∧
      (t.operators.map fun o => (getOperatorStats now o.id t vehicles).activeTrips).sum =
        (getSummary t).activeTrips := by
  have hkey : ∀ trip ∈ t.trips, trip.operatorId ∈ t.operators.map OperatorProfile.id := by
    intro trip htrip
    obtain ⟨o, ho, hid⟩ := hkeys.trips trip htrip
    exact List.mem_map.mpr ⟨o, ho, hid⟩
  have hrecent : ((tripBookings t).filter fun p => isRecent now p.1).map Prod.fst =
      (confirmed t).filter (isRecent now) := by
    rw [← map_fst_tripBookings h, List.filter_map]
    rfl
  have hrows : ∀ p ∈ (tripBookings t).filter fun p => isRecent now p.1,
      p.2.operatorId ∈ t.operators.map OperatorProfile.id := by
    intro p hp
    have hmem : (p.1, p.2) ∈ tripBookings t := List.mem_of_mem_filter hp
    exact hkey p.2 (Reports.mem_join.mp hmem).2.1
  refine ⟨?_, ?_, ?_⟩
  · have hparts := Reports.length_parts hkeys.operators hrows
    rw [List.map_map] at hparts
    rw [← hrecent, List.length_map]
    exact hparts
  · have hparts := Reports.sum_parts hkeys.operators hrows fun p => p.1.totalAmount
    rw [List.map_map] at hparts
    rw [← hrecent, List.map_map]
    exact hparts
  · have hactive : ∀ trip ∈ t.trips.filter isActive,
        trip.operatorId ∈ t.operators.map OperatorProfile.id :=
      fun trip htrip => hkey trip (List.mem_of_mem_filter htrip)
    have hparts := Reports.length_parts hkeys.operators hactive
    rw [List.map_map] at hparts
    show _ = t.trips.countP isActive
    rw [List.countP_eq_length_filter]
    exact hparts

/-- The revenues by day come to the bookings since the cutoff. -/
theorem revenueByDay_total (now : ℤ) (days : ℕ) (t : Tables) :
    ((getRevenueByDay now days t).map RevenueByDay.revenue).sum =
      (((confirmed t).filter fun b => cutoff now days ≤ (b.createdAt : ℤ)).map
        fun b => b.totalAmount).sum := by
  rw [getRevenueByDay, List.map_map, groupSums, List.map_map]
  generalize (confirmed t).filter (fun b => cutoff now days ≤ (b.createdAt : ℤ)) = rows
  have hkeys : ((rows.map revenueDate).dedup.insertionSort (· ≤ ·)).Nodup :=
    (List.perm_insertionSort _ _).nodup_iff.mpr (List.nodup_dedup _)
  have hrows : ∀ b ∈ rows, revenueDate b ∈ (rows.map revenueDate).dedup.insertionSort (· ≤ ·) := by
    intro b hb
    rw [List.mem_insertionSort, List.mem_dedup]
    exact List.mem_map_of_mem hb
  exact Reports.sum_parts hkeys hrows fun b => b.totalAmount

end Totals

/-- A list of the rows with most revenue: with the rows that the limit cuts off, it shares out
what the summary says, and no other rows, as many, come to more. -/
def SharesOut {ρ : Type} (bookings : ρ → ℕ) (revenue : ρ → ℤ) (limit : ℕ) (rows answer : List ρ)
    (s : AnalyticsSummary) : Prop :=
  (∃ rest, (answer ++ rest).Perm rows ∧ (rest = [] ↔ rows.length ≤ limit) ∧
    ((answer ++ rest).map bookings).sum = s.totalBookings ∧
    ((answer ++ rest).map revenue).sum = s.totalRevenue) ∧
  ∀ chosen : List ρ, chosen.Subperm rows → chosen.length = answer.length →
    (chosen.map revenue).sum ≤ (answer.map revenue).sum

theorem SharesOut.of_ranked {ρ : Type} {bookings : ρ → ℕ} {revenue : ρ → ℤ} {limit : ℕ}
    {rows answer : List ρ} {s : AnalyticsSummary} (h : Reports.Ranked revenue limit rows answer)
    (htotals : (rows.map bookings).sum = s.totalBookings ∧
      (rows.map revenue).sum = s.totalRevenue) :
    SharesOut bookings revenue limit rows answer s := by
  refine ⟨?_, fun chosen hchosen hlength => h.sum_le hchosen hlength⟩
  obtain ⟨rest, hperm, hrest, -⟩ := h.exists_rest
  refine ⟨rest, hperm, hrest, ?_, ?_⟩
  · rw [(hperm.map bookings).sum_eq, htotals.1]
  · rw [(hperm.map revenue).sum_eq, htotals.2]

/-- **The dashboards reconcile.**  In every state of the ledger, the routes and the companies
with most revenue are what they say and, with those that the limit cuts off, come to the totals
of the summary; the revenues by day come to the confirmed bookings since their cutoff; and the
figures of the operators add up to the recent confirmed bookings and to the trips of the
summary. -/
theorem dashboards_reconcile {t : Tables} (h : ledger.Reachable t.ledger) (hkeys : OperatorKeys t)
    (limit : ℕ) (now : ℤ) (days : ℕ) (vehicles : List Vehicle) :
    (∀ answer, TopRoutes limit t answer →
      SharesOut TopRoute.bookings TopRoute.revenue limit (routes t) answer (getSummary t)) ∧
    (∀ answer, BookingsByOperator limit t answer →
      SharesOut OperatorStat.bookings OperatorStat.revenue limit (companies t) answer
        (getSummary t)) ∧
    ((getRevenueByDay now days t).map RevenueByDay.revenue).sum =
      (((confirmed t).filter fun b => cutoff now days ≤ (b.createdAt : ℤ)).map
        fun b => b.totalAmount).sum ∧
    (t.operators.map fun o => (getOperatorStats now o.id t vehicles).totalBookings).sum =
      ((confirmed t).filter (isRecent now)).length ∧
    (t.operators.map fun o => (getOperatorStats now o.id t vehicles).revenue).sum =
      (((confirmed t).filter (isRecent now)).map fun b => b.totalAmount).sum ∧
    (t.operators.map fun o => (getOperatorStats now o.id t vehicles).activeTrips).sum =
      (getSummary t).activeTrips := by
  have hinv := ledger_inv h
  exact ⟨fun _ hanswer => .of_ranked hanswer (routes_totals hinv),
    fun _ hanswer => .of_ranked hanswer (companies_totals hinv hkeys),
    revenueByDay_total now days t, operatorStats_totals hinv hkeys now vehicles⟩

/-! ## Two companies -/

/-- Two operators put a trip online each, and sell a seat. -/
def marketRun : List Attempt :=
  [⟨.createTrip 1 (fun i => 10 + i) twoSeats 3, false⟩,
    ⟨.createTrip 2 (fun i => 20 + i) { twoSeats with toCity := "Benin", price := 9000 } 4, false⟩,
    ⟨.holdSeats (fun _ => false) 1 1 7 0, false⟩,
    ⟨.holdSeats (fun _ => false) 2 1 8 0, false⟩,
    ⟨.confirm ⟨50, fun i => 30 + i, fun i => 40 + i⟩ ⟨99, 1, [10], none⟩ 7 5000, false⟩,
    ⟨.confirm ⟨51, fun i => 60 + i, fun i => 70 + i⟩ ⟨98, 2, [20], none⟩ 8 9000, false⟩]

theorem marketRun_runs : (ledger.run registered marketRun).isSome = true := by decide +kernel

def marketLedger : DB := (ledger.run registered marketRun).get marketRun_runs

def market : Tables where
  users := [⟨7, "Ada", "ada@mail.example", "08030000007"⟩,
    ⟨8, "Obi", "obi@mail.example", "08030000008"⟩]
  operators := [⟨3, "Swift"⟩, ⟨4, "Royal"⟩]
  trips := marketLedger.trips
  seats := marketLedger.seats
  bookings := marketLedger.bookings.map fun b => { b with createdAt := 1784503800000 }
  bookedSeats := marketLedger.bookedSeats
  passengers := marketLedger.passengers

theorem market_reachable : ledger.Reachable market.ledger := by
  have hledger : market.ledger = marketLedger := by decide +kernel
  rw [hledger]
  exact ⟨registered, ⟨[7, 8], rfl⟩, marketRun, (Option.some_get marketRun_runs).symm⟩

theorem market_keys : OperatorKeys market where
  operators := by decide +kernel
  trips := by decide +kernel

/-- The road to Benin has brought in most. -/
def toBenin : TopRoute := ⟨"Lagos → Benin", 1, 9000⟩

theorem dashboards_reconcile_market : getSummary market = ⟨14000, 2, 2, 2⟩ ∧
    SharesOut TopRoute.bookings TopRoute.revenue 1 (routes market) [toBenin]
      (getSummary market) := by
  have htop : TopRoutes 1 market [toBenin] :=
    ⟨[toBenin, ⟨"Lagos → Abuja", 1, 5000⟩], by decide +kernel, by decide, rfl⟩
  exact ⟨by decide +kernel, (dashboards_reconcile market_reachable market_keys 1 0 0 []).1 _ htop⟩

end Analytics
end TransHub
