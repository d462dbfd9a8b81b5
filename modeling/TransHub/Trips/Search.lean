import TransHub.Foundation.Slices
import TransHub.Ledger.Trips
import TransHub.Shared.Listing
import Mathlib.Algebra.GroupWithZero.Nat

/-!
# Trip search

`tripsRepository.search` and the pages a client reads with it.

* `searchWhere`: the conditions of the statement; `searchWhere_iff` reads them against
  `SearchTripsQuery.Matches`.
* `search`: the statement with its `take`, the filter on the derived availability and the slice.
* `searchAll`: the pages from the first to the last, one after the other.

The database sorts by a `TripOrder`, whatever it does with rows of one key.
-/

namespace TransHub
namespace Trips

/-! ## The query -/

inductive TripSort where
  | departure
  | priceAsc
  | priceDesc
  deriving DecidableEq, Repr

/-- What `searchTripsQuerySchema` lets through. -/
structure SearchTripsQuery where
  fromCity : String
  toCity : String
  date : IsoDate
  passengers : ℕ := 1
  vehicleType : Option String := none
  minPrice : Option ℤ := none
  maxPrice : Option ℤ := none
  amenities : List String := []
  operatorId : Option OperatorId := none
  sort : TripSort := .departure
  pagination : PaginationQuery := {}

/-- The same query for the page after `n` others. -/
def SearchTripsQuery.afterPages (q : SearchTripsQuery) (n : ℕ) : SearchTripsQuery :=
  { q with pagination := { q.pagination with page := n + 1, page_pos := Nat.le_add_left 1 n } }

/-- `watDayBounds`. -/
def watDayBounds (date : IsoDate) : Option ℤ × Option ℤ :=
  (date.toDate 0, date.toDate 86399999)

/-- The `where` of `search`. -/
def searchWhere (q : SearchTripsQuery) : List (Trip → Bool) :=
  [fun t => t.fromCity == q.fromCity,
    fun t => t.toCity == q.toCity,
    fun t => (watDayBounds q.date).1.any (fun b => b ≤ t.departureTime) &&
      (watDayBounds q.date).2.any fun b => t.departureTime ≤ b,
    fun t => [TripStatus.scheduled, .active].contains t.status,
    fun t => t.isActive,
    fun t => !t.isFull] ++
  pushIf (q.vehicleType.filter (fun v => v != "")) (fun v t => t.vehicleType == v) ++
  pushIf (toNumberRange q.minPrice q.maxPrice) (fun range t => range.contains t.price) ++
  pushIf (if q.amenities.isEmpty then none else some q.amenities)
    (fun amenities t => amenities.all fun a => t.amenities.contains a) ++
  pushIf q.operatorId fun o t => t.operatorId == o

/-- The statement is refused for a date that is none, and for a price that the column cannot
hold. -/
def SearchTripsQuery.accepted (q : SearchTripsQuery) : Bool :=
  (watDayBounds q.date).1.isSome && (q.minPrice.all fitsInt4 && q.maxPrice.all fitsInt4)

/-- The order by the keys of `orderBy`. -/
def TripSort.keyLe : TripSort → Trip → Trip → Bool
  | .departure, a, b => a.departureTime ≤ b.departureTime
  | .priceAsc, a, b =>
      a.price < b.price || (a.price == b.price && a.departureTime ≤ b.departureTime)
  | .priceDesc, a, b =>
    b.price < a.price || (a.price == b.price && a.departureTime ≤ b.departureTime)

/-- How the database sorts: a total order that refines the keys. -/
structure TripOrder where
  le : TripSort → Trip → Trip → Bool
  total : ∀ sort a b, le sort a b || le sort b a
  trans : ∀ sort a b c, le sort a b → le sort b c → le sort a c
  refines : ∀ sort a b, le sort a b → sort.keyLe a b

/-- The order that leaves rows of one key as the table has them. -/
def TripOrder.byKey : TripOrder where
  le := TripSort.keyLe
  total := by
    intro sort a b
    cases sort <;> simp only [TripSort.keyLe, Bool.or_eq_true, Bool.and_eq_true, beq_iff_eq,
      decide_eq_true_eq] <;> omega
  trans := by
    intro sort a b c
    cases sort <;> simp only [TripSort.keyLe, Bool.or_eq_true, Bool.and_eq_true, beq_iff_eq,
      decide_eq_true_eq] <;> omega
  refines := fun _ _ _ h => h

/-! ## The search -/

section
variable (order : TripOrder) (q : SearchTripsQuery) (db : DB)

/-- A trip as the list shows it, with the seats the statement counts for it. -/
def advertised (t : Trip) : TripDTO := toListDTO t (countAvailableSeats t.id db.seats)

/-- The cap on the rows that the statement fetches. -/
def safetyCap : ℕ := 500

/-- The rows that the database sorts before it counts off the first of them. -/
def matching : List Trip :=
  (db.trips.filter (allOf (searchWhere q))).insertionSort fun a b => order.le q.sort a b = true

/-- `prisma.trip.findMany` with its `where`, `orderBy` and `take`. -/
def findMatching : List Trip := (matching order q db).take safetyCap

/-- The trips fetched, as the list shows them, that have room. -/
def searchFiltered : List TripDTO :=
  ((findMatching order q db).map (advertised db)).filter fun t =>
    (q.passengers : ℤ) ≤ t.availableSeats

/-- `tripsRepository.search`. -/
def search : Except Thrown (Page TripDTO) := do
  ensure q.accepted (.db .failed)
  let filtered := searchFiltered order q db
  return { items := q.pagination.skipTake filtered, total := filtered.length }

/-- The pages from the first to the last, and the total of the first. -/
def searchAll : Except Thrown (Page TripDTO) := do
  let first ← search order (q.afterPages 0) db
  let pages ← (List.range (pageMeta first.total q.pagination).totalPages).mapM fun n =>
    search order (q.afterPages n) db
  return { items := pages.flatMap fun page => page.items, total := first.total }

end

/-! ## What a search asks for -/

/-- Statements that all return are statements whose values are listed. -/
theorem mapM_eq_ok {α β : Type} {f : α → Except Thrown β} {g : α → β} (l : List α)
    (h : ∀ a ∈ l, f a = .ok (g a)) : l.mapM f = .ok (l.map g) := by
  induction l with
  | nil => rfl
  | cons a l ih =>
    have htail := ih fun b hb => h b (List.mem_cons_of_mem _ hb)
    rw [List.mapM_cons, h a List.mem_cons_self, htail]
    rfl

/-- The trip a query asks for, its free seats aside. -/
structure SearchTripsQuery.Matches (q : SearchTripsQuery) (t : Trip) : Prop where
  route : t.fromCity = q.fromCity ∧ t.toCity = q.toCity
  /-- The day of the departure in WAT. -/
  day : (t.departureTime + 3600000) / 86400000 = q.date.toDays
  status : t.status = .scheduled ∨ t.status = .active
  isActive : t.isActive = true
  notFull : t.isFull = false
  vehicleType : ∀ v ∈ q.vehicleType, v ≠ "" → t.vehicleType = v
  minPrice : ∀ p ∈ q.minPrice, p ≤ t.price
  maxPrice : ∀ p ∈ q.maxPrice, t.price ≤ p
  amenities : ∀ a ∈ q.amenities, a ∈ t.amenities
  operatorId : ∀ o ∈ q.operatorId, t.operatorId = o

/-- Between the bounds of a day in WAT are the instants of the day. -/
theorem watDayBounds_iff {date : IsoDate} (hdate : (date.toDate 0).isSome) (x : ℤ) :
    ((watDayBounds date).1.any (fun b => b ≤ x) && (watDayBounds date).2.any fun b => x ≤ b) =
      true ↔ (x + 3600000) / 86400000 = date.toDays :=
  IsoDate.toDate_bounds_iff hdate x

/-- A filter value that is not set asks for nothing. -/
theorem allOf_pushIf {α ρ : Type} {value : Option α} {condition : α → ρ → Bool} {r : ρ} :
    allOf (pushIf value condition) r = true ↔ ∀ v ∈ value, condition v r = true := by
  cases value <;> simp [allOf, pushIf]

theorem allOf_append {ρ : Type} {c d : List (ρ → Bool)} {r : ρ} :
    allOf (c ++ d) r = true ↔ allOf c r = true ∧ allOf d r = true := by
  simp only [allOf, List.all_append, Bool.and_eq_true]

/-- A price within the range that the bounds make. -/
theorem mem_toNumberRange {min max : Option ℤ} {x : ℤ} :
    (∀ range ∈ toNumberRange min max, range.contains x = true) ↔
      (∀ p ∈ min, p ≤ x) ∧ ∀ p ∈ max, x ≤ p := by
  cases min <;> cases max <;> simp [toNumberRange, Range.of, Range.contains]

/-- The statement selects the trips that the query asks for. -/
theorem searchWhere_iff {q : SearchTripsQuery} (hdate : (q.date.toDate 0).isSome) (t : Trip) :
    allOf (searchWhere q) t = true ↔ q.Matches t := by
  have hday := watDayBounds_iff hdate t.departureTime
  have hamenities : (∀ amenities ∈ (if q.amenities.isEmpty then none else some q.amenities),
      (amenities.all fun a => t.amenities.contains a) = true) ↔
        ∀ a ∈ q.amenities, a ∈ t.amenities := by
    cases q.amenities <;> simp
  have hvehicle : (∀ v ∈ q.vehicleType.filter (fun v => v != ""), (t.vehicleType == v) = true) ↔
      ∀ v ∈ q.vehicleType, v ≠ "" → t.vehicleType = v := by
    simp
  rw [searchWhere, allOf_append, allOf_append, allOf_append, allOf_append, allOf_pushIf,
    allOf_pushIf, allOf_pushIf, allOf_pushIf, hamenities, hvehicle, mem_toNumberRange]
  simp only [allOf, List.all_cons, List.all_nil, Bool.and_true, Bool.and_eq_true, beq_iff_eq]
  rw [← Bool.and_eq_true, hday]
  constructor
  · rintro ⟨⟨⟨⟨⟨hfrom, hto, hd, hs, ha, hf⟩, hv⟩, hmin, hmax⟩, ham⟩, ho⟩
    exact ⟨⟨hfrom, hto⟩, hd, by simpa using hs, ha, by simpa using hf, hv, hmin, hmax, ham, ho⟩
  · intro h
    exact ⟨⟨⟨⟨⟨h.route.1, h.route.2, h.day, by simpa using h.status, h.isActive,
      by simpa using h.notFull⟩, h.vehicleType⟩, h.minPrice, h.maxPrice⟩, h.amenities⟩,
      h.operatorId⟩

/-! ## The pages of a search -/

section
variable {order : TripOrder} {q : SearchTripsQuery} {db : DB}

theorem pairwise_matching : (matching order q db).Pairwise fun a b => order.le q.sort a b := by
  have : Std.Total fun a b => order.le q.sort a b = true :=
    ⟨fun a b => Bool.or_eq_true _ _ ▸ order.total q.sort a b⟩
  have : IsTrans Trip fun a b => order.le q.sort a b = true := ⟨order.trans q.sort⟩
  exact List.pairwise_insertionSort _ _

theorem nodup_matching (hids : (db.trips.map Trip.id).Nodup) : (matching order q db).Nodup := by
  have htrips : db.trips.Nodup := hids.of_map
  exact (List.perm_insertionSort _ _).nodup_iff.mpr (htrips.filter _)

theorem mem_matching (hdate : (q.date.toDate 0).isSome) (t : Trip) :
    t ∈ matching order q db ↔ t ∈ db.trips ∧ q.Matches t := by
  rw [matching, List.mem_insertionSort, List.mem_filter, searchWhere_iff hdate]

/-- The trips with room, before and after they are shown. -/
theorem searchFiltered_eq : searchFiltered order q db =
    (((matching order q db).take safetyCap).filter fun t =>
      (q.passengers : ℤ) ≤ (advertised db t).availableSeats).map (advertised db) := by
  rw [searchFiltered, List.filter_map]
  rfl

/-- A page of an accepted query. -/
theorem search_afterPages (order : TripOrder) (db : DB) (haccepted : q.accepted = true) (n : ℕ) :
    search order (q.afterPages n) db = .ok
      { items := ((searchFiltered order q db).drop (n * q.pagination.limit)).take
          q.pagination.limit
        total := (searchFiltered order q db).length } := by
  have hens : ensure (q.afterPages n).accepted (.db .failed) = .ok () := ensure_eq_ok.mpr haccepted
  rw [search, hens]
  rfl

/-- The pages of an accepted query hold what the search filtered. -/
theorem searchAll_eq (haccepted : q.accepted = true) : searchAll order q db = .ok
    { items := searchFiltered order q db, total := (searchFiltered order q db).length } := by
  set filtered := searchFiltered order q db with hfiltered
  have hpages := mapM_eq_ok (List.range (pageMeta filtered.length q.pagination).totalPages)
    fun n _ => search_afterPages order db haccepted n
  have hall := total_le_totalPages filtered.length q.pagination
  have hitems : ((List.range (pageMeta filtered.length q.pagination).totalPages).flatMap fun n =>
      (filtered.drop (n * q.pagination.limit)).take q.pagination.limit) = filtered := by
    exact Slices.flatMap_slice_of_le hall
  rw [searchAll, search_afterPages order db haccepted 0]
  simp only [bind, Except.bind]
  rw [← hfiltered] at hpages ⊢
  rw [hpages]
  simp only [List.flatMap_map, hitems]
  rfl

/-- The pages of a search, one after the other, are the trips with room among those that the cap
lets through of the trips asked for, in order and each of them once; every page reports their
number, and below the cap there are no others.  A query that the database does not accept has no
page. -/
theorem search_pages (order : TripOrder) (q : SearchTripsQuery) (db : DB)
    (hids : (db.trips.map Trip.id).Nodup) :
    (q.accepted = false → ∀ n, search order (q.afterPages n) db = .error (.db .failed)) ∧
    (q.accepted = true → ∃ matched : List Trip, matched.Nodup ∧
      (matched.Pairwise fun a b => order.le q.sort a b) ∧
      (∀ t, t ∈ matched ↔ t ∈ db.trips ∧ q.Matches t) ∧
      ∃ items, searchAll order q db = .ok { items, total := items.length } ∧
        (∀ n, ∃ page, search order (q.afterPages n) db = .ok page ∧ page.total = items.length) ∧
        items = ((matched.take 500).filter fun t =>
          (q.passengers : ℤ) ≤ (advertised db t).availableSeats).map (advertised db) ∧
        (matched.length ≤ 500 → items = (matched.filter fun t =>
          (q.passengers : ℤ) ≤ (advertised db t).availableSeats).map (advertised db))) := by
  constructor
  · intro hrefused n
    have hens : ensure (q.afterPages n).accepted (.db .failed) = .error (.db .failed) :=
      ensure_eq_error.mpr ⟨hrefused, rfl⟩
    rw [search, hens]
    rfl
  · intro haccepted
    have hdate : (q.date.toDate 0).isSome := (Bool.and_eq_true_iff.mp haccepted).1
    refine ⟨matching order q db, nodup_matching hids, pairwise_matching, mem_matching hdate,
      searchFiltered order q db, searchAll_eq haccepted,
      fun n => ⟨_, search_afterPages order db haccepted n, rfl⟩, searchFiltered_eq, ?_⟩
    intro hfew
    rw [searchFiltered_eq, safetyCap, List.take_of_length_le hfew]

def busyTrip (i : ℕ) : Trip :=
  { id := i, operatorId := 1, fromCity := "Oyo", toCity := "Aba", departureTime := i
    arrivalTime := none, price := 5000, totalSeats := 1, vehicleType := "Bus", driverId := none
    parkName := none, amenities := [] }

/-- Five hundred full trips of a route and day, and a later one with a free seat. -/
def busyRoute : DB where
  users := []
  trips := (List.range 501).map busyTrip
  seats := (List.range 501).map fun (i : ℕ) =>
    { id := i, tripId := i, label := ⟨65, 1⟩, status := if i < 500 then .booked else .available }
  bookings := []
  bookedSeats := []
  passengers := []

def busyQuery : SearchTripsQuery where
  fromCity := "Oyo"
  toCity := "Aba"
  date := ⟨⟨1970, by decide⟩, ⟨1, by decide⟩, ⟨1, by decide⟩⟩
  pagination := { page_pos := Nat.one_pos }

theorem nodup_busyRoute : (busyRoute.trips.map Trip.id).Nodup := by
  have hids : busyRoute.trips.map Trip.id = List.range 501 := by
    rw [busyRoute, List.map_map]
    exact List.map_id _
  exact hids ▸ List.nodup_range

theorem search_pages_busyRoute : ∃ items,
    searchAll .byKey busyQuery busyRoute = .ok { items, total := items.length } := by
  obtain ⟨matched, -, -, -, items, hall, -⟩ :=
    (search_pages .byKey busyQuery busyRoute nodup_busyRoute).2 (by decide)
  exact ⟨items, hall⟩

/-- The one free seat is the last trip's. -/
theorem countAvailableSeats_busyRoute {i : ℕ} (hi : i < 500) :
    countAvailableSeats i busyRoute.seats = 0 := by
  rw [countAvailableSeats, List.countP_eq_zero]
  intro s hs
  simp only [busyRoute, List.mem_map] at hs
  obtain ⟨j, hrange, rfl⟩ := hs
  by_cases hj : j < 500
  · simp [hj]
  · have hne : j ≠ i := by omega
    simp [hne]

/-- The trip with the free seat is on no page of the search. -/
theorem busyRoute_search_empty : (busyRoute.trips.map Trip.id).Nodup ∧ busyQuery.accepted = true ∧
    (∃ t ∈ busyRoute.trips, busyQuery.Matches t ∧
      (busyQuery.passengers : ℤ) ≤ (advertised busyRoute t).availableSeats) ∧
    searchAll .byKey busyQuery busyRoute = .ok { items := [], total := 0 } := by
  have hfetched : (findMatching .byKey busyQuery busyRoute).all fun t => t.id < 500 := by
    decide +kernel
  have hfull : searchFiltered .byKey busyQuery busyRoute = [] := by
    rw [searchFiltered, List.filter_eq_nil_iff]
    intro dto hdto
    obtain ⟨t, ht, rfl⟩ := List.mem_map.mp hdto
    have hid : t.id < 500 := of_decide_eq_true (List.all_eq_true.mp hfetched t ht)
    have hcount := countAvailableSeats_busyRoute hid
    simp only [advertised, toListDTO, hcount, busyQuery, decide_eq_true_eq]
    omega
  have haccepted : busyQuery.accepted = true := by decide
  refine ⟨nodup_busyRoute, haccepted, ?_, ?_⟩
  · have hlast : busyTrip 500 ∈ busyRoute.trips := by
      simp only [busyRoute]
      exact List.mem_map_of_mem (List.mem_range.mpr (Nat.lt_succ_self 500))
    have hmatches : busyQuery.Matches (busyTrip 500) :=
      (searchWhere_iff (by decide) _).mp (by decide)
    exact ⟨busyTrip 500, hlast, hmatches, by decide +kernel⟩
  · rw [searchAll_eq haccepted, hfull]
    rfl

end

end Trips
end TransHub
