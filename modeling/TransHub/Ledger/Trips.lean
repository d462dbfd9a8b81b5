import TransHub.Ledger.Inventory
import Mathlib.Data.List.Basic

/-!
# Trips

`trips.repository` and `trips.service`: the statements that create, edit and delete
a trip, and the availability it advertises.

* `create`: the trip row and its generated seats in one statement; `create_ok`.
* `delete`: refused while a booking or a booked seat refers to what it would
  remove; `delete_ok`.
* `toListDTO`: the advertised `availableSeats`, which leaves out the walk-ins.
* `setOfflineCount`, `markFull`, `toggleActive`: the edits, all of them a
  `Table.updateMany` that leaves the id and `totalSeats` alone.
-/

namespace TransHub
namespace Trips

/-! ## Creating a trip -/

/-- The label of the `i`-th seat, four to a row.  `String.fromCharCode` reduces its
argument modulo `2 ^ 16`. -/
def seatLabel (i : ℕ) : SeatLabel :=
  ⟨(65 + i / 4) % 65536, i % 4 + 1⟩

/-- `generateSeatLabels`. -/
def generateSeatLabels (count : ℕ) : List SeatLabel :=
  (List.range count).map seatLabel

/-- The seat rows of a new trip; `seatUuid` are the generated ids. -/
def newSeats (tripId : TripId) (seatUuid : ℕ → SeatId) (count : ℕ) : List Seat :=
  (generateSeatLabels count).mapIdx fun i label => { id := seatUuid i, tripId, label }

/-- `tripsRepository.create`. -/
def create (tripUuid : TripId) (seatUuid : ℕ → SeatId) (data : TripData)
    (operatorId : OperatorId) (db : DB) : Except Thrown DB := do
  ensure (fitsInt4 data.price && fitsInt4 data.totalSeats) (.db .valueOutOfRange)
  let trips ← orThrow
    (Table.insert Trip.clash db.trips { data with id := tripUuid, operatorId })
    (.db .uniqueViolation)
  let seats ← orThrow
    (Table.insertMany Seat.clash db.seats (newSeats tripUuid seatUuid data.totalSeats))
    (.db .uniqueViolation)
  .ok { db with trips, seats }

/-! ## Deleting a trip -/

/-- The rows `tripsRepository.delete` asks for: `{ id, operatorId }`. -/
def owned (id : TripId) (operatorId : OperatorId) (t : Trip) : Bool :=
  t.id == id && t.operatorId == operatorId

/-- `tripsRepository.delete`: `bookings` and `booked_seats` restrict it, `seats`
cascade.  Returns the count of deleted trips. -/
def deleteRows (id : TripId) (operatorId : OperatorId) (db : DB) : Except Thrown (DB × ℕ) := do
  let count := db.trips.countP (owned id operatorId)
  ensure (count == 0 || !(db.bookings.any (fun b => b.tripId == id) ||
      db.seats.any (fun s => s.tripId == id && db.bookedSeats.any fun r => r.seatId == s.id)))
    (.db .foreignKeyViolation)
  if count == 0 then .ok (db, 0)
  else .ok ({ db with
      trips := Table.deleteMany (owned id operatorId) db.trips
      seats := Table.deleteMany (fun s => s.tripId == id) db.seats }, count)

/-- `tripsService.delete`. -/
def delete (id : TripId) (operatorId : OperatorId) (db : DB) : Except Thrown DB := do
  let deleted ← deleteRows id operatorId db
  ensure (deleted.2 != 0) (.app (.notFoundError "Trip not found"))
  .ok deleted.1

/-! ## The advertised trip -/

/-- `prisma.trip.findUnique({ where: { id } })`. -/
def findUnique (id : TripId) (db : DB) : Option Trip :=
  db.trips.find? fun t => t.id = id

/-- `countAvailableSeats`. -/
def countAvailableSeats (id : TripId) (seats : List Seat) : ℕ :=
  seats.countP fun s => s.tripId == id && s.status == .available

/-- `TripDTO`, without the operator's name. -/
structure TripDTO extends Trip where
  availableSeats : ℤ
  deriving DecidableEq

/-- `toListDTO`; `count` is `_count.seats`. -/
def toListDTO (raw : Trip) (count : ℕ) : TripDTO :=
  { raw with availableSeats := max 0 ((count : ℤ) - raw.offlineCount) }

/-- `tripsRepository.findById`. -/
def findById (id : TripId) (db : DB) : Option TripDTO :=
  (findUnique id db).map fun t => toListDTO t (countAvailableSeats t.id db.seats)

/-! ## Editing a trip -/

/-- A Prisma filter on the owner columns.  A column that is `undefined` in the
filter is not compared. -/
structure OwnerFilter where
  operatorId : Option OperatorId
  driverId : Option DriverId

/-- `ownerFilter` of `markFull` and `setOfflineCount`. -/
def ownerFilter (role : Role) (operatorId : Option OperatorId) (driverId : Option DriverId) :
    OwnerFilter :=
  match role with
  | .admin => ⟨none, none⟩
  | .driver => ⟨none, driverId⟩
  | .operator | .passenger => ⟨operatorId, none⟩

/-- `{ id, ...ownerFilter }`. -/
def OwnerFilter.matches (f : OwnerFilter) (id : TripId) (t : Trip) : Bool :=
  t.id == id && f.operatorId.all (fun o => t.operatorId == o) &&
    f.driverId.all fun d => t.driverId == some d

/-- An `updateMany` on `trips` that is an error when it matches no row. -/
def editTrip (p : Trip → Bool) (f : Trip → Trip) (db : DB) : Except Thrown DB := do
  ensure (db.trips.any p) (.app (.notFoundError "Trip not found"))
  .ok { db with trips := Table.updateMany p f db.trips }

/-- `tripsService.toggleActive`. -/
def toggleActive (id : TripId) (operatorId : OperatorId) (isActive : Bool) (db : DB) :
    Except Thrown DB :=
  editTrip (owned id operatorId) (fun t => { t with isActive }) db

/-- `tripsService.markFull`. -/
def markFull (id : TripId) (operatorId : Option OperatorId) (role : Role) (isFull : Bool)
    (driverId : Option DriverId) (db : DB) : Except Thrown DB :=
  editTrip ((ownerFilter role operatorId driverId).matches id) (fun t => { t with isFull }) db

/-- `tripsService.setOfflineCount`. -/
def setOfflineCount (id : TripId) (operatorId : Option OperatorId) (role : Role)
    (offlineCount : ℕ) (driverId : Option DriverId) (db : DB) : Except Thrown DB := do
  let current ← orThrow (findById id db) (.app (.notFoundError "Trip not found"))
  ensure (offlineCount ≤ current.totalSeats)
    (.app (.conflictError "Offline count cannot exceed total seats"))
  let effectiveAvailable : ℤ := (countAvailableSeats id db.seats : ℤ) - offlineCount
  let autoFull := decide (effectiveAvailable ≤ 0) && !current.isFull
  editTrip ((ownerFilter role operatorId driverId).matches id)
    (fun t => { t with offlineCount, isFull := if autoFull then true else t.isFull }) db

/-! ## What the statements do -/

theorem length_newSeats (tripId : TripId) (seatUuid : ℕ → SeatId) (count : ℕ) :
    (newSeats tripId seatUuid count).length = count := by
  simp [newSeats, generateSeatLabels]

/-- A generated seat is a free seat of the new trip. -/
theorem mem_newSeats {tripId : TripId} {seatUuid : ℕ → SeatId} {count : ℕ} {s : Seat}
    (h : s ∈ newSeats tripId seatUuid count) :
    s.tripId = tripId ∧ s.status = .available ∧ s.heldUntil = none ∧ s.heldBy = none := by
  obtain ⟨i, hi, rfl⟩ := List.mem_mapIdx.mp h
  exact ⟨rfl, rfl, rfl, rfl⟩

/-- What a successful `create` has done. -/
theorem create_ok {tripUuid : TripId} {seatUuid : ℕ → SeatId} {data : TripData}
    {operatorId : OperatorId} {db db' : DB}
    (h : create tripUuid seatUuid data operatorId db = .ok db') :
    ∃ trip : Trip, trip.id = tripUuid ∧ trip.totalSeats = data.totalSeats ∧
      Table.insert Trip.clash db.trips trip = some db'.trips ∧
      Table.insertMany Seat.clash db.seats (newSeats tripUuid seatUuid data.totalSeats)
        = some db'.seats ∧
      db' = { db with trips := db'.trips, seats := db'.seats } := by
  obtain ⟨-, -, h⟩ := bind_eq_ok.mp h
  obtain ⟨trips, htrips, h⟩ := bind_eq_ok.mp h
  obtain ⟨seats, hseats, h⟩ := bind_eq_ok.mp h
  cases h
  exact ⟨{ data with id := tripUuid, operatorId }, rfl, rfl, orThrow_eq_ok.mp htrips,
    orThrow_eq_ok.mp hseats, rfl⟩

theorem owned_iff {id : TripId} {operatorId : OperatorId} {t : Trip} :
    owned id operatorId t = true ↔ t.id = id ∧ t.operatorId = operatorId := by
  simp [owned]

/-- What a successful `delete` has done, and what stood in its way. -/
theorem delete_ok {id : TripId} {operatorId : OperatorId} {db db' : DB}
    (h : delete id operatorId db = .ok db') :
    (∃ t ∈ db.trips, t.id = id ∧ t.operatorId = operatorId) ∧
      (∀ b ∈ db.bookings, b.tripId ≠ id) ∧
      (∀ s ∈ db.seats, s.tripId = id → ∀ r ∈ db.bookedSeats, r.seatId ≠ s.id) ∧
      db' = { db with
        trips := Table.deleteMany (owned id operatorId) db.trips
        seats := Table.deleteMany (fun s => s.tripId == id) db.seats } := by
  obtain ⟨deleted, hrows, h⟩ := bind_eq_ok.mp h
  obtain ⟨_, hdel, h⟩ := bind_eq_ok.mp h
  have hne := ensure_eq_ok.mp hdel
  obtain ⟨_, hens, hrows⟩ := bind_eq_ok.mp hrows
  have hfk := ensure_eq_ok.mp hens
  cases h
  split at hrows
  · cases hrows
    exact absurd hne (by simp)
  · next hcount =>
    cases hrows
    have hpos : 0 < db.trips.countP (owned id operatorId) := by
      simp only [beq_iff_eq] at hcount
      omega
    obtain ⟨t, ht, hown⟩ := List.countP_pos_iff.mp hpos
    simp only [hcount, Bool.false_or, Bool.not_eq_true', Bool.or_eq_false_iff, List.any_eq_false,
      beq_iff_eq, Bool.and_eq_true, List.any_eq_true, not_and, not_exists] at hfk
    exact ⟨⟨t, ht, owned_iff.mp hown⟩, hfk.1,
      fun s hs hst r hr hseat => hfk.2 s hs hst r hr hseat, rfl⟩

/-- What a successful edit has done. -/
theorem editTrip_ok {p : Trip → Bool} {f : Trip → Trip} {db db' : DB}
    (h : editTrip p f db = .ok db') :
    db' = { db with trips := Table.updateMany p f db.trips } := by
  obtain ⟨-, -, h⟩ := bind_eq_ok.mp h
  cases h
  rfl

theorem setOfflineCount_ok {id : TripId} {operatorId : Option OperatorId} {role : Role}
    {offlineCount : ℕ} {driverId : Option DriverId} {db db' : DB}
    (h : setOfflineCount id operatorId role offlineCount driverId db = .ok db') :
    ∃ autoFull : Bool, db' = { db with
      trips := Table.updateMany ((ownerFilter role operatorId driverId).matches id)
        (fun t => { t with offlineCount, isFull := if autoFull then true else t.isFull })
        db.trips } := by
  obtain ⟨current, -, h⟩ := bind_eq_ok.mp h
  obtain ⟨-, -, h⟩ := bind_eq_ok.mp h
  exact ⟨_, editTrip_ok h⟩

end Trips
end TransHub
