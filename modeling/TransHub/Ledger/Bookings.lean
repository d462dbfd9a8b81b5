import TransHub.Ledger.Trips

/-!
# Bookings

`bookings.repository`, the only writer of `bookings`, `booked_seats` and
`passenger_info`, and the parts of `bookings.service` and `inventory.service` that
run against the ledger.

* `createBookingRecord`: one `INSERT` of a booking with its nested rows, checked
  against the unique and foreign-key constraints.
* `confirmTx`: the transaction of `confirm`; `confirmTx_ok` says what it did.
* `holdSeats`, `hold`: the transaction of a hold and the checks before it;
  `holdSeats_ok`, `hold_ok`.
-/

namespace TransHub
namespace Bookings

/-! ## Data transfer objects -/

structure BookedSeatDTO where
  id : RowId
  label : SeatLabel
  deriving DecidableEq, Repr

/-- The `trip` of a `BookingDTO`. -/
structure BookingTripDTO where
  operatorId : OperatorId
  fromCity : String
  toCity : String
  departureTime : ℤ
  vehicleType : String
  parkName : Option String
  deriving DecidableEq, Repr

structure BookingDTO extends Booking where
  seats : List BookedSeatDTO
  passengers : List PassengerInfo
  trip : Option BookingTripDTO
  deriving DecidableEq, Repr

/-- The `trip` selection of `BOOKING_WITH_ALL`. -/
def toTripDTO (raw : Trip) : BookingTripDTO where
  operatorId := raw.operatorId
  fromCity := raw.fromCity
  toCity := raw.toCity
  departureTime := raw.departureTime
  vehicleType := raw.vehicleType
  parkName := raw.parkName

/-- The label a `booked_seats` row joins to. -/
def toSeatDTO (seats : List Seat) (bs : BookedSeat) : Option BookedSeatDTO :=
  (seats.find? fun s => s.id = bs.seatId).map fun s => ⟨bs.id, s.label⟩

/-- `toDTO` on the rows that `BOOKING_WITH_ALL` joins. -/
def toDTO (db : DB) (raw : Booking) : BookingDTO :=
  { raw with
    seats := (db.bookedSeats.filter fun bs => bs.bookingId == raw.id).filterMap
      (toSeatDTO db.seats)
    passengers := db.passengers.filter fun p => p.bookingId == raw.id
    trip := (Trips.findUnique raw.tripId db).map toTripDTO }

/-! ## Reads -/

/-- `findByPaymentRef`. -/
def findByPaymentRef (paymentRef : Ref) (db : DB) : Option BookingDTO :=
  (db.bookings.find? fun b => b.paymentRef = some paymentRef).map (toDTO db)

/-- `findTripPrice`, of both the bookings and the payments repository. -/
def findTripPrice (tripId : TripId) (db : DB) : Option ℤ :=
  (Trips.findUnique tripId db).map fun t => t.price

/-- The columns `findTripBookingState` selects. -/
structure TripBookingState where
  status : TripStatus
  isActive : Bool
  isFull : Bool
  deriving DecidableEq, Repr

/-- `findTripBookingState`. -/
def findTripBookingState (tripId : TripId) (db : DB) : Option TripBookingState :=
  (Trips.findUnique tripId db).map fun t => ⟨t.status, t.isActive, t.isFull⟩

/-! ## Creating a booking -/

/-- The ids the database generates for one booking and its nested rows. -/
structure Uuids where
  booking : BookingId
  seat : ℕ → RowId
  passenger : ℕ → RowId

structure BookingData where
  userId : UserId
  totalAmount : ℤ
  paymentRef : Ref
  passengers : Option (List PassengerInfoInput)

/-- The booking row. -/
def bookingRow (uuids : Uuids) (tripId : TripId) (bookingData : BookingData) : Booking where
  id := uuids.booking
  userId := bookingData.userId
  tripId := tripId
  status := .confirmed
  totalAmount := bookingData.totalAmount
  paymentRef := some bookingData.paymentRef

/-- `seats: { createMany }`. -/
def seatRows (uuids : Uuids) (seatIds : List SeatId) : List BookedSeat :=
  seatIds.mapIdx fun i seatId => { id := uuids.seat i, bookingId := uuids.booking, seatId }

/-- `passengers: { createMany }`, left out when there are none. -/
def passengerRows (uuids : Uuids) (passengers : Option (List PassengerInfoInput)) :
    List PassengerInfo :=
  (passengers.getD []).mapIdx fun i p =>
    { p with id := uuids.passenger i, bookingId := uuids.booking }

/-- `createBookingRecord`. -/
def createBookingRecord (uuids : Uuids) (tripId : TripId) (seatIds : List SeatId)
    (bookingData : BookingData) (db : DB) : Except Thrown (BookingDTO × DB) := do
  let row := bookingRow uuids tripId bookingData
  ensure (fitsInt4 row.totalAmount) (.db .valueOutOfRange)
  ensure (db.users.contains row.userId && db.trips.any fun t => t.id == tripId)
    (.db .foreignKeyViolation)
  let bookings ← orThrow (Table.insert Booking.clash db.bookings row) (.db .uniqueViolation)
  ensure (seatIds.all fun x => db.seats.any fun s => s.id == x) (.db .foreignKeyViolation)
  let bookedSeats ← orThrow
    (Table.insertMany BookedSeat.clash db.bookedSeats (seatRows uuids seatIds))
    (.db .uniqueViolation)
  let passengers ← orThrow
    (Table.insertMany PassengerInfo.clash db.passengers
      (passengerRows uuids bookingData.passengers))
    (.db .uniqueViolation)
  let db' := { db with bookings, bookedSeats, passengers }
  .ok (toDTO db' row, db')

/-- `ConfirmInput`. -/
structure ConfirmInput where
  paymentRef : Ref
  tripId : TripId
  seatIds : List SeatId
  passengers : Option (List PassengerInfoInput)
  deriving DecidableEq

/-- The transaction of `bookingsService.confirm`. -/
def confirmTx (uuids : Uuids) (input : ConfirmInput) (userId : UserId) (totalAmount : ℤ)
    (db : DB) : Except Thrown (BookingDTO × DB) := do
  let seats ← Inventory.lockAndMarkBooked input.tripId input.seatIds userId db.seats
  createBookingRecord uuids input.tripId input.seatIds
    ⟨userId, totalAmount, input.paymentRef, input.passengers⟩ { db with seats }

/-! ## Holding -/

/-- `HoldInput`, as `holdSchema` leaves it. -/
structure HoldInput where
  tripId : TripId
  quantity : ℕ
  one_le : 1 ≤ quantity
  le_six : quantity ≤ 6

/-- The data of a job of the hold-expiry queue. -/
structure HoldExpiryJob where
  userId : UserId
  tripId : TripId
  seatIds : List SeatId
  deriving DecidableEq, Repr

/-- `HoldResult`.  `holdId` is the text of its three parts. -/
structure HoldResult where
  holdId : UserId × TripId × Time
  expiresAt : Time
  ttlSeconds : ℕ
  tripId : TripId
  quantity : ℕ
  deriving DecidableEq, Repr

/-- What a successful hold gives its caller and its queue. -/
structure Held where
  result : HoldResult
  job : HoldExpiryJob
  deriving DecidableEq, Repr

/-- The instant a hold taken at `now` lapses. -/
def expiresAt (now : Time) : Time := now + Inventory.holdTtlSec * 1000

/-- What `holdSeats` returns and enqueues once its transaction has claimed `seatIds`. -/
def held (tripId : TripId) (quantity : ℕ) (userId : UserId) (now : Time)
    (seatIds : List SeatId) : Held where
  result := ⟨(userId, tripId, now), expiresAt now, Inventory.holdTtlSec, tripId, quantity⟩
  job := ⟨userId, tripId, seatIds⟩

/-- `inventoryService.holdSeats`, with one reading of the clock. -/
def holdSeats (locked : SeatId → Bool) (tripId : TripId) (quantity : ℕ) (userId : UserId)
    (now : Time) (db : DB) : Except Thrown (Held × DB) := do
  let claimed ← Inventory.claimSeats locked tripId quantity userId (expiresAt now)
    (Inventory.releaseUserHoldsForTrip tripId userId db.seats)
  .ok (held tripId quantity userId now claimed.1, { db with seats := claimed.2 })

/-- The checks of `bookingsService.hold`. -/
def checkTripState (tripId : TripId) (db : DB) : Except Thrown Unit := do
  let tripState ← orThrow (findTripBookingState tripId db) (.app (.notFoundError "Trip not found"))
  ensure ([TripStatus.scheduled, .active].contains tripState.status)
    (.app (.conflictError "This trip is not available for booking" "TRIP_UNAVAILABLE"))
  ensure tripState.isActive
    (.app (.conflictError "This trip is not currently accepting bookings" "TRIP_UNAVAILABLE"))
  ensure (!tripState.isFull) (.app (.conflictError "This trip is marked full" "TRIP_FULL"))

/-- `bookingsService.hold`. -/
def hold (locked : SeatId → Bool) (input : HoldInput) (userId : UserId) (now : Time) (db : DB) :
    Except Thrown (Held × DB) := do
  checkTripState input.tripId db
  holdSeats locked input.tripId input.quantity userId now db

/-! ## What the operations do -/

/-- What a successful `createBookingRecord` has checked and inserted. -/
theorem createBookingRecord_ok {uuids : Uuids} {tripId : TripId} {seatIds : List SeatId}
    {bookingData : BookingData} {db db' : DB} {dto : BookingDTO}
    (h : createBookingRecord uuids tripId seatIds bookingData db = .ok (dto, db')) :
    (∃ t ∈ db.trips, t.id = tripId) ∧
      Table.insert Booking.clash db.bookings (bookingRow uuids tripId bookingData)
        = some db'.bookings ∧
      Table.insertMany BookedSeat.clash db.bookedSeats (seatRows uuids seatIds)
        = some db'.bookedSeats ∧
      Table.insertMany PassengerInfo.clash db.passengers
        (passengerRows uuids bookingData.passengers) = some db'.passengers ∧
      db'.users = db.users ∧ db'.trips = db.trips ∧ db'.seats = db.seats ∧
      dto = toDTO db' (bookingRow uuids tripId bookingData) := by
  obtain ⟨-, -, h⟩ := bind_eq_ok.mp h
  obtain ⟨_, hfk, h⟩ := bind_eq_ok.mp h
  obtain ⟨bookings, hbookings, h⟩ := bind_eq_ok.mp h
  obtain ⟨-, -, h⟩ := bind_eq_ok.mp h
  obtain ⟨bookedSeats, hseats, h⟩ := bind_eq_ok.mp h
  obtain ⟨passengers, hpassengers, h⟩ := bind_eq_ok.mp h
  have htrip := (Bool.and_eq_true _ _ ▸ ensure_eq_ok.mp hfk).2
  obtain ⟨t, ht, hid⟩ := List.any_eq_true.mp htrip
  cases h
  exact ⟨⟨t, ht, by simpa using hid⟩, orThrow_eq_ok.mp hbookings, orThrow_eq_ok.mp hseats,
    orThrow_eq_ok.mp hpassengers, rfl, rfl, rfl, rfl⟩

/-- **What a committed confirm has done.**  It booked distinct seats of the trip, each
free or held by the user, and inserted one confirmed booking with one row for each
of them. -/
theorem confirmTx_ok {uuids : Uuids} {input : ConfirmInput} {userId : UserId}
    {totalAmount : ℤ} {db db' : DB} {dto : BookingDTO} (hseats : (db.seats.map Seat.id).Nodup)
    (h : confirmTx uuids input userId totalAmount db = .ok (dto, db')) :
    (∃ t ∈ db.trips, t.id = input.tripId) ∧ input.seatIds ≠ [] ∧ input.seatIds.Nodup ∧
      (∀ x ∈ input.seatIds, ∃ s ∈ db.seats, s.id = x ∧ s.tripId = input.tripId ∧
        (s.status = .available ∨ (s.status = .held ∧ s.heldBy = some userId))) ∧
      Table.insert Booking.clash db.bookings (bookingRow uuids input.tripId
        ⟨userId, totalAmount, input.paymentRef, input.passengers⟩) = some db'.bookings ∧
      Table.insertMany BookedSeat.clash db.bookedSeats (seatRows uuids input.seatIds)
        = some db'.bookedSeats ∧
      Table.insertMany PassengerInfo.clash db.passengers
        (passengerRows uuids input.passengers) = some db'.passengers ∧
      db'.users = db.users ∧ db'.trips = db.trips ∧
      db'.seats = Inventory.markBooked input.seatIds db.seats ∧
      dto = toDTO db' (bookingRow uuids input.tripId
        ⟨userId, totalAmount, input.paymentRef, input.passengers⟩) := by
  obtain ⟨seats, hlock, hcreate⟩ := bind_eq_ok.mp h
  obtain ⟨hne, hnodup, rfl, hall⟩ := Inventory.lockAndMarkBooked_ok hseats hlock
  obtain ⟨htrip, hb, hr, hp, hu, ht, hs, hdto⟩ := createBookingRecord_ok hcreate
  exact ⟨htrip, hne, hnodup, hall, hb, hr, hp, hu, ht, hs, hdto⟩

theorem mem_seatRows {uuids : Uuids} {seatIds : List SeatId} {r : BookedSeat}
    (h : r ∈ seatRows uuids seatIds) : r.bookingId = uuids.booking ∧ r.seatId ∈ seatIds := by
  obtain ⟨i, hi, rfl⟩ := List.mem_mapIdx.mp h
  exact ⟨rfl, List.getElem_mem hi⟩

/-- Every requested seat has its row. -/
theorem exists_mem_seatRows (uuids : Uuids) {seatIds : List SeatId} {x : SeatId}
    (hx : x ∈ seatIds) : ∃ r ∈ seatRows uuids seatIds, r.seatId = x := by
  obtain ⟨i, hi, rfl⟩ := List.getElem_of_mem hx
  exact ⟨_, List.mem_mapIdx.mpr ⟨i, hi, rfl⟩, rfl⟩

theorem mem_passengerRows {uuids : Uuids} {passengers : Option (List PassengerInfoInput)}
    {p : PassengerInfo} (h : p ∈ passengerRows uuids passengers) :
    p.bookingId = uuids.booking := by
  obtain ⟨i, hi, rfl⟩ := List.mem_mapIdx.mp h
  rfl

/-- **What a successful hold has done.**  It freed the user's held seats of the trip
and then took `quantity` free, unlocked ones. -/
theorem holdSeats_ok {locked : SeatId → Bool} {tripId : TripId} {quantity : ℕ}
    {userId : UserId} {now : Time} {db db' : DB} {r : Held}
    (h : holdSeats locked tripId quantity userId now db = .ok (r, db')) :
    ∃ ids, r = held tripId quantity userId now ids ∧ ids.length = quantity ∧
      ids = (Inventory.claimRows locked tripId quantity
        (Inventory.releaseUserHoldsForTrip tripId userId db.seats)).map Seat.id ∧
      db' = { db with
        seats := Inventory.markHeld ids userId (expiresAt now)
          (Inventory.releaseUserHoldsForTrip tripId userId db.seats) } := by
  obtain ⟨⟨ids, seats⟩, hclaim, h⟩ := bind_eq_ok.mp h
  obtain ⟨hids, hlen, -, rfl⟩ := Inventory.claimSeats_ok hclaim
  cases h
  exact ⟨ids, rfl, hlen, hids, rfl⟩

/-- A trip that `hold` lets through. -/
def tripOpen (t : Trip) : Bool :=
  [TripStatus.scheduled, .active].contains t.status && t.isActive && !t.isFull

/-- The checks of `hold` let exactly the open trips through. -/
theorem checkTripState_eq_ok {tripId : TripId} {db : DB} :
    checkTripState tripId db = .ok () ↔
      ∃ t, Trips.findUnique tripId db = some t ∧ tripOpen t = true := by
  cases ht : Trips.findUnique tripId db with
  | none => simp [checkTripState, findTripBookingState, ht, orThrow, bind, Except.bind]
  | some t =>
    simp only [checkTripState, findTripBookingState, ht, Option.map_some, Option.some.injEq,
      exists_eq_left', bind_eq_ok, orThrow_eq_ok, ensure_eq_ok, exists_const, tripOpen,
      Bool.and_eq_true, and_assoc]

/-- A hold succeeds when the trip is open and the transaction goes through. -/
theorem hold_ok {locked : SeatId → Bool} {input : HoldInput} {userId : UserId} {now : Time}
    {db : DB} {r : Held × DB} :
    hold locked input userId now db = .ok r ↔
      (∃ t, Trips.findUnique input.tripId db = some t ∧ tripOpen t = true) ∧
        holdSeats locked input.tripId input.quantity userId now db = .ok r := by
  rw [hold, bind_eq_ok, ← checkTripState_eq_ok]
  exact ⟨fun ⟨⟨⟩, hc, h⟩ => ⟨hc, h⟩, fun ⟨hc, h⟩ => ⟨(), hc, h⟩⟩

end Bookings
end TransHub
