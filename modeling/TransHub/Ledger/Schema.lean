import TransHub.Foundation.Table
import TransHub.Shared.Errors
import Mathlib.Data.Int.Notation

/-!
# The tables of the seat ledger

`schema.prisma`: the rows of `trips`, `seats`, `bookings`, `booked_seats` and
`passenger_info`, with the columns that the inventory, bookings, payments and trips
modules read or write, and the unique constraints of each table.  Ids are the
`uuid()` texts, which the code only compares; instants are milliseconds.
-/

namespace TransHub

abbrev UserId := ℕ
abbrev OperatorId := ℕ
abbrev DriverId := ℕ
abbrev TripId := ℕ
abbrev SeatId := ℕ
abbrev BookingId := ℕ
abbrev RowId := ℕ

/-- A Paystack reference. -/
abbrev Ref := ℕ

/-- Milliseconds since the epoch. -/
abbrev Time := ℕ

/-- `enum Role`. -/
inductive Role where
  | passenger
  | operator
  | admin
  | driver
  deriving DecidableEq, Repr

inductive SeatStatus where
  | available
  | held
  | booked
  deriving DecidableEq, Repr

inductive TripStatus where
  | scheduled
  | active
  | completed
  | cancelled
  deriving DecidableEq, Repr

inductive BookingStatus where
  | pending
  | confirmed
  | cancelled
  | refunded
  deriving DecidableEq, Repr

/-- A seat label such as `A1`: the char code of its row letter and its column. -/
structure SeatLabel where
  row : ℕ
  col : ℕ
  deriving DecidableEq, Repr

/-- The order of `ORDER BY label` on one-letter rows and one-digit columns. -/
def SeatLabel.le (a b : SeatLabel) : Bool :=
  a.row < b.row || (a.row == b.row && a.col ≤ b.col)

/-- The columns of a trip that its operator supplies. -/
structure TripData where
  fromCity : String
  toCity : String
  departureTime : ℤ
  arrivalTime : Option ℤ
  price : ℤ
  totalSeats : ℕ
  vehicleType : String
  driverId : Option DriverId
  parkName : Option String
  amenities : List String
  deriving DecidableEq, Repr

/-- A row of `trips`. -/
structure Trip extends TripData where
  id : TripId
  operatorId : OperatorId
  status : TripStatus := .scheduled
  isActive : Bool := true
  isFull : Bool := false
  offlineCount : ℕ := 0
  deriving DecidableEq, Repr

/-- A row of `seats`. -/
structure Seat where
  id : SeatId
  tripId : TripId
  label : SeatLabel
  status : SeatStatus := .available
  heldUntil : Option Time := none
  heldBy : Option UserId := none
  deriving DecidableEq, Repr

/-- A row of `bookings`. -/
structure Booking where
  id : BookingId
  userId : UserId
  tripId : TripId
  status : BookingStatus := .pending
  totalAmount : ℤ
  paymentRef : Option Ref
  deriving DecidableEq, Repr

/-- A row of `booked_seats`. -/
structure BookedSeat where
  id : RowId
  bookingId : BookingId
  seatId : SeatId
  deriving DecidableEq, Repr

/-- One passenger, as `passengerInfoSchema` leaves it. -/
structure PassengerInfoInput where
  fullName : String
  phone : String
  email : Option String
  nextOfKinName : String
  nextOfKinPhone : String
  specialNeeds : Option String
  deriving DecidableEq, Repr

/-- A row of `passenger_info`. -/
structure PassengerInfo extends PassengerInfoInput where
  id : RowId
  bookingId : BookingId
  deriving DecidableEq, Repr

/-- The committed tables. -/
structure DB where
  users : List UserId
  trips : List Trip
  seats : List Seat
  bookings : List Booking
  bookedSeats : List BookedSeat
  passengers : List PassengerInfo
  deriving DecidableEq, Repr

/-! ## Constraints -/

/-- `trips_pkey`. -/
def Trip.clash (a b : Trip) : Bool := a.id == b.id

/-- `seats_pkey` and `seats_tripId_label_key`. -/
def Seat.clash (a b : Seat) : Bool :=
  a.id == b.id || (a.tripId == b.tripId && a.label == b.label)

/-- `bookings_pkey` and `bookings_paymentRef_key`; two nulls do not clash. -/
def Booking.clash (a b : Booking) : Bool :=
  a.id == b.id || (a.paymentRef.isSome && a.paymentRef == b.paymentRef)

/-- `booked_seats_pkey` and `booked_seats_seatId_key`. -/
def BookedSeat.clash (a b : BookedSeat) : Bool :=
  a.id == b.id || a.seatId == b.seatId

/-- `passenger_info_pkey`. -/
def PassengerInfo.clash (a b : PassengerInfo) : Bool := a.id == b.id

/-- The range of an `INTEGER` column. -/
def fitsInt4 (x : ℤ) : Bool := -2147483648 ≤ x && x ≤ 2147483647

theorem Trip.clash_comm (a b : Trip) : a.clash b = b.clash a := by
  simp only [Trip.clash, Bool.beq_comm (a := a.id)]

theorem Seat.clash_comm (a b : Seat) : a.clash b = b.clash a := by
  simp only [Seat.clash, Bool.beq_comm (a := a.id), Bool.beq_comm (a := a.tripId),
    Bool.beq_comm (a := a.label)]

theorem Booking.clash_comm (a b : Booking) : a.clash b = b.clash a := by
  simp only [Booking.clash, Bool.beq_comm (a := a.id)]
  cases ha : a.paymentRef <;> cases hb : b.paymentRef <;> simp [Bool.beq_comm]

theorem BookedSeat.clash_comm (a b : BookedSeat) : a.clash b = b.clash a := by
  simp only [BookedSeat.clash, Bool.beq_comm (a := a.id), Bool.beq_comm (a := a.seatId)]

end TransHub
