import TransHub.Ledger.Bookings
import TransHub.Charters.Schema
import TransHub.Waybills.Schema
import TransHub.Shared.Listing

/-!
# The rows that lists show

The tables behind the list endpoints, with the columns that these show or search and the
other modules leave alone, and the rows as the endpoints join them.

* `Tables`: the stored rows.
* `BookingRecord`, `CharterRow`, `WaybillRecord`: a row with what its query includes; a charter
  row carries its passenger's account already.
* `TransactionRow`, `union`: the projection behind the transactions feed.
-/

namespace TransHub
namespace Listings

/-! ## Tables -/

/-- The columns of `users` that lists show or search. -/
structure Account where
  id : UserId
  fullName : String
  email : String
  phone : String
  deriving DecidableEq, Repr

/-- The columns of `operators` that waybill lists show. -/
structure OperatorProfile where
  id : OperatorId
  companyName : String
  deriving DecidableEq, Repr

structure BookingRow extends Booking where
  createdAt : Time
  deriving DecidableEq, Repr

/-- A row of `charters` under `INCLUDE_PASSENGER`: a `CharterDTO`. -/
structure CharterRow extends Charter where
  referenceNo : Option String := none
  passengerPhone : String
  returnAt : Option Time := none
  passengerCount : ℕ
  notes : Option String := none
  contactName : Option String := none
  contactPhone : Option String := none
  contactEmail : Option String := none
  createdAt : Time
  updatedAt : Time
  deriving DecidableEq, Repr

structure WaybillRow extends Waybill where
  tripId : Option TripId := none
  description : String
  weightKg : Option ℤ := none
  declaredValue : Option ℤ := none
  createdAt : Time
  updatedAt : Time
  deriving DecidableEq, Repr

structure WaybillEventRow extends WaybillEvent where
  id : RowId
  waybillId : WaybillId
  deriving DecidableEq, Repr

/-- The stored rows. -/
structure Tables where
  users : List Account := []
  operators : List OperatorProfile := []
  trips : List Trip := []
  seats : List Seat := []
  bookings : List BookingRow := []
  bookedSeats : List BookedSeat := []
  passengers : List PassengerInfo := []
  charters : List CharterRow := []
  waybills : List WaybillRow := []
  events : List WaybillEventRow := []
  deriving DecidableEq, Repr

/-- The seat ledger among the tables. -/
def Tables.ledger (t : Tables) : DB where
  users := t.users.map fun u => u.id
  trips := t.trips
  seats := t.seats
  bookings := t.bookings.map fun b => b.toBooking
  bookedSeats := t.bookedSeats
  passengers := t.passengers

def Tables.findUser (t : Tables) (id : UserId) : Option Account :=
  t.users.find? fun u => u.id == id

/-! ## Joined rows -/

/-- `BookingDTO` with the column that the ledger leaves out. -/
structure BookingItem extends Bookings.BookingDTO where
  createdAt : Time
  deriving DecidableEq, Repr

/-- A booking with all that its list reads. -/
structure BookingRecord extends BookingItem where
  user : Option Account
  deriving DecidableEq, Repr

/-- `WaybillDTO`. -/
structure WaybillItem extends WaybillRow where
  assignedOperator : Option OperatorProfile
  events : List WaybillEventRow
  deriving DecidableEq, Repr

/-- A waybill with all that its lists read. -/
structure WaybillRecord extends WaybillItem where
  user : Option Account
  deriving DecidableEq, Repr

namespace Tables

variable (t : Tables)

/-- `BOOKING_WITH_ALL`, and the account that a search reads. -/
def bookingRecords : List BookingRecord :=
  t.bookings.map fun b =>
    { Bookings.toDTO t.ledger b.toBooking with
      createdAt := b.createdAt
      user := t.findUser b.userId }

/-- `INCLUDE_EVENTS`, and the sender's account. -/
def waybillRecords : List WaybillRecord :=
  t.waybills.map fun w =>
    { w with
      assignedOperator := w.assignedOperatorId.bind fun id => t.operators.find? fun o => o.id == id
      events := (t.events.filter fun e => e.waybillId == w.id).insertionSort
        fun a b => a.createdAt ≤ b.createdAt
      user := t.findUser w.userId }

end Tables

/-! ## The transactions feed -/

def bookingStatusText : BookingStatus → String
  | .pending => "pending"
  | .confirmed => "confirmed"
  | .cancelled => "cancelled"
  | .refunded => "refunded"

inductive TransactionType where
  | booking
  | charter
  | waybill
  deriving DecidableEq, Repr

/-- `TransactionDTO`, its amount in naira. -/
structure TransactionDTO where
  reference : Ref
  type : TransactionType
  amount : ℚ
  status : String
  createdAt : Time
  relatedId : ℕ
  customerName : String
  customerEmail : String
  description : String
  operatorId : Option OperatorId
  deriving DecidableEq, Repr

/-- `RawRow`. -/
structure TransactionRow extends TransactionDTO where
  userId : UserId
  deriving DecidableEq, Repr

/-- `from || ' → ' || to`. -/
def route (fromLocation toLocation : String) : String := fromLocation ++ " → " ++ toLocation

/-- The bookings of the `UNION`. -/
def ofBooking (b : BookingRecord) : Option TransactionRow := do
  let reference ← b.paymentRef
  let user ← b.user
  return {
    reference
    type := .booking
    amount := b.totalAmount
    status := bookingStatusText b.status
    createdAt := b.createdAt
    relatedId := b.id
    customerName := user.fullName
    customerEmail := user.email
    description := (b.trip.map fun trip => route trip.fromCity trip.toCity).getD "Trip booking"
    operatorId := b.trip.map fun trip => trip.operatorId
    userId := b.userId }

/-- Its charters: the amount paid, or else the amount quoted. -/
def ofCharter (c : CharterRow) : Option TransactionRow := do
  let reference ← c.paymentRef
  return {
    reference
    type := .charter
    amount := ((c.paidAmount.orElse fun _ => c.quotedPrice).getD 0 : ℤ) / 100
    status := c.status.text
    createdAt := c.createdAt
    relatedId := c.id
    customerName := c.passengerName
    customerEmail := c.passengerEmail
    description := route c.fromLocation c.toLocation
    operatorId := none
    userId := c.passengerId }

/-- Its waybills. -/
def ofWaybill (w : WaybillRecord) : Option TransactionRow := do
  let reference ← w.paymentRef
  let user ← w.user
  return {
    reference
    type := .waybill
    amount := (w.fee : ℚ) / 100
    status := w.status.text
    createdAt := w.createdAt
    relatedId := w.id
    customerName := user.fullName
    customerEmail := user.email
    description := route w.fromLocation w.toLocation
    operatorId := w.assignedOperatorId
    userId := w.userId }

/-- `UNION ALL` of the records that bear a payment reference. -/
def union (t : Tables) : List TransactionRow :=
  t.bookingRecords.filterMap ofBooking ++ t.charters.filterMap ofCharter ++
    t.waybillRecords.filterMap ofWaybill

theorem ofBooking_eq_some {b : BookingRecord} {r : TransactionRow} (h : ofBooking b = some r) :
    r.operatorId = (b.trip.map fun trip => trip.operatorId) ∧ r.userId = b.userId := by
  simp only [ofBooking, bind, Option.bind_eq_some_iff] at h
  obtain ⟨reference, -, user, -, hr⟩ := h
  cases hr
  exact ⟨rfl, rfl⟩

theorem ofCharter_eq_some {c : CharterRow} {r : TransactionRow} (h : ofCharter c = some r) :
    r.operatorId = none ∧ r.userId = c.passengerId := by
  simp only [ofCharter, bind, Option.bind_eq_some_iff] at h
  obtain ⟨reference, -, hr⟩ := h
  cases hr
  exact ⟨rfl, rfl⟩

theorem ofWaybill_eq_some {w : WaybillRecord} {r : TransactionRow} (h : ofWaybill w = some r) :
    r.operatorId = w.assignedOperatorId ∧ r.userId = w.userId := by
  simp only [ofWaybill, bind, Option.bind_eq_some_iff] at h
  obtain ⟨reference, -, user, -, hr⟩ := h
  cases hr
  exact ⟨rfl, rfl⟩

end Listings
end TransHub
