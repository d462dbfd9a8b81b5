import TransHub.Payments.Charge
import TransHub.Ledger.Runs
import TransHub.Foundation.Machine

/-!
# Settling a booking charge

`settleBookingCharge` with the `bookingsService.confirm` it calls, and the part of
`verifyPayment` before it, one step for each statement on the database.  Deliveries
of charges interleave freely with each other and with the operations of the ledger.

* `SettlePc`, `Settling`, `Settling.step`: a delivery and its steps.  The transaction
  of `confirm` takes the rows that its `SELECT … FOR UPDATE` saw one by one, blocks
  on a row that another transaction has locked, and looks at the row again before it
  takes it.
* `payMachine`: deliveries over the tables; the environment runs the operations of
  the ledger, which wait for locked rows.
-/

namespace TransHub

open Bookings (BookingDTO ConfirmInput Uuids)

/-! ## Deliveries -/

/-- A successful charge as it reaches the booking path: by webhook, or by the verify
callback of a signed-in user. -/
structure Charge where
  caller : Option UserId
  reference : Ref
  amountKobo : ℚ
  metadata : Option ChargeMetadata
  deriving DecidableEq

/-- The seats that the metadata names. -/
def Charge.seatIds (d : Charge) : List SeatId :=
  ((d.metadata.bind ChargeMetadata.seatIds).getD [])

/-- The `stage` that `settleBookingCharge` is called with. -/
def Charge.stage (d : Charge) : PaymentStage :=
  if d.caller.isSome then .verify else .webhook

/-- The `code` of a `SettleResult`. -/
inductive SettleCode where
  | metadata
  | trip
  | amount
  | seatsGone
  deriving DecidableEq

def SettleCode.text : SettleCode → String
  | .metadata => "META"
  | .trip => "TRIP"
  | .amount => "AMOUNT"
  | .seatsGone => "SEATS_GONE"

/-- How a delivery ends. -/
inductive SettleOutcome where
  | returned (booking : BookingDTO)
  | failed (reason : String) (code : SettleCode)
  | thrown (e : Thrown)
  deriving DecidableEq

/-- The call of `bookingsService.confirm`. -/
structure ConfirmCall where
  input : ConfirmInput
  userId : UserId
  deriving DecidableEq

/-- Where a delivery stands. -/
inductive SettlePc where
  | verify (caller : UserId)
  | settle
  | price (tripId : TripId) (seatIds : List SeatId) (userId : UserId)
  | confirm (q : ConfirmCall)
  | confirmPrice (q : ConfirmCall)
  | select (q : ConfirmCall) (totalAmount : ℤ)
  | locking (q : ConfirmCall) (totalAmount : ℤ) (todo got : List SeatId)
  | book (q : ConfirmCall) (totalAmount : ℤ) (got : List SeatId)
  | recheck (q : ConfirmCall) (e : Thrown)
  | notify (q : ConfirmCall) (totalAmount : ℤ) (booking : BookingDTO)
  | done (o : SettleOutcome)
  deriving DecidableEq

/-- A delivery: its charge, where it stands, the issues it has reported, and the
exception its transaction was rolled back with. -/
structure Settling where
  charge : Charge
  pc : SettlePc
  issues : List PaymentIssue := []
  rolledBack : Option Thrown := none
  deriving DecidableEq

/-! ## The shared state -/

/-- The payload of `booking.confirmed`. -/
structure BookingConfirmed where
  bookingId : BookingId
  userId : UserId
  tripId : TripId
  seatIds : List SeatId
  totalAmount : ℤ
  paymentRef : Ref
  deriving DecidableEq

/-- The payload of `booking.created`. -/
structure BookingCreated where
  operatorId : OperatorId
  bookingId : BookingId
  tripId : TripId
  deriving DecidableEq

/-- What one `confirm` emits, and which delivery it was. -/
structure Emitted where
  byDelivery : ℕ
  confirmed : BookingConfirmed
  created : Option BookingCreated
  deriving DecidableEq

/-- The tables, the row locks of the open transactions, what has been emitted, and, as
a history, which delivery committed a booking. -/
structure PayDB where
  db : DB
  locks : List (SeatId × ℕ)
  emitted : List Emitted
  winners : List (ℕ × Charge)

namespace PayDB

/-- A row that another open transaction has locked. -/
def lockedByOther (r : PayDB) (i : ℕ) (x : SeatId) : Bool :=
  r.locks.any fun l => l.1 == x && l.2 != i

def lock (r : PayDB) (i : ℕ) (x : SeatId) : PayDB :=
  { r with locks := (x, i) :: r.locks }

/-- The end of a transaction. -/
def unlock (r : PayDB) (i : ℕ) : PayDB :=
  { r with locks := r.locks.filter fun l => l.2 != i }

/-- A commit, of the booking for the charge of delivery `i`. -/
def won (r : PayDB) (i : ℕ) (d : Charge) (db : DB) : PayDB :=
  { r with db, winners := (i, d) :: r.winners }

def emit (r : PayDB) (e : Emitted) : PayDB :=
  { r with emitted := e :: r.emitted }

end PayDB

/-- What the outside world decides in a step: whether the statement fails, what Redis
has cached, and the ids that the database generates. -/
structure SettleInput where
  fault : Bool
  passengers : Option (List PassengerInfoInput)
  uuids : Uuids

/-- Generated ids are new. -/
def freshUuids (uuids : Uuids) (q : ConfirmCall) (db : DB) : Bool :=
  db.bookings.all (fun b => b.id != uuids.booking) &&
  decide ((db.bookedSeats.map BookedSeat.id ++
    (Bookings.seatRows uuids q.input.seatIds).map BookedSeat.id).Nodup) &&
  decide ((db.passengers.map PassengerInfo.id ++
    (Bookings.passengerRows uuids q.input.passengers).map PassengerInfo.id).Nodup)

/-! ## The steps -/

/-- `totalAmount` of `confirm`. -/
def Bookings.totalAmount (seats : ℕ) (price : ℤ) : ℤ := seats * price

namespace Settling

def goto (l : Settling) (pc : SettlePc) : Settling := { l with pc }

def finish (l : Settling) (o : SettleOutcome) : Settling := { l with pc := .done o }

/-- `reportPaymentIssue`. -/
def reportPaymentIssue (l : Settling) (issue : PaymentIssue) : Settling :=
  { l with issues := l.issues ++ [issue] }

/-- The fields that every report of `settleBookingCharge` has in common. -/
def issue (l : Settling) (userId : Option UserId) : PaymentIssue where
  type := .booking
  stage := l.charge.stage
  reference := some l.charge.reference
  userId := userId

/-- Report and return a failed `SettleResult`. -/
def fail (l : Settling) (issue : PaymentIssue) (reason : String) (code : SettleCode) : Settling :=
  (l.reportPaymentIssue issue).finish (.failed reason code)

/-- The metadata is incomplete. -/
def failMeta (l : Settling) : Settling :=
  l.fail { l.issue (l.charge.metadata.bind ChargeMetadata.userId) with
      message := some "Booking payment metadata incomplete"
      context := { code := some SettleCode.metadata.text } }
    "Payment metadata was incomplete." .metadata

/-- The trip is unknown. -/
def failTrip (l : Settling) (tripId : TripId) (userId : UserId) : Settling :=
  l.fail { l.issue userId with
      message := some "Booking payment references unknown trip"
      context := { code := some SettleCode.trip.text, tripId := some tripId } }
    "The trip for this payment no longer exists." .trip

/-- The amount is not the one the database gives. -/
def failAmount (l : Settling) (tripId : TripId) (userId : UserId) (expectedKobo : ℤ) : Settling :=
  l.fail { l.issue userId with
      message := some "Booking payment amount mismatch — possible fraud"
      context := {
        code := some SettleCode.amount.text
        expectedKobo := some (expectedKobo : ℚ)
        receivedKobo := some l.charge.amountKobo
        tripId := some tripId } }
    "Payment amount did not match the booking." .amount

/-- The `catch` around `bookingsService.confirm`. -/
def confirmThrows (l : Settling) (q : ConfirmCall) (e : Thrown) : Settling :=
  if e.isConflictError then
    l.fail { l.issue q.userId with
        message := some "Payment captured but seats unavailable — manual refund required"
        context := { code := some SettleCode.seatsGone.text, tripId := some q.input.tripId } }
      "Seats are no longer available." .seatsGone
  else
    (l.reportPaymentIssue { l.issue q.userId with
      error := some e
      context := { tripId := some q.input.tripId } }).finish (.thrown e)

/-- The `catch` around the transaction of `confirm`. -/
def txThrows (l : Settling) (q : ConfirmCall) (e : Thrown) : Settling :=
  let l' := { l with rolledBack := some e }
  if e.isConflictError then l'.goto (.recheck q e) else l'.confirmThrows q e

/-- The error of a statement that fails. -/
def dbFailed : Thrown := .db .failed

/-- The error of `lockAndMarkBooked` when a row is missing. -/
def seatsGone : Thrown :=
  .app (.holdExpiredError "One or more seats are no longer available")

/-- What `confirm` emits after its commit. -/
def emission (i : ℕ) (q : ConfirmCall) (totalAmount : ℤ) (booking : BookingDTO) : Emitted where
  byDelivery := i
  confirmed := {
    bookingId := booking.id
    userId := q.userId
    tripId := q.input.tripId
    seatIds := q.input.seatIds
    totalAmount := totalAmount
    paymentRef := q.input.paymentRef }
  created := booking.trip.map fun t => ⟨t.operatorId, booking.id, q.input.tripId⟩

/-- The price check of `settleBookingCharge`; `passengers` is what Redis had cached. -/
def checkAmount (l : Settling) (tripId : TripId) (seatIds : List SeatId) (userId : UserId)
    (passengers : Option (List PassengerInfoInput)) (price : Option ℤ) : Settling :=
  match price with
  | none => l.failTrip tripId userId
  | some price =>
      let expectedKobo := seatIds.length * price * 100
      if l.charge.amountKobo ≠ expectedKobo then l.failAmount tripId userId expectedKobo
      else l.goto (.confirm ⟨⟨l.charge.reference, tripId, seatIds, passengers⟩, userId⟩)

/-- The metadata check of `settleBookingCharge`. -/
def checkMeta (l : Settling) : Settling :=
  match l.charge.metadata.bind ChargeMetadata.tripId,
      l.charge.metadata.bind ChargeMetadata.seatIds,
      l.charge.metadata.bind ChargeMetadata.userId with
  | some tripId, some (x :: seatIds), some userId =>
      l.goto (.price tripId (x :: seatIds) userId)
  | _, _, _ => l.failMeta

/-- `verifyPayment` once Paystack has reported success. -/
def checkCaller (l : Settling) (caller : UserId) : Settling :=
  if (l.charge.metadata.bind ChargeMetadata.userId).any (fun u => u != caller) then
    l.finish (.thrown (.app .forbiddenError))
  else l.goto .settle

/-- The next step of the `i`-th delivery. -/
def step (i : ℕ) (l : Settling) (r : PayDB) (x : SettleInput) : Option (Settling × PayDB) :=
  match l.pc with
  | .done _ => none
  | .verify caller =>
      if x.fault then some (l.finish (.thrown dbFailed), r)
      else match Bookings.findByPaymentRef l.charge.reference r.db with
        | some booking =>
            if booking.userId ≠ caller then some (l.finish (.thrown (.app .forbiddenError)), r)
            else some (l.finish (.returned booking), r)
        | none => some (l.checkCaller caller, r)
  | .settle =>
      if x.fault then some (l.finish (.thrown dbFailed), r)
      else match Bookings.findByPaymentRef l.charge.reference r.db with
        | some booking => some (l.finish (.returned booking), r)
        | none => some (l.checkMeta, r)
  | .price tripId seatIds userId =>
      if x.fault then some (l.finish (.thrown dbFailed), r)
      else some (l.checkAmount tripId seatIds userId x.passengers
        (Bookings.findTripPrice tripId r.db), r)
  | .confirm q =>
      if x.fault then some (l.confirmThrows q dbFailed, r)
      else match Bookings.findByPaymentRef q.input.paymentRef r.db with
        | some booking => some (l.finish (.returned booking), r)
        | none => some (l.goto (.confirmPrice q), r)
  | .confirmPrice q =>
      if x.fault then some (l.confirmThrows q dbFailed, r)
      else match Bookings.findTripPrice q.input.tripId r.db with
        | none => some (l.confirmThrows q (.app (.notFoundError "Trip not found")), r)
        | some price =>
            some (l.goto (.select q (Bookings.totalAmount q.input.seatIds.length price)), r)
  | .select q totalAmount =>
      if x.fault then some (l.txThrows q dbFailed, r)
      else some (l.goto (.locking q totalAmount
        (Inventory.lockRows q.input.tripId q.input.seatIds q.userId r.db.seats) []), r)
  | .locking q totalAmount todo got =>
      if x.fault then some (l.txThrows q dbFailed, r.unlock i)
      else match todo with
        | [] => some (l.goto (.book q totalAmount got), r)
        | y :: todo =>
            if r.lockedByOther i y then none
            else if (Inventory.lockRows q.input.tripId q.input.seatIds q.userId
                r.db.seats).contains y then
              some (l.goto (.locking q totalAmount todo (y :: got)), r.lock i y)
            else some (l.goto (.locking q totalAmount todo got), r)
  | .book q totalAmount got =>
      if x.fault then some (l.txThrows q dbFailed, r.unlock i)
      else if got.length < q.input.seatIds.length then some (l.txThrows q seatsGone, r.unlock i)
      else if freshUuids x.uuids q r.db then
        match Bookings.createBookingRecord x.uuids q.input.tripId q.input.seatIds
            ⟨q.userId, totalAmount, q.input.paymentRef, q.input.passengers⟩
            { r.db with seats := Inventory.markBooked q.input.seatIds r.db.seats } with
        | .error e => some (l.txThrows q e, r.unlock i)
        | .ok (booking, db) =>
            some (l.goto (.notify q totalAmount booking), (r.won i l.charge db).unlock i)
      else none
  | .recheck q e =>
      if x.fault then some (l.confirmThrows q dbFailed, r)
      else match Bookings.findByPaymentRef q.input.paymentRef r.db with
        | some raced => some (l.finish (.returned raced), r)
        | none => some (l.confirmThrows q e, r)
  | .notify q totalAmount booking =>
      some (l.finish (.returned booking), r.emit (emission i q totalAmount booking))

end Settling

/-! ## The machine -/

/-- An operation of the ledger, as other modules run it while deliveries are open.
Bookings are confirmed by deliveries only, and a statement waits for the rows it would
write until they are not locked. -/
def PayDB.env (r : PayDB) (a : Attempt) : Option PayDB :=
  let db := commit r.db a
  if !a.op.isConfirm && r.locks.all fun l =>
      decide (db.seats.find? (fun s => s.id = l.1) = r.db.seats.find? fun s => s.id = l.1) then
    some { r with db }
  else none

/-- The local state in which a delivery begins. -/
def Settling.start (d : Charge) : Settling where
  charge := d
  pc := match d.caller with
    | some caller => .verify caller
    | none => .settle

/-- Deliveries of booking charges over the ledger. -/
def payMachine : Machine PayDB Settling Charge SettleInput Attempt where
  start := Settling.start
  step := Settling.step
  env := PayDB.env

/-- Runs of deliveries and ledger operations from empty tables. -/
def payments : System (Config PayDB Settling) (Act Charge SettleInput Attempt) :=
  payMachine.system fun r =>
    ∃ users, r = ⟨⟨users, [], [], [], [], []⟩, [], [], []⟩

end TransHub
