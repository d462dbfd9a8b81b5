import TransHub.Payments.Settle
import TransHub.Ledger.Prices

/-!
# Starting a payment

`paymentsService.initialize`, one step for each statement on the database and one for
the request to Paystack, next to the deliveries of charges and the operations of the
ledger.

* `ChargeRequest`: what the request says.
* `Initializing`, `Initializing.step`: a call and its steps.  None of them writes a
  table.
* `checkoutMachine`: calls of `initialize` over the configuration of deliveries, which
  moves on its own.  A generated trip id is one that no trip has had before.
-/

namespace TransHub

/-- The body of the request to Paystack. -/
structure ChargeRequest where
  reference : Ref
  amountKobo : ℤ
  metadata : ChargeMetadata
  deriving DecidableEq

/-- How a call of `initialize` ends. -/
inductive InitializeOutcome where
  | returned (authorizationUrl : String) (reference : Ref)
  | thrown (e : Thrown)
  deriving DecidableEq

/-- Where a call stands. -/
inductive InitializePc where
  | held
  | price (seatIds : List SeatId)
  | user (seatIds : List SeatId) (price : ℤ)
  | request (q : ChargeRequest)
  | done (o : InitializeOutcome)
  deriving DecidableEq

/-- A call of `initialize`.  The passengers of its input only reach Redis. -/
structure Initializing where
  userId : UserId
  tripId : TripId
  pc : InitializePc
  deriving DecidableEq

/-- What the outside world decides in a step of a call: whether the statement fails, the
clock, what `generateRef` gives, and how Paystack answers. -/
structure InitializeInput where
  fault : Bool
  now : Time
  reference : Ref
  answer : Except StartFailure String

/-- The deliveries with the tables they share, the requests that have been sent, and, as a
history, the id and the price of every trip there has been. -/
structure Checkout where
  pay : Config PayDB Settling
  requests : List ChargeRequest
  minted : List (TripId × ℤ)

namespace Initializing

def goto (l : Initializing) (pc : InitializePc) : Initializing := { l with pc }

def throws (l : Initializing) (e : Thrown) : Initializing := { l with pc := .done (.thrown e) }

/-- The seats that the user holds. -/
def checkHeld (l : Initializing) (seatIds : List SeatId) : Initializing :=
  if seatIds.length = 0 then
    l.throws (.app (.conflictError "Seat hold not found or expired — please select seats again"))
  else l.goto (.price seatIds)

/-- The price of the trip. -/
def checkPrice (l : Initializing) (seatIds : List SeatId) (price : Option ℤ) : Initializing :=
  match price with
  | none => l.throws (.app (.notFoundError "Trip not found"))
  | some price =>
      if price ≤ 0 then
        l.throws (.app (.conflictError
          "This trip has an invalid price — please contact the operator" "INVALID_PRICE"))
      else l.goto (.user seatIds price)

/-- The request that is then made. -/
def chargeRequest (l : Initializing) (seatIds : List SeatId) (price : ℤ) (reference : Ref) :
    ChargeRequest where
  reference := reference
  amountKobo := seatIds.length * price * 100
  metadata := {
    type := none
    charterId := none
    waybillId := none
    tripId := some l.tripId
    seatIds := some seatIds
    userId := some l.userId }

/-- The next step of a call. -/
def step (_ : ℕ) (l : Initializing) (r : Checkout) (x : InitializeInput) :
    Option (Initializing × Checkout) :=
  match l.pc with
  | .done _ => none
  | .held =>
      if x.fault then some (l.throws Settling.dbFailed, r)
      else some (l.checkHeld
        (Inventory.heldSeatIds l.tripId l.userId x.now r.pay.shared.db.seats), r)
  | .price seatIds =>
      if x.fault then some (l.throws Settling.dbFailed, r)
      else some (l.checkPrice seatIds (Bookings.findTripPrice l.tripId r.pay.shared.db), r)
  | .user seatIds price =>
      if x.fault then some (l.throws Settling.dbFailed, r)
      else if r.pay.shared.db.users.contains l.userId then
        some (l.goto (.request (l.chargeRequest seatIds price x.reference)), r)
      else some (l.throws (.app (.notFoundError "User not found")), r)
  | .request q =>
      let sent := { r with requests := q :: r.requests }
      match x.answer with
      | .error failure => some (l.throws (failure.error "payment"), sent)
      | .ok url => some (l.goto (.done (.returned url q.reference)), sent)

end Initializing

/-- The id and the price of the trip that a move of the deliveries and their environment
creates. -/
def mintsOf : Act Charge SettleInput Attempt → Option (TripId × ℤ)
  | .env a => a.op.mints
  | _ => none

/-- A move of the deliveries and their environment. -/
def Checkout.env (r : Checkout) (a : Act Charge SettleInput Attempt) : Option Checkout :=
  if (mintsOf a).all fun m => r.minted.all fun m' => m'.1 != m.1 then
    (payMachine.next r.pay a).map fun pay =>
      { r with pay, minted := (mintsOf a).toList ++ r.minted }
  else none

/-- Calls of `initialize`, each by a user for a trip. -/
def checkoutMachine :
    Machine Checkout Initializing (UserId × TripId) InitializeInput
      (Act Charge SettleInput Attempt) where
  start o := ⟨o.1, o.2, .held⟩
  step := Initializing.step
  env := Checkout.env

/-- Runs of calls, deliveries and ledger operations from empty tables. -/
def checkouts : System (Config Checkout Initializing)
    (Act (UserId × TripId) InitializeInput (Act Charge SettleInput Attempt)) :=
  checkoutMachine.system fun r =>
    ∃ users, r = ⟨⟨⟨⟨users, [], [], [], [], []⟩, [], [], []⟩, []⟩, [], []⟩

end TransHub
