import TransHub.Payments.Charge
import TransHub.Payments.Kobo
import Mathlib.Data.Finset.Insert
import Mathlib.Data.Fintype.Defs

/-!
# Charters

A row of `charters`, the writes of `chartersRepository`, and the checks that
`chartersService` makes on the row it has read.  A stored amount is in kobo, since a
`Decimal(12, 2)` column has two digits after the point; `Number(quotedPrice) * 100` is a
number of the language and need not be that integer.

* `Charter`, `CharterStatus`: the row and its lifecycle.
* `CharterWrite`: the operations that check a row and then write it by its id;
  `CharterWrite.check` and `CharterWrite.write` are the two halves.
* `Charters.payable`, `Charters.confirmPayment`: the one conditional update.
* `Charters.amountKobo`: the price as it is sent to Paystack and compared with a charge.
-/

namespace TransHub

/-- `CHARTER_STATUSES`. -/
inductive CharterStatus where
  | pending
  | quoteSent
  | awaitingPayment
  | confirmed
  | completed
  | cancelled
  deriving DecidableEq, Repr

namespace CharterStatus

instance : Fintype CharterStatus where
  elems := {pending, quoteSent, awaitingPayment, confirmed, completed, cancelled}
  complete s := by cases s <;> decide

def text : CharterStatus → String
  | pending => "pending"
  | quoteSent => "quote_sent"
  | awaitingPayment => "awaiting_payment"
  | confirmed => "confirmed"
  | completed => "completed"
  | cancelled => "cancelled"

/-- The status flow that the service documents, with the cancellations it offers. -/
def next : CharterStatus → List CharterStatus
  | pending => [quoteSent, cancelled]
  | quoteSent => [awaitingPayment, cancelled]
  | awaitingPayment => [confirmed, cancelled]
  | confirmed => [completed]
  | completed => []
  | cancelled => []

/-- The statuses that `cancelCharter` accepts. -/
def cancellable : List CharterStatus := [pending, quoteSent, awaitingPayment]

end CharterStatus

/-- What the customer has asked for. -/
structure CharterRequest where
  passengerId : UserId
  passengerName : String
  passengerEmail : String
  vehicleType : String
  fromLocation : String
  toLocation : String
  departureAt : Time
  deriving DecidableEq, Repr

/-- A row of `charters`. -/
structure Charter extends CharterRequest where
  id : CharterId
  status : CharterStatus := .pending
  quotedPrice : Option ℤ := none
  operatorName : Option String := none
  operatorCost : Option ℤ := none
  serviceFee : Option ℤ := none
  adminNotes : Option String := none
  paymentRef : Option Ref := none
  paidAt : Option Time := none
  paidAmount : Option ℤ := none
  assignedOperator : Option String := none
  pickupInfo : Option String := none
  travelInfo : Option String := none
  completedAt : Option Time := none
  deriving DecidableEq, Repr

/-- `SendQuoteInput`, its amounts in naira as the request has them. -/
structure CharterQuote where
  quotedPrice : ℚ
  operatorName : String
  operatorCost : ℚ
  serviceFee : ℚ
  adminNotes : Option String
  deriving DecidableEq, Repr

/-- `ConfirmBookingInput`. -/
structure ConfirmBookingInput where
  assignedOperator : String
  pickupInfo : String
  travelInfo : String
  deriving DecidableEq, Repr

namespace Charters

/-! ## `chartersRepository` -/

def create (id : CharterId) (data : CharterRequest) : Charter := { data with id }

def updateStatus (status : CharterStatus) (c : Charter) : Charter := { c with status }

def sendQuote (data : CharterQuote) (c : Charter) : Charter :=
  { c with
    status := .quoteSent
    quotedPrice := some (decimal data.quotedPrice)
    operatorName := some data.operatorName
    operatorCost := some (decimal data.operatorCost)
    serviceFee := some (decimal data.serviceFee)
    adminNotes := data.adminNotes }

def acceptQuote (c : Charter) : Charter := { c with status := .awaitingPayment }

def setPaymentRef (paymentRef : Ref) (c : Charter) : Charter :=
  { c with paymentRef := some paymentRef }

/-- The `where` clause of `confirmPayment`. -/
def payable (c : Charter) : Bool := c.paidAt == none && c.status == .awaitingPayment

/-- The row after `confirmPayment`, or `none` when no row has matched. -/
def confirmPayment (paidAt : Time) (paidAmount : ℤ) (row : Option Charter) : Option Charter :=
  match row with
  | none => none
  | some c =>
      if payable c then
        some { c with paidAt := some paidAt, paidAmount := some paidAmount, status := .confirmed }
      else none

def adminConfirmBooking (data : ConfirmBookingInput) (c : Charter) : Charter :=
  { c with
    assignedOperator := some data.assignedOperator
    pickupInfo := some data.pickupInfo
    travelInfo := some data.travelInfo }

def complete (now : Time) (c : Charter) : Charter :=
  { c with status := .completed, completedAt := some now }

/-! ## The checks of `chartersService` -/

/-- `confirmed` or `completed`. -/
def settled (charter : Charter) : Bool :=
  charter.status == .confirmed || charter.status == .completed

/-- `Number(quotedPrice) * 100`, the `amountKobo` of `initializeCharterPayment` and the
`expectedKobo` of `processWebhookPayment`. -/
def amountKobo (quotedPrice : ℤ) : ℚ := Kobo.timesHundred quotedPrice

theorem amountKobo_pos {quotedPrice : ℤ} (h : 0 < quotedPrice) : 0 < amountKobo quotedPrice :=
  Kobo.timesHundred_pos h

def charterNotFound : Thrown := .app (.notFoundError "Charter not found")

def noAccess : Thrown := .app (.forbiddenError "You do not have access to this charter")

def invalidStatus (message : String) : Thrown :=
  .app (.conflictError message "CHARTER_INVALID_STATUS")

/-- The row, or a `NotFoundError`. -/
def found (row : Option Charter) : Except Thrown Charter := orThrow row charterNotFound

/-- `charter.passengerId !== passengerId`. -/
def checkOwner (passengerId : UserId) (c : Charter) : Except Thrown Unit :=
  ensure (c.passengerId == passengerId) noAccess

end Charters

/-- The operations that read the row, check it and write it by its id. -/
inductive CharterWrite where
  | sendQuote (data : CharterQuote)
  | acceptQuote (passengerId : UserId)
  | rejectQuote (passengerId : UserId)
  | adminConfirmBooking (data : ConfirmBookingInput)
  | completeCharter
  | cancelCharter (requestingUserId : UserId) (role : Role)
  deriving DecidableEq, Repr

namespace CharterWrite

open Charters

/-- The check of the requester. -/
def checkRequester (c : Charter) : CharterWrite → Except Thrown Unit
  | sendQuote _ | adminConfirmBooking _ | completeCharter => .ok ()
  | acceptQuote passengerId | rejectQuote passengerId => checkOwner passengerId c
  | cancelCharter requestingUserId role =>
      ensure (!(role == .passenger && c.passengerId != requestingUserId))
        (.app (.forbiddenError "You cannot cancel this charter"))

/-- The statuses that an operation accepts. -/
def accepts : CharterWrite → List CharterStatus
  | sendQuote _ => [.pending]
  | acceptQuote _ | rejectQuote _ => [.quoteSent]
  | adminConfirmBooking _ | completeCharter => [.confirmed]
  | cancelCharter _ _ => CharterStatus.cancellable

/-- The message of the `ConflictError` in any other status. -/
def refusal (status : String) : CharterWrite → String
  | sendQuote _ => "Charter cannot be quoted in status '" ++ status ++ "'"
  | acceptQuote _ =>
      "Quote can only be accepted when status is 'quote_sent' (current: '" ++ status ++ "')"
  | rejectQuote _ =>
      "Quote can only be rejected when status is 'quote_sent' (current: '" ++ status ++ "')"
  | adminConfirmBooking _ =>
      "Booking can only be confirmed when status is 'confirmed' (current: '" ++ status ++ "')"
  | completeCharter =>
      "Charter can only be completed when status is 'confirmed' (current: '" ++ status ++ "')"
  | cancelCharter _ _ => "Cannot cancel a charter in status '" ++ status ++ "'"

/-- The checks on the row that `findById` has returned. -/
def check (row : Option Charter) (w : CharterWrite) : Except Thrown Charter := do
  let charter ← found row
  w.checkRequester charter
  ensure (w.accepts.contains charter.status) (invalidStatus (w.refusal charter.status.text))
  return charter

/-- The write on the stored row. -/
def write (now : Time) (c : Charter) : CharterWrite → Charter
  | sendQuote data => Charters.sendQuote data c
  | acceptQuote _ => Charters.acceptQuote c
  | rejectQuote _ => updateStatus .cancelled c
  | adminConfirmBooking data => Charters.adminConfirmBooking data c
  | completeCharter => complete now c
  | cancelCharter _ _ => updateStatus .cancelled c

/-- The status that the write stores, if it stores one. -/
def target : CharterWrite → Option CharterStatus
  | sendQuote _ => some .quoteSent
  | acceptQuote _ => some .awaitingPayment
  | rejectQuote _ => some .cancelled
  | adminConfirmBooking _ => none
  | completeCharter => some .completed
  | cancelCharter _ _ => some .cancelled

/-- A check that passes returns the row, in a status it accepts. -/
theorem check_ok {w : CharterWrite} {row : Option Charter} {c : Charter}
    (h : w.check row = .ok c) : row = some c ∧ c.status ∈ w.accepts := by
  obtain ⟨c', hrow, h⟩ := bind_eq_ok.mp h
  obtain ⟨_, -, h⟩ := bind_eq_ok.mp h
  obtain ⟨_, hst, h⟩ := bind_eq_ok.mp h
  cases h
  exact ⟨orThrow_eq_ok.mp hrow, List.contains_iff_mem.mp (ensure_eq_ok.mp hst)⟩

/-- A write stores its target, and leaves the status alone when it has none. -/
@[simp] theorem write_status (w : CharterWrite) (now : Time) (c : Charter) :
    (w.write now c).status = w.target.getD c.status := by
  cases w <;> rfl

@[simp] theorem write_paidAt (w : CharterWrite) (now : Time) (c : Charter) :
    (w.write now c).paidAt = c.paidAt := by
  cases w <;> rfl

@[simp] theorem write_paidAmount (w : CharterWrite) (now : Time) (c : Charter) :
    (w.write now c).paidAmount = c.paidAmount := by
  cases w <;> rfl

end CharterWrite

namespace Charters

/-- `confirmPayment` changes a row exactly when it is payable. -/
theorem confirmPayment_eq_some {paidAt : Time} {paidAmount : ℤ} {row : Option Charter}
    {c' : Charter} :
    confirmPayment paidAt paidAmount row = some c' ↔ ∃ c, row = some c ∧ c.paidAt = none ∧
      c.status = .awaitingPayment ∧
      c' = { c with
        paidAt := some paidAt
        paidAmount := some paidAmount
        status := .confirmed } := by
  cases row with
  | none => simp [confirmPayment]
  | some c =>
    rw [confirmPayment]
    constructor
    · intro h
      split at h <;> cases h
      next hpay =>
        rw [payable, Bool.and_eq_true, beq_iff_eq, beq_iff_eq] at hpay
        exact ⟨c, rfl, hpay.1, hpay.2, rfl⟩
    · rintro ⟨c₀, hc, hpaid, hst, rfl⟩
      cases hc
      rw [if_pos (by simp [payable, hpaid, hst])]

end Charters

end TransHub
