import TransHub.Payments.Charge
import Mathlib.Data.Finset.Insert
import Mathlib.Data.Fintype.Defs

/-!
# Waybills

A row of `waybills` with its `waybill_events`, the writes of `waybillsRepository`, and
the checks that `waybillsService` makes on the row it has read.  Amounts are in kobo, as
for charters; `Math.round(Number(fee) * 100)` is the stored integer
(`Kobo.waybillExpectedKobo_eq`).

* `WaybillStatus`, `validTransitions`: the lifecycle.
* `Waybill`, `WaybillEvent`: the rows.
* `WaybillWrite`: the operations that check a row and then write it by its id, with
  `WaybillWrite.check` and `WaybillWrite.write` for the two halves.
* `Waybills.payable`, `Waybills.confirmPayment`: the one conditional update.
-/

namespace TransHub

/-- `WAYBILL_STATUSES`. -/
inductive WaybillStatus where
  | pending
  | quoteSent
  | paid
  | droppedOff
  | pickedUp
  | inTransit
  | arrivedAtHub
  | completed
  | cancelled
  deriving DecidableEq, Repr

namespace WaybillStatus

instance : Fintype WaybillStatus where
  elems := {pending, quoteSent, paid, droppedOff, pickedUp, inTransit, arrivedAtHub, completed,
    cancelled}
  complete s := by cases s <;> decide

def text : WaybillStatus → String
  | pending => "pending"
  | quoteSent => "quote_sent"
  | paid => "paid"
  | droppedOff => "dropped_off"
  | pickedUp => "picked_up"
  | inTransit => "in_transit"
  | arrivedAtHub => "arrived_at_hub"
  | completed => "completed"
  | cancelled => "cancelled"

/-- `VALID_TRANSITIONS`. -/
def validTransitions : WaybillStatus → List WaybillStatus
  | pending => [quoteSent, cancelled]
  | quoteSent => [paid, cancelled]
  | paid => [droppedOff, cancelled]
  | droppedOff => [pickedUp]
  | pickedUp => [inTransit]
  | inTransit => [arrivedAtHub]
  | arrivedAtHub => [completed]
  | completed => []
  | cancelled => []

/-- The statuses that `updateStatusSchema` lets through. -/
def updatable : List WaybillStatus :=
  [droppedOff, pickedUp, inTransit, arrivedAtHub, completed, cancelled]

end WaybillStatus

/-- What the customer has asked for. -/
structure WaybillRequest where
  waybillNo : ℕ
  userId : UserId
  senderName : String
  senderPhone : String
  recipientName : String
  recipientPhone : String
  fromLocation : String
  toLocation : String
  deriving DecidableEq, Repr

/-- A row of `waybills`. -/
structure Waybill extends WaybillRequest where
  id : WaybillId
  assignedOperatorId : Option OperatorId := none
  fee : ℤ := 0
  quoteNote : Option String := none
  status : WaybillStatus := .pending
  paymentRef : Option Ref := none
  paidAt : Option Time := none
  quoteSentAt : Option Time := none
  droppedOffAt : Option Time := none
  pickedUpAt : Option Time := none
  inTransitAt : Option Time := none
  arrivedAt : Option Time := none
  completedAt : Option Time := none
  deriving DecidableEq, Repr

/-- A row of `waybill_events`. -/
structure WaybillEvent where
  status : WaybillStatus
  location : Option String
  note : Option String
  createdAt : Time
  deriving DecidableEq, Repr

/-- `SendQuoteInput`, its amount in naira as the request has it. -/
structure WaybillQuote where
  assignedOperatorId : OperatorId
  quoteAmount : ℚ
  quoteNote : Option String
  deriving DecidableEq, Repr

/-- `UpdateStatusInput`, as `updateStatusSchema` leaves it. -/
structure UpdateStatusInput where
  status : WaybillStatus
  location : Option String
  note : Option String
  status_mem : status ∈ WaybillStatus.updatable
  deriving DecidableEq, Repr

/-- Who asks for a status update. -/
structure Requester where
  role : Role
  operatorId : Option OperatorId
  deriving DecidableEq, Repr

namespace Waybills

/-! ## `waybillsRepository` -/

def create (id : WaybillId) (data : WaybillRequest) : Waybill := { data with id }

/-- The event that `create` inserts with the row. -/
def createdEvent (now : Time) : WaybillEvent :=
  ⟨.pending, none, some "Waybill request submitted", now⟩

/-- The row that `sendQuote` writes. -/
def sendQuote (data : WaybillQuote) (now : Time) (w : Waybill) : Waybill :=
  { w with
    fee := decimal data.quoteAmount
    assignedOperatorId := some data.assignedOperatorId
    quoteNote := data.quoteNote
    status := .quoteSent
    quoteSentAt := some now }

/-- The event that `sendQuote` inserts in the same transaction. -/
def quoteEvent (data : WaybillQuote) (now : Time) : WaybillEvent :=
  ⟨.quoteSent, none, some (data.quoteNote.getD "Quote sent by admin"), now⟩

def setPaymentRef (paymentRef : Ref) (w : Waybill) : Waybill :=
  { w with paymentRef := some paymentRef }

/-- The `where` clause of `confirmPayment`. -/
def payable (w : Waybill) : Bool := w.paidAt == none && w.status == .quoteSent

/-- The row after the update of `confirmPayment`, or `none` when no row has matched. -/
def confirmPayment (paidAt : Time) (row : Option Waybill) : Option Waybill :=
  match row with
  | none => none
  | some w =>
      if payable w then some { w with status := .paid, paidAt := some paidAt } else none

/-- The event that `confirmPayment` inserts after its update. -/
def paidEvent (now : Time) : WaybillEvent := ⟨.paid, none, some "Payment confirmed", now⟩

/-- The row that `updateStatus` writes: the status and the timestamp of its stage. -/
def updateStatus (data : UpdateStatusInput) (now : Time) (w : Waybill) : Waybill :=
  match data.status with
  | .droppedOff => { w with status := .droppedOff, droppedOffAt := some now }
  | .pickedUp => { w with status := .pickedUp, pickedUpAt := some now }
  | .inTransit => { w with status := .inTransit, inTransitAt := some now }
  | .arrivedAtHub => { w with status := .arrivedAtHub, arrivedAt := some now }
  | .completed => { w with status := .completed, completedAt := some now }
  | status => { w with status }

/-- The event that `updateStatus` inserts in the same transaction. -/
def statusEvent (data : UpdateStatusInput) (now : Time) : WaybillEvent :=
  ⟨data.status, data.location, data.note, now⟩

/-! ## The checks of `waybillsService` -/

def waybillNotFound : Thrown := .app (.notFoundError "Waybill not found")

def notYours : Thrown := .app (.forbiddenError "Not your waybill")

def invalidTransition (message : String) : Thrown :=
  .app (.conflictError message "INVALID_STATUS_TRANSITION")

/-- The row, or a `NotFoundError`. -/
def found (row : Option Waybill) : Except Thrown Waybill := orThrow row waybillNotFound

/-- The checks of the requester in `updateWaybillStatus`. -/
def checkRequester (requester : Requester) (data : UpdateStatusInput) (w : Waybill) :
    Except Thrown Unit := do
  ensure (requester.role == .admin || requester.role == .operator)
    (.app (.forbiddenError "Only operators and admins can update waybill status"))
  if requester.role = .operator then
    ensure (requester.operatorId.isSome && w.assignedOperatorId == requester.operatorId)
      (.app (.forbiddenError "This waybill is not assigned to your company"))
    ensure (data.status != .cancelled)
      (.app (.forbiddenError "Only an admin can cancel a waybill"))

end Waybills

/-- The operations that read the row, check it and write it by its id. -/
inductive WaybillWrite where
  | sendQuote (data : WaybillQuote)
  | updateWaybillStatus (requester : Requester) (data : UpdateStatusInput)
  deriving DecidableEq, Repr

namespace WaybillWrite

open Waybills

/-- The checks on the row that `findById` has returned. -/
def check (row : Option Waybill) : WaybillWrite → Except Thrown Waybill
  | sendQuote _ => do
      let waybill ← found row
      ensure (waybill.status == .pending) (invalidTransition
        ("Cannot send quote — waybill is '" ++ waybill.status.text ++ "', expected 'pending'"))
      return waybill
  | updateWaybillStatus requester data => do
      let waybill ← found row
      checkRequester requester data waybill
      ensure (waybill.status.validTransitions.contains data.status) (invalidTransition
        ("Cannot transition from '" ++ waybill.status.text ++ "' to '" ++ data.status.text ++ "'"))
      return waybill

/-- The write on the stored row. -/
def write (now : Time) (w : Waybill) : WaybillWrite → Waybill
  | sendQuote data => Waybills.sendQuote data now w
  | updateWaybillStatus _ data => updateStatus data now w

/-- The event that the write inserts. -/
def event (now : Time) : WaybillWrite → WaybillEvent
  | sendQuote data => quoteEvent data now
  | updateWaybillStatus _ data => statusEvent data now

/-- The status that the write stores. -/
def target : WaybillWrite → WaybillStatus
  | sendQuote _ => .quoteSent
  | updateWaybillStatus _ data => data.status

/-- A check that passes returns the row, from whose status the write follows a
transition. -/
theorem check_ok {o : WaybillWrite} {row : Option Waybill} {w : Waybill}
    (h : o.check row = .ok w) : row = some w ∧ o.target ∈ w.status.validTransitions := by
  cases o with
  | sendQuote data =>
    obtain ⟨w', hrow, h⟩ := bind_eq_ok.mp h
    obtain ⟨_, hst, h⟩ := bind_eq_ok.mp h
    cases h
    have hst : w.status = .pending := by simpa using ensure_eq_ok.mp hst
    refine ⟨orThrow_eq_ok.mp hrow, ?_⟩
    rw [hst]
    exact List.mem_cons_self
  | updateWaybillStatus requester data =>
    obtain ⟨w', hrow, h⟩ := bind_eq_ok.mp h
    obtain ⟨_, -, h⟩ := bind_eq_ok.mp h
    obtain ⟨_, hst, h⟩ := bind_eq_ok.mp h
    cases h
    exact ⟨orThrow_eq_ok.mp hrow, List.contains_iff_mem.mp (ensure_eq_ok.mp hst)⟩

/-- A write stores its target. -/
@[simp] theorem write_status (o : WaybillWrite) (now : Time) (w : Waybill) :
    (o.write now w).status = o.target := by
  cases o with
  | sendQuote data => rfl
  | updateWaybillStatus requester data =>
    show (updateStatus data now w).status = data.status
    unfold updateStatus
    split <;> simp_all

@[simp] theorem write_paidAt (o : WaybillWrite) (now : Time) (w : Waybill) :
    (o.write now w).paidAt = w.paidAt := by
  cases o with
  | sendQuote data => rfl
  | updateWaybillStatus requester data =>
    show (updateStatus data now w).paidAt = w.paidAt
    unfold updateStatus
    split <;> rfl

end WaybillWrite

namespace Waybills

/-- `confirmPayment` changes a row exactly when it is payable. -/
theorem confirmPayment_eq_some {paidAt : Time} {row : Option Waybill} {w' : Waybill} :
    confirmPayment paidAt row = some w' ↔ ∃ w, row = some w ∧ w.paidAt = none ∧
      w.status = .quoteSent ∧ w' = { w with status := .paid, paidAt := some paidAt } := by
  cases row with
  | none => simp [confirmPayment]
  | some w =>
    rw [confirmPayment]
    constructor
    · intro h
      split at h <;> cases h
      next hpay =>
        rw [payable, Bool.and_eq_true, beq_iff_eq, beq_iff_eq] at hpay
        exact ⟨w, rfl, hpay.1, hpay.2, rfl⟩
    · rintro ⟨w₀, hw, hpaid, hst, rfl⟩
      cases hw
      rw [if_pos (by simp [payable, hpaid, hst])]

end Waybills

end TransHub
