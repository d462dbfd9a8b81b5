import TransHub.Ledger.Bookings
import Mathlib.Data.Rat.Defs

/-!
# Charges and payment issues

The data of a Paystack charge as `webhookBodySchema` leaves it, where
`handleWebhook` sends it, and what `reportPaymentIssue` is called with.  An amount is
the number Paystack sent, in kobo; it need not be an integer.  A string that the
code tests for truth is `none` when it is missing or empty.
-/

namespace TransHub

abbrev CharterId := ℕ
abbrev WaybillId := ℕ

/-- A naira amount in a `Decimal(12, 2)` column, in kobo: rounded to two digits after the
point, halves away from zero. -/
def decimal (naira : ℚ) : ℤ :=
  if 0 ≤ naira then (naira * 100 + 1 / 2).floor else -(-naira * 100 + 1 / 2).floor

/-- `data.metadata`. -/
structure ChargeMetadata where
  type : Option String
  charterId : Option CharterId
  waybillId : Option WaybillId
  tripId : Option TripId
  seatIds : Option (List SeatId)
  userId : Option UserId
  deriving DecidableEq

/-- `WebhookBody`. -/
structure WebhookBody where
  event : String
  reference : Ref
  status : String
  amount : ℚ
  metadata : Option ChargeMetadata
  deriving DecidableEq

/-- What `handleWebhook` does with a signed, well-formed body. -/
inductive WebhookRoute where
  | ignored
  | charterWithoutId
  | charter (charterId : CharterId) (reference : Ref) (webhookAmountKobo : ℚ)
  | waybillWithoutId
  | waybill (waybillId : WaybillId) (webhookAmountKobo : ℚ)
  | booking (reference : Ref) (amountKobo : ℚ) (metadata : Option ChargeMetadata)
  deriving DecidableEq

/-- The routing of `handleWebhook`. -/
def routeWebhook (body : WebhookBody) : WebhookRoute :=
  if body.event ≠ "charge.success" then .ignored
  else if body.status ≠ "success" then .ignored
  else if (body.metadata.bind ChargeMetadata.type) = some "charter" then
    match body.metadata.bind ChargeMetadata.charterId with
    | none => .charterWithoutId
    | some charterId => .charter charterId body.reference body.amount
  else if (body.metadata.bind ChargeMetadata.type) = some "waybill" then
    match body.metadata.bind ChargeMetadata.waybillId with
    | none => .waybillWithoutId
    | some waybillId => .waybill waybillId body.amount
  else .booking body.reference body.amount body.metadata

/-! ## Asking Paystack -/

/-- `TxState`. -/
inductive TxState where
  | success
  | failed
  | pending
  deriving DecidableEq

/-- `VerifiedTransaction`, as far as charters and waybills read it. -/
structure VerifiedTransaction where
  state : TxState
  amountKobo : ℚ
  deriving DecidableEq

/-- How a request to Paystack fails. -/
inductive ProviderFailure where
  | unreachable
  | refused
  deriving DecidableEq

/-- The error that `paystackPost` and `paystackGet` then throw. -/
def ProviderFailure.error : ProviderFailure → Thrown
  | unreachable => .app (.conflictError "Payment provider is unreachable. Please try again.")
  | refused => .app (.conflictError "Payment provider error. Please try again.")

/-- How the start of a payment fails. -/
inductive StartFailure where
  | provider (failure : ProviderFailure)
  | noUrl
  deriving DecidableEq

/-- The error that the start of `what` then throws. -/
def StartFailure.error (what : String) : StartFailure → Thrown
  | provider failure => failure.error
  | noUrl => .app (.conflictError ("Could not start " ++ what ++ ". Please try again."))

/-! ## Payment issues -/

inductive PaymentType where
  | booking
  | charter
  | waybill
  deriving DecidableEq

inductive PaymentStage where
  | init
  | verify
  | webhook
  | callback
  | confirm
  deriving DecidableEq

/-- The diagnostics that calls of `reportPaymentIssue` pass as `context`. -/
structure IssueContext where
  code : Option String := none
  tripId : Option TripId := none
  charterId : Option CharterId := none
  waybillId : Option WaybillId := none
  expectedKobo : Option ℚ := none
  receivedKobo : Option ℚ := none
  deriving DecidableEq

/-- The argument of `reportPaymentIssue`. -/
structure PaymentIssue where
  type : PaymentType
  stage : PaymentStage
  reference : Option Ref
  userId : Option UserId := none
  message : Option String := none
  error : Option Thrown := none
  context : IssueContext := {}
  deriving DecidableEq

end TransHub
