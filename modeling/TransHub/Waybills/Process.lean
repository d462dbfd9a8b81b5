import TransHub.Waybills.Schema
import TransHub.Foundation.Machine

/-!
# Operations on one waybill

The calls of `waybillsService` on one waybill, and the listener that `handleWebhook`
reaches through the event bus, one step for each statement or transaction on the database
and for each request to Paystack.

* `WaybillOp`, `WaybillProc`: a call, where it stands, and its history.
* `WaybillProc.step`: its steps.
* `waybillMachine`, `waybills`: any number of calls over the row of one waybill.
* `WaybillStep`, `step_cases`: the ways a step can go, the call after it included.
* `WaybillMove`, `step_move`: what of it the row and its writer see; `WaybillEffect` is what
  the row alone sees.
-/

namespace TransHub

/-! ## Calls -/

/-- A call on the waybill. -/
inductive WaybillOp where
  | write (o : WaybillWrite)
  | initiatePay (userId : UserId)
  | webhook (body : WebhookBody)
  | verifyPayment (reference : Ref) (userId : UserId)
  deriving DecidableEq

/-- What `handlePaymentConfirmed` is given of a charge; the event carries no reference. -/
structure WaybillCharge where
  paidAt : Time
  webhookAmountKobo : ℚ
  deriving DecidableEq

/-- How a call ends.  The listener of a webhook has no caller: what it throws is
logged. -/
inductive WaybillOutcome where
  | returned (waybill : Waybill)
  | payment (reference : Ref)
  | acknowledged
  | verified (state : TxState) (waybill : Waybill)
  | thrown (e : Thrown)
  | logged (e : Thrown)
  deriving DecidableEq

/-- Where a call stands.  The steps of `handlePaymentConfirmed` remember the row that
`verifyPayment` has read, when it is the one that called. -/
inductive WaybillPc where
  | start
  | write (o : WaybillWrite) (waybill : Waybill)
  | written (o : WaybillWrite)
  | initializeFn (waybill : Waybill)
  | setPaymentRef (waybill : Waybill) (reference : Ref)
  | lookup (waybill : Waybill) (reference : Ref)
  | find (d : WaybillCharge) (caller : Option Waybill)
  | confirm (d : WaybillCharge) (waybill : Waybill) (caller : Option Waybill)
  | confirmed (waybill : Waybill) (caller : Option Waybill)
  | track (waybill : Waybill) (caller : Option Waybill)
  | notify (waybill : Waybill) (caller : Option Waybill)
  | reread (waybill : Waybill)
  | done (o : WaybillOutcome)
  deriving DecidableEq

/-- A call: where it stands, the charge that has reached it and its reference, the issues
it has reported, and whether its update has confirmed the payment. -/
structure WaybillProc where
  op : WaybillOp
  pc : WaybillPc := .start
  charge : Option WaybillCharge := none
  reference : Option Ref := none
  issues : List PaymentIssue := []
  flipped : Bool := false
  deriving DecidableEq

/-! ## The shared state -/

/-- The events `waybill.tracking_updated`, `waybill.quote_sent`, `waybill.paid` and
`waybill.delivered`. -/
inductive WaybillNotice where
  | trackingUpdated (waybillNo : ℕ) (status : WaybillStatus) (events : List WaybillEvent)
  | quoteSent (waybill : Waybill) (customerEmail : String) (quoteAmount : ℚ)
  | paid (waybill : Waybill) (senderEmail : String)
  | delivered (waybill : Waybill)
  deriving DecidableEq

def WaybillNotice.isPaid : WaybillNotice → Bool
  | paid _ _ => true
  | _ => false

/-- The row of the waybill and its events, what has been emitted, and, as a history, the
call whose update has confirmed the payment with the reference of its charge. -/
structure WaybillDB where
  row : Option Waybill
  events : List WaybillEvent
  emitted : List WaybillNotice
  settledBy : Option (ℕ × Option Ref)
  deriving DecidableEq

/-- What the outside world decides in a step; `email` is what `usersService` finds. -/
structure WaybillInput where
  fault : Bool
  now : Time
  email : String
  started : Except StartFailure Ref
  lookedUp : Except ProviderFailure (Option VerifiedTransaction)

/-! ## The steps -/

namespace WaybillProc

open Waybills

def goto (l : WaybillProc) (pc : WaybillPc) : WaybillProc := { l with pc }

def finish (l : WaybillProc) (o : WaybillOutcome) : WaybillProc := { l with pc := .done o }

/-- `reportPaymentIssue`. -/
def reportPaymentIssue (l : WaybillProc) (issue : PaymentIssue) : WaybillProc :=
  { l with issues := l.issues ++ [issue] }

def dbFailed : Thrown := .db .failed

/-- `handlePaymentConfirmed` returns to the listener or to `verifyPayment`. -/
def returns (l : WaybillProc) (caller : Option Waybill) : WaybillProc :=
  match caller with
  | none => l.finish .acknowledged
  | some waybill => l.goto (.reread waybill)

/-- `handlePaymentConfirmed` throws: the listener logs, `verifyPayment` throws on. -/
def throws (l : WaybillProc) (caller : Option Waybill) (e : Thrown) : WaybillProc :=
  match caller with
  | none => l.finish (.logged e)
  | some _ => l.finish (.thrown e)

/-- The check of a call, and what follows when it passes. -/
def after (l : WaybillProc) (check : Except Thrown Waybill) (k : Waybill → WaybillPc) :
    WaybillProc :=
  match check with
  | .error e => l.finish (.thrown e)
  | .ok waybill => l.goto (k waybill)

/-- The checks of `initiatePay`. -/
def checkInitiate (userId : UserId) (row : Option Waybill) : Except Thrown Waybill := do
  let waybill ← found row
  ensure (waybill.userId == userId) notYours
  ensure (waybill.status == .quoteSent) (invalidTransition
    ("Cannot pay — waybill is '" ++ waybill.status.text ++ "', expected 'quote_sent'"))
  ensure (decide (0 < waybill.fee))
    (.app (.conflictError "Waybill has no quoted fee — contact admin" "NO_QUOTE"))
  return waybill

/-- `initializeWaybillPayment`. -/
def initializeWaybillPayment (waybill : Waybill) (started : Except StartFailure Ref) :
    Except Thrown Ref :=
  let amountKobo := waybill.fee
  if amountKobo ≤ 0 then .error (.app (.conflictError "Waybill fee is invalid" "INVALID_PRICE"))
  else match started with
    | .error failure => .error (failure.error "waybill payment")
    | .ok reference => .ok reference

/-- `verifyPayment` up to its request to Paystack; `row` is what `findByPaymentRef`
returns. -/
def verifyStart (l : WaybillProc) (reference : Ref) (userId : UserId) (row : Option Waybill) :
    WaybillProc :=
  match row with
  | none => l.finish (.thrown waybillNotFound)
  | some waybill =>
      if waybill.userId ≠ userId then l.finish (.thrown notYours)
      else if waybill.paidAt ≠ none then l.finish (.verified .success waybill)
      else if waybill.status ≠ .quoteSent then l.finish (.verified .pending waybill)
      else l.goto (.lookup waybill reference)

/-- What `verifyPayment` does with Paystack's answer. -/
def lookedUp (l : WaybillProc) (waybill : Waybill) (reference : Ref) (now : Time) :
    Except ProviderFailure (Option VerifiedTransaction) → WaybillProc
  | .error failure => l.finish (.thrown failure.error)
  | .ok none => l.finish (.verified .failed waybill)
  | .ok (some tx) => match tx.state with
      | .pending => l.finish (.verified .pending waybill)
      | .failed => l.finish (.verified .failed waybill)
      | .success =>
          let d : WaybillCharge := ⟨now, tx.amountKobo⟩
          { l with
            charge := some d
            reference := some reference
            pc := .find d (some waybill) }

/-- `handleWebhook` up to the listener of `payment.waybill.succeeded`. -/
def route (l : WaybillProc) (waybillId : WaybillId) (now : Time) (body : WebhookBody) :
    WaybillProc :=
  match routeWebhook body with
  | .waybill id webhookAmountKobo =>
      if id = waybillId then
        let d : WaybillCharge := ⟨now, webhookAmountKobo⟩
        { l with
          charge := some d
          reference := some body.reference
          pc := .find d none }
      else l.finish .acknowledged
  | _ => l.finish .acknowledged

/-- `handlePaymentConfirmed` from its `findById` to its `confirmPayment`. -/
def checkCharge (l : WaybillProc) (d : WaybillCharge) (caller : Option Waybill)
    (row : Option Waybill) : WaybillProc :=
  match row with
  | none => l.returns caller
  | some waybill =>
      if waybill.paidAt ≠ none then l.returns caller
      else
        let expectedKobo := waybill.fee
        if d.webhookAmountKobo ≠ expectedKobo then
          (l.reportPaymentIssue {
            type := .waybill
            stage := .webhook
            reference := waybill.paymentRef
            userId := some waybill.userId
            message := some "Waybill payment amount mismatch — possible fraud"
            context := {
              code := some "AMOUNT"
              expectedKobo := some (expectedKobo : ℚ)
              receivedKobo := some d.webhookAmountKobo
              waybillId := some waybill.id } }).returns caller
        else l.goto (.confirm d waybill caller)

/-- What an operation emits once it has read the row back. -/
def notices (updated : Waybill) (events : List WaybillEvent) (email : String) :
    WaybillWrite → List WaybillNotice
  | .sendQuote data =>
      [.trackingUpdated updated.waybillNo updated.status events,
        .quoteSent updated email data.quoteAmount]
  | .updateWaybillStatus _ data =>
      .trackingUpdated updated.waybillNo updated.status events ::
        if data.status = .completed then [.delivered updated] else []

/-- The next step of the `i`-th call. -/
def step (waybillId : WaybillId) (i : ℕ) (l : WaybillProc) (r : WaybillDB) (x : WaybillInput) :
    Option (WaybillProc × WaybillDB) :=
  match l.pc with
  | .done _ => none
  | .start => match l.op with
      | .webhook body => some (l.route waybillId x.now body, r)
      | .write o =>
          if x.fault then some (l.finish (.thrown dbFailed), r)
          else some (l.after (o.check r.row) (.write o), r)
      | .initiatePay userId =>
          if x.fault then some (l.finish (.thrown dbFailed), r)
          else some (l.after (checkInitiate userId r.row) .initializeFn, r)
      | .verifyPayment reference userId =>
          if x.fault then some (l.finish (.thrown dbFailed), r)
          else some (l.verifyStart reference userId
            (r.row.filter fun w => w.paymentRef == some reference), r)
  | .write o _ =>
      if x.fault then some (l.finish (.thrown dbFailed), r)
      else match r.row with
        | none => some (l.finish (.thrown dbFailed), r)
        | some w => some (l.goto (.written o),
            { r with row := some (o.write x.now w), events := r.events ++ [o.event x.now] })
  | .written o =>
      if x.fault then some (l.finish (.thrown dbFailed), r)
      else match r.row with
        | none => some (l.finish (.thrown dbFailed), r)
        | some updated => some (l.finish (.returned updated),
            { r with emitted := r.emitted ++ notices updated r.events x.email o })
  | .initializeFn waybill => match initializeWaybillPayment waybill x.started with
      | .error e => some (l.finish (.thrown e), r)
      | .ok reference => some (l.goto (.setPaymentRef waybill reference), r)
  | .setPaymentRef _ reference =>
      if x.fault then some (l.finish (.thrown dbFailed), r)
      else match r.row with
        | none => some (l.finish (.thrown dbFailed), r)
        | some w => some (l.finish (.payment reference),
            { r with row := some (setPaymentRef reference w) })
  | .lookup waybill reference => some (l.lookedUp waybill reference x.now x.lookedUp, r)
  | .find d caller =>
      if x.fault then some (l.throws caller dbFailed, r)
      else some (l.checkCharge d caller r.row, r)
  | .confirm d waybill caller =>
      if x.fault then some (l.throws caller dbFailed, r)
      else match confirmPayment d.paidAt r.row with
        | none => some (l.returns caller, r)
        | some w => some ({ l with flipped := true, pc := .confirmed waybill caller },
            { r with row := some w, settledBy := some (i, l.reference) })
  | .confirmed waybill caller =>
      if x.fault then some (l.throws caller dbFailed, r)
      else some (l.goto (.track waybill caller), { r with events := r.events ++ [paidEvent x.now] })
  | .track waybill caller =>
      if x.fault then some (l.throws caller dbFailed, r)
      else some (l.goto (.notify waybill caller), { r with emitted := r.emitted ++
        (r.row.map fun w => .trackingUpdated w.waybillNo w.status r.events).toList })
  | .notify waybill caller => some (l.returns caller,
      { r with emitted := r.emitted ++ [.paid waybill x.email] })
  | .reread waybill =>
      if x.fault then some (l.finish (.thrown dbFailed), r)
      else
        let updated := r.row.getD waybill
        some (l.finish (.verified (if updated.paidAt = none then .failed else .success) updated), r)

end WaybillProc

/-! ## The machine -/

/-- Calls on one waybill; a customer may submit it at some instant. -/
def waybillMachine (waybillId : WaybillId) :
    Machine WaybillDB WaybillProc WaybillOp WaybillInput (WaybillRequest × Time) where
  start op := { op }
  step := WaybillProc.step waybillId
  env r data := match r.row with
    | none => some { r with
        row := some (Waybills.create waybillId data.1)
        events := r.events ++ [Waybills.createdEvent data.2] }
    | some _ => none

/-- Runs of calls on a waybill that nobody has submitted yet. -/
def waybills (waybillId : WaybillId) :
    System (Config WaybillDB WaybillProc) (Act WaybillOp WaybillInput (WaybillRequest × Time)) :=
  (waybillMachine waybillId).system fun r => r = ⟨none, [], [], none⟩

/-! ## What a step does -/

/-- The ways a step of call `i` in the local state `l` can go. -/
inductive WaybillStep (waybillId : WaybillId) (i : ℕ) (l : WaybillProc) (r : WaybillDB)
    (x : WaybillInput) : WaybillProc → WaybillDB → Prop where
  | failed (h : x.fault = true ∨ r.row = none) :
      WaybillStep waybillId i l r x (l.finish (.thrown WaybillProc.dbFailed)) r
  | route (body : WebhookBody) (hpc : l.pc = .start) (hop : l.op = .webhook body) :
      WaybillStep waybillId i l r x (l.route waybillId x.now body) r
  | check (o : WaybillWrite) (hpc : l.pc = .start) (hop : l.op = .write o) :
      WaybillStep waybillId i l r x (l.after (o.check r.row) (.write o)) r
  | initiate (userId : UserId) (hpc : l.pc = .start) (hop : l.op = .initiatePay userId) :
      WaybillStep waybillId i l r x
        (l.after (WaybillProc.checkInitiate userId r.row) .initializeFn) r
  | verify (reference : Ref) (userId : UserId) (hpc : l.pc = .start)
      (hop : l.op = .verifyPayment reference userId) :
      WaybillStep waybillId i l r x (l.verifyStart reference userId
        (r.row.filter fun w => w.paymentRef == some reference)) r
  | write (o : WaybillWrite) (waybill w : Waybill) (hpc : l.pc = .write o waybill)
      (hfault : x.fault = false) (hrow : r.row = some w) :
      WaybillStep waybillId i l r x (l.goto (.written o))
        { r with row := some (o.write x.now w), events := r.events ++ [o.event x.now] }
  | announce (o : WaybillWrite) (updated : Waybill) (hpc : l.pc = .written o)
      (hrow : r.row = some updated) :
      WaybillStep waybillId i l r x (l.finish (.returned updated))
        { r with emitted := r.emitted ++ WaybillProc.notices updated r.events x.email o }
  | refused (waybill : Waybill) (e : Thrown) (hpc : l.pc = .initializeFn waybill)
      (h : WaybillProc.initializeWaybillPayment waybill x.started = .error e) :
      WaybillStep waybillId i l r x (l.finish (.thrown e)) r
  | started (waybill : Waybill) (reference : Ref) (hpc : l.pc = .initializeFn waybill)
      (h : WaybillProc.initializeWaybillPayment waybill x.started = .ok reference) :
      WaybillStep waybillId i l r x (l.goto (.setPaymentRef waybill reference)) r
  | setPaymentRef (waybill : Waybill) (reference : Ref) (w : Waybill)
      (hpc : l.pc = .setPaymentRef waybill reference) (hfault : x.fault = false)
      (hrow : r.row = some w) :
      WaybillStep waybillId i l r x (l.finish (.payment reference))
        { r with row := some (Waybills.setPaymentRef reference w) }
  | lookup (waybill : Waybill) (reference : Ref) (hpc : l.pc = .lookup waybill reference) :
      WaybillStep waybillId i l r x (l.lookedUp waybill reference x.now x.lookedUp) r
  | throws (caller : Option Waybill) (hfault : x.fault = true) :
      WaybillStep waybillId i l r x (l.throws caller WaybillProc.dbFailed) r
  | find (d : WaybillCharge) (caller : Option Waybill) (hpc : l.pc = .find d caller)
      (hfault : x.fault = false) : WaybillStep waybillId i l r x (l.checkCharge d caller r.row) r
  | late (d : WaybillCharge) (waybill : Waybill) (caller : Option Waybill)
      (hpc : l.pc = .confirm d waybill caller) (hfault : x.fault = false)
      (hnone : Waybills.confirmPayment d.paidAt r.row = none) :
      WaybillStep waybillId i l r x (l.returns caller) r
  | confirm (d : WaybillCharge) (waybill : Waybill) (caller : Option Waybill) (w : Waybill)
      (hpc : l.pc = .confirm d waybill caller) (hfault : x.fault = false)
      (hconf : Waybills.confirmPayment d.paidAt r.row = some w) :
      WaybillStep waybillId i l r x { l with flipped := true, pc := .confirmed waybill caller }
        { r with row := some w, settledBy := some (i, l.reference) }
  | record (waybill : Waybill) (caller : Option Waybill) (hpc : l.pc = .confirmed waybill caller)
      (hfault : x.fault = false) :
      WaybillStep waybillId i l r x (l.goto (.track waybill caller))
        { r with events := r.events ++ [Waybills.paidEvent x.now] }
  | track (waybill : Waybill) (caller : Option Waybill) (hpc : l.pc = .track waybill caller)
      (hfault : x.fault = false) :
      WaybillStep waybillId i l r x (l.goto (.notify waybill caller))
        { r with emitted := r.emitted ++
          (r.row.map fun w => .trackingUpdated w.waybillNo w.status r.events).toList }
  | notify (waybill : Waybill) (caller : Option Waybill) (hpc : l.pc = .notify waybill caller) :
      WaybillStep waybillId i l r x (l.returns caller)
        { r with emitted := r.emitted ++ [.paid waybill x.email] }
  | reread (waybill : Waybill) (hpc : l.pc = .reread waybill) (hfault : x.fault = false) :
      WaybillStep waybillId i l r x (l.finish (.verified
        (if (r.row.getD waybill).paidAt = none then .failed else .success)
        (r.row.getD waybill))) r

/-- **The ways a step can go.** -/
theorem WaybillProc.step_cases {waybillId : WaybillId} {i : ℕ} {l l' : WaybillProc}
    {r r' : WaybillDB} {x : WaybillInput} (h : step waybillId i l r x = some (l', r')) :
    WaybillStep waybillId i l r x l' r' := by
  unfold step at h
  cases hpc : l.pc with
  | done o => simp [hpc] at h
  | start =>
    simp only [hpc] at h
    cases hop : l.op with
    | webhook body =>
      simp only [hop] at h
      cases h
      exact .route body hpc hop
    | write o =>
      simp only [hop] at h
      split at h <;> cases h
      · next hfault => exact .failed (Or.inl hfault)
      · exact .check o hpc hop
    | initiatePay userId =>
      simp only [hop] at h
      split at h <;> cases h
      · next hfault => exact .failed (Or.inl hfault)
      · exact .initiate userId hpc hop
    | verifyPayment reference userId =>
      simp only [hop] at h
      split at h <;> cases h
      · next hfault => exact .failed (Or.inl hfault)
      · exact .verify reference userId hpc hop
  | write o waybill =>
    simp only [hpc] at h
    split at h
    · next hfault =>
      cases h
      exact .failed (Or.inl hfault)
    · next hfault =>
      split at h <;> cases h
      · next hrow => exact .failed (Or.inr hrow)
      · next hrow => exact .write o waybill _ hpc (Bool.eq_false_iff.mpr hfault) hrow
  | written o =>
    simp only [hpc] at h
    split at h
    · next hfault =>
      cases h
      exact .failed (Or.inl hfault)
    · split at h <;> cases h
      · next hrow => exact .failed (Or.inr hrow)
      · next hrow => exact .announce o _ hpc hrow
  | initializeFn waybill =>
    simp only [hpc] at h
    split at h <;> cases h
    · next hinit => exact .refused waybill _ hpc hinit
    · next hinit => exact .started waybill _ hpc hinit
  | setPaymentRef waybill reference =>
    simp only [hpc] at h
    split at h
    · next hfault =>
      cases h
      exact .failed (Or.inl hfault)
    · next hfault =>
      split at h <;> cases h
      · next hrow => exact .failed (Or.inr hrow)
      · next hrow =>
        exact .setPaymentRef waybill reference _ hpc (Bool.eq_false_iff.mpr hfault) hrow
  | lookup waybill reference =>
    simp only [hpc] at h
    cases h
    exact .lookup waybill reference hpc
  | find d caller =>
    simp only [hpc] at h
    split at h <;> cases h
    · next hfault => exact .throws caller hfault
    · next hfault => exact .find d caller hpc (Bool.eq_false_iff.mpr hfault)
  | confirm d waybill caller =>
    simp only [hpc] at h
    split at h
    · next hfault =>
      cases h
      exact .throws caller hfault
    · next hfault =>
      have hfault := Bool.eq_false_iff.mpr hfault
      split at h <;> cases h
      · next hnone => exact .late d waybill caller hpc hfault hnone
      · next hconf => exact .confirm d waybill caller _ hpc hfault hconf
  | confirmed waybill caller =>
    simp only [hpc] at h
    split at h <;> cases h
    · next hfault => exact .throws caller hfault
    · next hfault => exact .record waybill caller hpc (Bool.eq_false_iff.mpr hfault)
  | track waybill caller =>
    simp only [hpc] at h
    split at h <;> cases h
    · next hfault => exact .throws caller hfault
    · next hfault => exact .track waybill caller hpc (Bool.eq_false_iff.mpr hfault)
  | notify waybill caller =>
    simp only [hpc] at h
    cases h
    exact .notify waybill caller hpc
  | reread waybill =>
    simp only [hpc] at h
    split at h <;> cases h
    · next hfault => exact .failed (Or.inl hfault)
    · next hfault => exact .reread waybill hpc (Bool.eq_false_iff.mpr hfault)

/-- The places at which a call remembers nothing that others could change. -/
def WaybillPc.idle : WaybillPc → Bool
  | start | write _ _ | lookup _ _ | find _ _ | confirm _ _ _ | confirmed _ _ | track _ _
  | notify _ _ => false
  | written _ | initializeFn _ | setPaymentRef _ _ | reread _ | done _ => true

/-- What a step of call `i` in the local state `l` does, one case for each place where it
changes the row, its events or what the call remembers. -/
inductive WaybillMove (waybillId : WaybillId) (i : ℕ) (l : WaybillProc) (r : WaybillDB)
    (x : WaybillInput) : WaybillProc → WaybillDB → Prop where
  | idle (l' : WaybillProc) (emitted : List WaybillNotice)
      (hemitted : emitted.filter WaybillNotice.isPaid = r.emitted.filter WaybillNotice.isPaid)
      (hop : l'.op = l.op) (hcharge : l'.charge = l.charge) (hflip : l'.flipped = l.flipped)
      (hidle : l'.pc.idle = true) : WaybillMove waybillId i l r x l' { r with emitted }
  | check (o : WaybillWrite) (waybill : Waybill) (hpc : l.pc = .start) (hop : l.op = .write o)
      (hrow : r.row = some waybill) (htarget : o.target ∈ waybill.status.validTransitions) :
      WaybillMove waybillId i l r x (l.goto (.write o waybill)) r
  | ask (waybill : Waybill) (reference : Ref) (userId : UserId) (hpc : l.pc = .start)
      (hop : l.op = .verifyPayment reference userId) (hrow : r.row = some waybill)
      (href : waybill.paymentRef = some reference) :
      WaybillMove waybillId i l r x (l.goto (.lookup waybill reference)) r
  | arrive (d : WaybillCharge) (reference : Ref) (caller : Option Waybill)
      (hfrom : (l.pc = .start ∧ ∃ body, l.op = .webhook body ∧
          routeWebhook body = .waybill waybillId d.webhookAmountKobo) ∨
        ∃ waybill, l.pc = .lookup waybill reference ∧
          x.lookedUp = .ok (some ⟨.success, d.webhookAmountKobo⟩)) :
      WaybillMove waybillId i l r x
        { l with charge := some d, reference := some reference, pc := .find d caller } r
  | agree (d : WaybillCharge) (waybill : Waybill) (caller : Option Waybill)
      (hpc : l.pc = .find d caller) (hrow : r.row = some waybill) (hpaid : waybill.paidAt = none)
      (hamount : d.webhookAmountKobo = waybill.fee) :
      WaybillMove waybillId i l r x (l.goto (.confirm d waybill caller)) r
  | write (o : WaybillWrite) (waybill w : Waybill) (hpc : l.pc = .write o waybill)
      (hfault : x.fault = false) (hrow : r.row = some w) :
      WaybillMove waybillId i l r x (l.goto (.written o))
        { r with row := some (o.write x.now w), events := r.events ++ [o.event x.now] }
  | setPaymentRef (waybill : Waybill) (reference : Ref) (w : Waybill)
      (hpc : l.pc = .setPaymentRef waybill reference) (hrow : r.row = some w) :
      WaybillMove waybillId i l r x (l.finish (.payment reference))
        { r with row := some (Waybills.setPaymentRef reference w) }
  | confirm (d : WaybillCharge) (waybill : Waybill) (caller : Option Waybill) (w : Waybill)
      (hpc : l.pc = .confirm d waybill caller) (hrow : r.row = some w)
      (hpaid : w.paidAt = none) (hst : w.status = .quoteSent) :
      WaybillMove waybillId i l r x { l with flipped := true, pc := .confirmed waybill caller }
        { r with
          row := some { w with
            status := .paid
            paidAt := some d.paidAt }
          settledBy := some (i, l.reference) }
  | record (waybill : Waybill) (caller : Option Waybill) (hpc : l.pc = .confirmed waybill caller)
      (hfault : x.fault = false) :
      WaybillMove waybillId i l r x (l.goto (.track waybill caller))
        { r with events := r.events ++ [Waybills.paidEvent x.now] }
  | track (waybill : Waybill) (caller : Option Waybill) (emitted : List WaybillNotice)
      (hemitted : emitted.filter WaybillNotice.isPaid = r.emitted.filter WaybillNotice.isPaid)
      (hpc : l.pc = .track waybill caller) :
      WaybillMove waybillId i l r x (l.goto (.notify waybill caller)) { r with emitted }
  | notify (waybill : Waybill) (caller : Option Waybill) (hpc : l.pc = .notify waybill caller) :
      WaybillMove waybillId i l r x (l.returns caller)
        { r with emitted := r.emitted ++ [.paid waybill x.email] }

namespace WaybillProc

variable {waybillId : WaybillId} {i : ℕ} {l l' : WaybillProc} {r r' : WaybillDB}
  {x : WaybillInput}

/-- Going on to an idle place is no more than that. -/
theorem move_goto {pc : WaybillPc} (hpc : pc.idle = true) :
    WaybillMove waybillId i l r x (l.goto pc) r :=
  .idle _ _ rfl rfl rfl rfl hpc

theorem move_finish (o : WaybillOutcome) : WaybillMove waybillId i l r x (l.finish o) r :=
  .idle _ _ rfl rfl rfl rfl rfl

theorem move_returns (caller : Option Waybill) :
    WaybillMove waybillId i l r x (l.returns caller) r := by
  cases caller with
  | none => exact move_finish _
  | some waybill => exact move_goto rfl

theorem move_reported (issue : PaymentIssue) (caller : Option Waybill) :
    WaybillMove waybillId i l r x ((l.reportPaymentIssue issue).returns caller) r := by
  cases caller <;> exact .idle _ _ rfl rfl rfl rfl rfl

theorem move_throws (caller : Option Waybill) (e : Thrown) :
    WaybillMove waybillId i l r x (l.throws caller e) r := by
  cases caller with
  | none => exact move_finish _
  | some waybill => exact move_finish _

theorem move_verifyStart {reference : Ref} {userId : UserId} (hpc : l.pc = .start)
    (hop : l.op = .verifyPayment reference userId) :
    WaybillMove waybillId i l r x (l.verifyStart reference userId
      (r.row.filter fun w => w.paymentRef == some reference)) r := by
  unfold verifyStart
  split
  · exact move_finish _
  · next waybill hfound =>
    split
    · exact move_finish _
    · split
      · exact move_finish _
      · split
        · exact move_finish _
        · obtain ⟨hrow, href⟩ := Option.filter_eq_some_iff.mp hfound
          exact .ask waybill reference userId hpc hop hrow (eq_of_beq href)

theorem move_lookedUp {waybill : Waybill} {reference : Ref}
    (hpc : l.pc = .lookup waybill reference) :
    WaybillMove waybillId i l r x (l.lookedUp waybill reference x.now x.lookedUp) r := by
  unfold lookedUp
  split
  · exact move_finish _
  · exact move_finish _
  · next tx hanswer =>
    split
    · exact move_finish _
    · exact move_finish _
    · next hstate =>
      refine .arrive _ _ _ (Or.inr ⟨waybill, hpc, ?_⟩)
      rw [hanswer, ← hstate]

theorem move_route {body : WebhookBody} (hpc : l.pc = .start) (hop : l.op = .webhook body) :
    WaybillMove waybillId i l r x (l.route waybillId x.now body) r := by
  unfold route
  split
  · next id webhookAmountKobo hroute =>
    split
    · next hid =>
      subst hid
      exact .arrive _ _ _ (Or.inl ⟨hpc, body, hop, hroute⟩)
    · exact move_finish _
  · exact move_finish _

theorem move_checkCharge {d : WaybillCharge} {caller : Option Waybill}
    (hpc : l.pc = .find d caller) :
    WaybillMove waybillId i l r x (l.checkCharge d caller r.row) r := by
  unfold checkCharge
  split
  · exact move_returns _
  · next waybill hrow =>
    split
    · exact move_returns _
    · next hpaid =>
      dsimp only
      split
      · exact move_reported _ _
      · next hamount =>
        exact .agree d waybill caller hpc hrow (not_not.mp hpaid) (not_not.mp hamount)

theorem filter_notices (updated : Waybill) (events : List WaybillEvent) (email : String)
    (o : WaybillWrite) : (notices updated events email o).filter WaybillNotice.isPaid = [] := by
  cases o with
  | sendQuote data => rfl
  | updateWaybillStatus requester data =>
    rw [notices]
    split <;> rfl

/-- **What a step does.** -/
theorem step_move (h : step waybillId i l r x = some (l', r')) :
    WaybillMove waybillId i l r x l' r' := by
  cases step_cases h with
  | failed | refused | reread => exact move_finish _
  | route body hpc hop => exact move_route hpc hop
  | check o hpc hop =>
    unfold after
    split
    · exact move_finish _
    · next waybill hcheck =>
      obtain ⟨hrow, htarget⟩ := WaybillWrite.check_ok hcheck
      exact .check o waybill hpc hop hrow htarget
  | initiate userId hpc hop =>
    unfold after
    split
    · exact move_finish _
    · exact move_goto rfl
  | verify reference userId hpc hop => exact move_verifyStart hpc hop
  | write o waybill w hpc hfault hrow => exact .write o waybill w hpc hfault hrow
  | announce o updated hpc hrow =>
    refine .idle _ _ ?_ rfl rfl rfl rfl
    rw [List.filter_append, filter_notices, List.append_nil]
  | started waybill reference hpc => exact move_goto rfl
  | setPaymentRef waybill reference w hpc hfault hrow =>
    exact .setPaymentRef waybill reference w hpc hrow
  | lookup waybill reference hpc => exact move_lookedUp hpc
  | throws => exact move_throws _ _
  | find d caller hpc => exact move_checkCharge hpc
  | late => exact move_returns _
  | confirm d waybill caller w hpc hfault hconf =>
    obtain ⟨w, hrow, hpaid, hst, rfl⟩ := Waybills.confirmPayment_eq_some.mp hconf
    exact .confirm d waybill caller w hpc hrow hpaid hst
  | record waybill caller hpc hfault => exact .record waybill caller hpc hfault
  | track waybill caller hpc =>
    refine .track waybill caller _ ?_ hpc
    rw [List.filter_append]
    cases r.row with
    | none => exact List.append_nil _
    | some w => exact List.append_nil _
  | notify waybill caller hpc => exact .notify waybill caller hpc

end WaybillProc

/-! ## What it does to the row -/

/-- The effects of a step of call `i` in the local state `l`, on the row and its
history. -/
inductive WaybillEffect (i : ℕ) (l : WaybillProc) (r : WaybillDB) (x : WaybillInput) :
    WaybillProc → WaybillDB → Prop where
  | quiet (l' : WaybillProc) (r' : WaybillDB) (hrow : r'.row = r.row)
      (hsettled : r'.settledBy = r.settledBy) (hop : l'.op = l.op)
      (hflip : l'.flipped = l.flipped)
      (hpc : ∀ o w, l'.pc = .write o w → r.row = some w ∧ o.target ∈ w.status.validTransitions) :
      WaybillEffect i l r x l' r'
  | write (o : WaybillWrite) (waybill w : Waybill) (hpc : l.pc = .write o waybill)
      (hfault : x.fault = false) (hrow : r.row = some w) :
      WaybillEffect i l r x (l.goto (.written o))
        { r with row := some (o.write x.now w), events := r.events ++ [o.event x.now] }
  | setPaymentRef (waybill : Waybill) (reference : Ref) (w : Waybill)
      (hpc : l.pc = .setPaymentRef waybill reference) (hrow : r.row = some w) :
      WaybillEffect i l r x (l.finish (.payment reference))
        { r with row := some (Waybills.setPaymentRef reference w) }
  | confirm (d : WaybillCharge) (waybill : Waybill) (caller : Option Waybill) (w : Waybill)
      (hpc : l.pc = .confirm d waybill caller) (hrow : r.row = some w)
      (hpaid : w.paidAt = none) (hst : w.status = .quoteSent) :
      WaybillEffect i l r x { l with flipped := true, pc := .confirmed waybill caller }
        { r with
          row := some { w with
            status := .paid
            paidAt := some d.paidAt }
          settledBy := some (i, l.reference) }

theorem WaybillPc.ne_write_of_idle {pc : WaybillPc} (h : pc.idle = true) (o : WaybillWrite)
    (waybill : Waybill) : pc ≠ .write o waybill := by
  rintro rfl
  exact Bool.false_ne_true h

namespace WaybillProc

variable {waybillId : WaybillId} {i : ℕ} {l l' : WaybillProc} {r r' : WaybillDB}
  {x : WaybillInput}

/-- **What a step does to the row.** -/
theorem step_effect (h : step waybillId i l r x = some (l', r')) :
    WaybillEffect i l r x l' r' := by
  cases step_move h with
  | idle _ _ _ hop _ hflip hidle =>
    exact .quiet _ _ rfl rfl hop hflip fun o w hpc =>
      absurd hpc (WaybillPc.ne_write_of_idle hidle o w)
  | check o waybill hpc hop hrow htarget =>
    refine .quiet _ _ rfl rfl rfl rfl ?_
    rintro _ _ ⟨⟩
    exact ⟨hrow, htarget⟩
  | ask waybill reference userId hpc hop =>
    exact .quiet _ _ rfl rfl rfl rfl fun _ _ hpc' => absurd hpc' (by simp [goto])
  | arrive d reference caller hfrom =>
    exact .quiet _ _ rfl rfl rfl rfl fun _ _ hpc' => absurd hpc' (by simp)
  | agree d waybill caller hpc hrow hpaid hamount =>
    exact .quiet _ _ rfl rfl rfl rfl fun _ _ hpc' => absurd hpc' (by simp [goto])
  | write o waybill w hpc hfault hrow => exact .write o waybill w hpc hfault hrow
  | setPaymentRef waybill reference w hpc hrow => exact .setPaymentRef waybill reference w hpc hrow
  | confirm d waybill caller w hpc hrow hpaid hst =>
    exact .confirm d waybill caller w hpc hrow hpaid hst
  | record waybill caller hpc hfault =>
    exact .quiet _ _ rfl rfl rfl rfl fun _ _ hpc' => absurd hpc' (by simp [goto])
  | track waybill caller emitted hemitted hpc =>
    exact .quiet _ _ rfl rfl rfl rfl fun _ _ hpc' => absurd hpc' (by simp [goto])
  | notify waybill caller hpc =>
    refine .quiet _ _ rfl rfl ?_ ?_ ?_
    · cases caller <;> rfl
    · cases caller <;> rfl
    · cases caller <;> exact fun _ _ hpc' => absurd hpc' (by simp [returns, finish, goto])

/-- A call remains the call that it is. -/
theorem step_op (h : step waybillId i l r x = some (l', r')) : l'.op = l.op := by
  cases step_effect h with
  | quiet _ _ _ _ hop => exact hop
  | _ => rfl

end WaybillProc

end TransHub
