import TransHub.Charters.Schema
import TransHub.Foundation.Machine

/-!
# Operations on one charter

The calls of `chartersService` on one charter, and the listener that `handleWebhook`
reaches through the event bus, one step for each statement on the database and for each
request to Paystack.

* `CharterOp`, `CharterProc`: a call, where it stands, and its history.
* `CharterProc.step`: its steps.  Between the read of the row and the write by its id
  others may step.
* `charterMachine`, `charters`: any number of calls over the row of one charter.
* `CharterStep`, `step_cases`: the ways a step can go, the call after it included.
* `CharterEffect`, `step_effect`: what a step can do to the row, said once.
-/

namespace TransHub

/-! ## Calls -/

/-- A call on the charter. -/
inductive CharterOp where
  | write (w : CharterWrite)
  | initiatePayment (passengerId : UserId)
  | webhook (body : WebhookBody)
  | verifyPayment (userId : UserId)
  deriving DecidableEq

/-- A successful charge, as `processWebhookPayment` is given it. -/
structure CharterCharge where
  reference : Ref
  paidAt : Time
  webhookAmountKobo : ℚ
  deriving DecidableEq

/-- How a call ends.  The listener of a webhook has no caller: what it throws is
logged. -/
inductive CharterOutcome where
  | returned (charter : Charter)
  | payment (reference : Ref)
  | acknowledged
  | verified (state : TxState) (charter : Charter)
  | thrown (e : Thrown)
  | logged (e : Thrown)
  deriving DecidableEq

/-- Where a call stands.  The steps of `processWebhookPayment` remember the row that
`verifyPayment` has read, when it is the one that called. -/
inductive CharterPc where
  | start
  | write (w : CharterWrite) (charter : Charter)
  | initializeFn (charter : Charter)
  | setPaymentRef (reference : Ref)
  | lookup (charter : Charter) (reference : Ref)
  | find (d : CharterCharge) (caller : Option Charter)
  | confirm (d : CharterCharge) (charter : Charter) (price : ℤ) (caller : Option Charter)
  | notify (charter : Charter) (price : ℤ) (caller : Option Charter)
  | reread (charter : Charter)
  | done (o : CharterOutcome)
  deriving DecidableEq

/-- A call: where it stands, the charge that has reached it, the issues it has reported,
and whether its update has confirmed the charter. -/
structure CharterProc where
  op : CharterOp
  pc : CharterPc := .start
  charge : Option CharterCharge := none
  issues : List PaymentIssue := []
  flipped : Bool := false
  deriving DecidableEq

/-! ## The shared state -/

/-- What all events of a charter carry. -/
structure CharterNotice where
  charterId : CharterId
  passengerId : UserId
  passengerName : String
  passengerEmail : String
  fromLocation : String
  toLocation : String
  departureAt : Time
  deriving DecidableEq

def Charter.notice (c : Charter) : CharterNotice where
  charterId := c.id
  passengerId := c.passengerId
  passengerName := c.passengerName
  passengerEmail := c.passengerEmail
  fromLocation := c.fromLocation
  toLocation := c.toLocation
  departureAt := c.departureAt

/-- The events `charter.quoted`, `charter.confirmed`, `charter.booking_confirmed` and
`charter.completed`. -/
inductive CharterEvent where
  | quoted (n : CharterNotice) (quotedPrice : ℚ)
  | confirmed (n : CharterNotice) (vehicleType : String) (quotedPrice : ℤ)
  | bookingConfirmed (n : CharterNotice) (data : ConfirmBookingInput)
  | completed (n : CharterNotice)
  deriving DecidableEq

def CharterEvent.isConfirmed : CharterEvent → Bool
  | confirmed _ _ _ => true
  | _ => false

/-- The event of a write, from the row it has returned. -/
def CharterWrite.events (updated : Charter) : CharterWrite → List CharterEvent
  | sendQuote data => [.quoted updated.notice data.quotedPrice]
  | adminConfirmBooking data => [.bookingConfirmed updated.notice data]
  | completeCharter => [.completed updated.notice]
  | acceptQuote _ | rejectQuote _ | cancelCharter _ _ => []

/-- The row of the charter, what has been emitted, and, as a history, the call whose
update has confirmed the charter with the reference of its charge. -/
structure CharterDB where
  row : Option Charter
  emitted : List CharterEvent
  settledBy : Option (ℕ × Ref)
  deriving DecidableEq

/-- What the outside world decides in a step. -/
structure CharterInput where
  fault : Bool
  now : Time
  started : Except StartFailure Ref
  lookedUp : Except ProviderFailure (Option VerifiedTransaction)

/-! ## The steps -/

namespace CharterProc

open Charters

def goto (l : CharterProc) (pc : CharterPc) : CharterProc := { l with pc }

def finish (l : CharterProc) (o : CharterOutcome) : CharterProc := { l with pc := .done o }

/-- `reportPaymentIssue`. -/
def reportPaymentIssue (l : CharterProc) (issue : PaymentIssue) : CharterProc :=
  { l with issues := l.issues ++ [issue] }

def dbFailed : Thrown := .db .failed

/-- `processWebhookPayment` returns to the listener or to `verifyPayment`. -/
def returns (l : CharterProc) (caller : Option Charter) : CharterProc :=
  match caller with
  | none => l.finish .acknowledged
  | some charter => l.goto (.reread charter)

/-- `processWebhookPayment` throws: the listener logs, `verifyPayment` throws on. -/
def throws (l : CharterProc) (caller : Option Charter) (e : Thrown) : CharterProc :=
  match caller with
  | none => l.finish (.logged e)
  | some _ => l.finish (.thrown e)

/-- The check of a call, and what follows when it passes. -/
def after (l : CharterProc) (check : Except Thrown Charter) (k : Charter → CharterPc) :
    CharterProc :=
  match check with
  | .error e => l.finish (.thrown e)
  | .ok charter => l.goto (k charter)

/-- The checks of `initiatePayment`. -/
def checkInitiate (passengerId : UserId) (row : Option Charter) : Except Thrown Charter := do
  let charter ← found row
  checkOwner passengerId charter
  ensure (charter.status == .awaitingPayment) (invalidStatus
    ("Payment can only be initiated after accepting the quote (current: '" ++
      charter.status.text ++ "')"))
  ensure charter.quotedPrice.isSome
    (.app (.conflictError "Charter has no quoted price" "CHARTER_NO_PRICE"))
  return charter

/-- `initializeCharterPayment`. -/
def initializeCharterPayment (charter : Charter) (started : Except StartFailure Ref) :
    Except Thrown Ref :=
  match charter.quotedPrice with
  | none => .error (.app (.conflictError
      "Charter has no quoted price — cannot initialize payment" "CHARTER_NO_PRICE"))
  | some quotedPrice =>
      if amountKobo quotedPrice ≤ 0 then
        .error (.app (.conflictError "Charter quoted price is invalid" "INVALID_PRICE"))
      else match started with
        | .error failure => .error (failure.error "charter payment")
        | .ok reference => .ok reference

/-- `verifyPayment` up to its request to Paystack. -/
def verifyStart (l : CharterProc) (userId : UserId) (row : Option Charter) : CharterProc :=
  match row with
  | none => l.finish (.thrown charterNotFound)
  | some charter =>
      if charter.passengerId ≠ userId then l.finish (.thrown noAccess)
      else if settled charter then l.finish (.verified .success charter)
      else match charter.paymentRef with
        | none => l.finish (.verified .pending charter)
        | some reference =>
            if charter.status ≠ .awaitingPayment then l.finish (.verified .pending charter)
            else l.goto (.lookup charter reference)

/-- What `verifyPayment` does with Paystack's answer. -/
def lookedUp (l : CharterProc) (charter : Charter) (reference : Ref) (now : Time) :
    Except ProviderFailure (Option VerifiedTransaction) → CharterProc
  | .error failure => l.finish (.thrown failure.error)
  | .ok none => l.finish (.verified .failed charter)
  | .ok (some tx) => match tx.state with
      | .pending => l.finish (.verified .pending charter)
      | .failed => l.finish (.verified .failed charter)
      | .success =>
          let d : CharterCharge := ⟨reference, now, tx.amountKobo⟩
          { l with charge := some d, pc := .find d (some charter) }

/-- `handleWebhook` up to the listener of `payment.charter.succeeded`. -/
def route (l : CharterProc) (charterId : CharterId) (now : Time) (body : WebhookBody) :
    CharterProc :=
  match routeWebhook body with
  | .charter id reference webhookAmountKobo =>
      if id = charterId then
        let d : CharterCharge := ⟨reference, now, webhookAmountKobo⟩
        { l with charge := some d, pc := .find d none }
      else l.finish .acknowledged
  | _ => l.finish .acknowledged

/-- The fields that both reports of `processWebhookPayment` have in common. -/
def issue (d : CharterCharge) (charter : Charter) : PaymentIssue where
  type := .charter
  stage := .webhook
  reference := some d.reference
  userId := some charter.passengerId

/-- `processWebhookPayment` from its `findById` to its `confirmPayment`. -/
def checkCharge (l : CharterProc) (d : CharterCharge) (caller : Option Charter)
    (row : Option Charter) : CharterProc :=
  match row with
  | none => l.returns caller
  | some charter =>
      if settled charter then l.returns caller
      else match charter.quotedPrice with
        | none =>
            (l.reportPaymentIssue { issue d charter with
              message := some "Charter payment but no quoted price to verify"
              context := {
                code := some "NO_PRICE"
                charterId := some charter.id } }).returns caller
        | some quotedPrice =>
            let expectedKobo := amountKobo quotedPrice
            if d.webhookAmountKobo ≠ expectedKobo then
              (l.reportPaymentIssue { issue d charter with
                message := some "Charter payment amount mismatch — possible fraud"
                context := {
                  code := some "AMOUNT"
                  expectedKobo := some expectedKobo
                  receivedKobo := some d.webhookAmountKobo
                  charterId := some charter.id } }).returns caller
            else l.goto (.confirm d charter quotedPrice caller)

/-- The next step of the `i`-th call. -/
def step (charterId : CharterId) (i : ℕ) (l : CharterProc) (r : CharterDB) (x : CharterInput) :
    Option (CharterProc × CharterDB) :=
  match l.pc with
  | .done _ => none
  | .start => match l.op with
      | .webhook body => some (l.route charterId x.now body, r)
      | .write w =>
          if x.fault then some (l.finish (.thrown dbFailed), r)
          else some (l.after (w.check r.row) (.write w), r)
      | .initiatePayment passengerId =>
          if x.fault then some (l.finish (.thrown dbFailed), r)
          else some (l.after (checkInitiate passengerId r.row) .initializeFn, r)
      | .verifyPayment userId =>
          if x.fault then some (l.finish (.thrown dbFailed), r)
          else some (l.verifyStart userId r.row, r)
  | .write w _ =>
      if x.fault then some (l.finish (.thrown dbFailed), r)
      else match r.row with
        | none => some (l.finish (.thrown dbFailed), r)
        | some c =>
            let updated := w.write x.now c
            some (l.finish (.returned updated),
              { r with row := some updated, emitted := r.emitted ++ w.events updated })
  | .initializeFn charter => match initializeCharterPayment charter x.started with
      | .error e => some (l.finish (.thrown e), r)
      | .ok reference => some (l.goto (.setPaymentRef reference), r)
  | .setPaymentRef reference =>
      if x.fault then some (l.finish (.thrown dbFailed), r)
      else match r.row with
        | none => some (l.finish (.thrown dbFailed), r)
        | some c => some (l.finish (.payment reference),
            { r with row := some (setPaymentRef reference c) })
  | .lookup charter reference => some (l.lookedUp charter reference x.now x.lookedUp, r)
  | .find d caller =>
      if x.fault then some (l.throws caller dbFailed, r)
      else some (l.checkCharge d caller r.row, r)
  | .confirm d charter price caller =>
      if x.fault then some (l.throws caller dbFailed, r)
      else match confirmPayment d.paidAt price r.row with
        | none => some (l.returns caller, r)
        | some c => some ({ l with flipped := true, pc := .notify charter price caller },
            { r with row := some c, settledBy := some (i, d.reference) })
  | .notify charter price caller => some (l.returns caller,
      { r with emitted := r.emitted ++ [.confirmed charter.notice charter.vehicleType price] })
  | .reread charter =>
      if x.fault then some (l.finish (.thrown dbFailed), r)
      else
        let updated := r.row.getD charter
        some (l.finish (.verified (if settled updated then .success else .failed) updated), r)

end CharterProc

/-! ## The machine -/

/-- Calls on one charter; a customer may request it. -/
def charterMachine (charterId : CharterId) :
    Machine CharterDB CharterProc CharterOp CharterInput CharterRequest where
  start op := { op }
  step := CharterProc.step charterId
  env r data := match r.row with
    | none => some { r with row := some (Charters.create charterId data) }
    | some _ => none

/-- Runs of calls on a charter that nobody has requested yet. -/
def charters (charterId : CharterId) :
    System (Config CharterDB CharterProc) (Act CharterOp CharterInput CharterRequest) :=
  (charterMachine charterId).system fun r => r = ⟨none, [], none⟩

/-! ## What a step does -/

/-- The ways a step of call `i` in the local state `l` can go. -/
inductive CharterStep (charterId : CharterId) (i : ℕ) (l : CharterProc) (r : CharterDB)
    (x : CharterInput) : CharterProc → CharterDB → Prop where
  | failed (h : x.fault = true ∨ r.row = none) :
      CharterStep charterId i l r x (l.finish (.thrown CharterProc.dbFailed)) r
  | route (body : WebhookBody) (hpc : l.pc = .start) (hop : l.op = .webhook body) :
      CharterStep charterId i l r x (l.route charterId x.now body) r
  | check (w : CharterWrite) (hpc : l.pc = .start) (hop : l.op = .write w) :
      CharterStep charterId i l r x (l.after (w.check r.row) (.write w)) r
  | initiate (passengerId : UserId) (hpc : l.pc = .start)
      (hop : l.op = .initiatePayment passengerId) :
      CharterStep charterId i l r x
        (l.after (CharterProc.checkInitiate passengerId r.row) .initializeFn) r
  | verify (userId : UserId) (hpc : l.pc = .start) (hop : l.op = .verifyPayment userId) :
      CharterStep charterId i l r x (l.verifyStart userId r.row) r
  | write (w : CharterWrite) (charter c : Charter) (hpc : l.pc = .write w charter)
      (hfault : x.fault = false) (hrow : r.row = some c) :
      CharterStep charterId i l r x (l.finish (.returned (w.write x.now c)))
        { r with
          row := some (w.write x.now c)
          emitted := r.emitted ++ w.events (w.write x.now c) }
  | refused (charter : Charter) (e : Thrown) (hpc : l.pc = .initializeFn charter)
      (h : CharterProc.initializeCharterPayment charter x.started = .error e) :
      CharterStep charterId i l r x (l.finish (.thrown e)) r
  | started (charter : Charter) (reference : Ref) (hpc : l.pc = .initializeFn charter)
      (h : CharterProc.initializeCharterPayment charter x.started = .ok reference) :
      CharterStep charterId i l r x (l.goto (.setPaymentRef reference)) r
  | setPaymentRef (reference : Ref) (c : Charter) (hpc : l.pc = .setPaymentRef reference)
      (hfault : x.fault = false) (hrow : r.row = some c) :
      CharterStep charterId i l r x (l.finish (.payment reference))
        { r with row := some (Charters.setPaymentRef reference c) }
  | lookup (charter : Charter) (reference : Ref) (hpc : l.pc = .lookup charter reference) :
      CharterStep charterId i l r x (l.lookedUp charter reference x.now x.lookedUp) r
  | throws (caller : Option Charter) (hfault : x.fault = true) :
      CharterStep charterId i l r x (l.throws caller CharterProc.dbFailed) r
  | find (d : CharterCharge) (caller : Option Charter) (hpc : l.pc = .find d caller)
      (hfault : x.fault = false) : CharterStep charterId i l r x (l.checkCharge d caller r.row) r
  | late (d : CharterCharge) (charter : Charter) (price : ℤ) (caller : Option Charter)
      (hpc : l.pc = .confirm d charter price caller) (hfault : x.fault = false)
      (hnone : Charters.confirmPayment d.paidAt price r.row = none) :
      CharterStep charterId i l r x (l.returns caller) r
  | confirm (d : CharterCharge) (charter : Charter) (price : ℤ) (caller : Option Charter)
      (c : Charter) (hpc : l.pc = .confirm d charter price caller) (hfault : x.fault = false)
      (hconf : Charters.confirmPayment d.paidAt price r.row = some c) :
      CharterStep charterId i l r x
        { l with flipped := true, pc := .notify charter price caller }
        { r with row := some c, settledBy := some (i, d.reference) }
  | notify (charter : Charter) (price : ℤ) (caller : Option Charter)
      (hpc : l.pc = .notify charter price caller) :
      CharterStep charterId i l r x (l.returns caller)
        { r with
          emitted := r.emitted ++ [.confirmed charter.notice charter.vehicleType price] }
  | reread (charter : Charter) (hpc : l.pc = .reread charter) (hfault : x.fault = false) :
      CharterStep charterId i l r x (l.finish (.verified
        (if Charters.settled (r.row.getD charter) then .success else .failed)
        (r.row.getD charter))) r

/-- **The ways a step can go.** -/
theorem CharterProc.step_cases {charterId : CharterId} {i : ℕ} {l l' : CharterProc}
    {r r' : CharterDB} {x : CharterInput} (h : step charterId i l r x = some (l', r')) :
    CharterStep charterId i l r x l' r' := by
  unfold step at h
  cases hpc : l.pc with
  | done o => simp [hpc] at h
  | start =>
    simp only [hpc] at h
    cases hop : l.op with
    | webhook body =>
      simp only [hop] at h
      cases h
      exact .route body hpc hop
    | write w =>
      simp only [hop] at h
      split at h <;> cases h
      · next hfault => exact .failed (Or.inl hfault)
      · exact .check w hpc hop
    | initiatePayment passengerId =>
      simp only [hop] at h
      split at h <;> cases h
      · next hfault => exact .failed (Or.inl hfault)
      · exact .initiate passengerId hpc hop
    | verifyPayment userId =>
      simp only [hop] at h
      split at h <;> cases h
      · next hfault => exact .failed (Or.inl hfault)
      · exact .verify userId hpc hop
  | write w charter =>
    simp only [hpc] at h
    split at h
    · next hfault =>
      cases h
      exact .failed (Or.inl hfault)
    · next hfault =>
      split at h <;> cases h
      · next hrow => exact .failed (Or.inr hrow)
      · next hrow => exact .write w charter _ hpc (Bool.eq_false_iff.mpr hfault) hrow
  | initializeFn charter =>
    simp only [hpc] at h
    split at h <;> cases h
    · next hinit => exact .refused charter _ hpc hinit
    · next hinit => exact .started charter _ hpc hinit
  | setPaymentRef reference =>
    simp only [hpc] at h
    split at h
    · next hfault =>
      cases h
      exact .failed (Or.inl hfault)
    · next hfault =>
      split at h <;> cases h
      · next hrow => exact .failed (Or.inr hrow)
      · next hrow => exact .setPaymentRef reference _ hpc (Bool.eq_false_iff.mpr hfault) hrow
  | lookup charter reference =>
    simp only [hpc] at h
    cases h
    exact .lookup charter reference hpc
  | find d caller =>
    simp only [hpc] at h
    split at h <;> cases h
    · next hfault => exact .throws caller hfault
    · next hfault => exact .find d caller hpc (Bool.eq_false_iff.mpr hfault)
  | confirm d charter price caller =>
    simp only [hpc] at h
    split at h
    · next hfault =>
      cases h
      exact .throws caller hfault
    · next hfault =>
      have hfault := Bool.eq_false_iff.mpr hfault
      split at h <;> cases h
      · next hnone => exact .late d charter price caller hpc hfault hnone
      · next hconf => exact .confirm d charter price caller _ hpc hfault hconf
  | notify charter price caller =>
    simp only [hpc] at h
    cases h
    exact .notify charter price caller hpc
  | reread charter =>
    simp only [hpc] at h
    split at h <;> cases h
    · next hfault => exact .failed (Or.inl hfault)
    · next hfault => exact .reread charter hpc (Bool.eq_false_iff.mpr hfault)

/-- The places at which a call remembers nothing that others could change. -/
def CharterPc.idle : CharterPc → Bool
  | start | write _ _ | lookup _ _ | find _ _ | confirm _ _ _ _ | notify _ _ _ => false
  | initializeFn _ | setPaymentRef _ | reread _ | done _ => true

/-- The effects of a step of call `i` in the local state `l`, on both states. -/
inductive CharterEffect (charterId : CharterId) (i : ℕ) (l : CharterProc) (r : CharterDB)
    (x : CharterInput) : CharterProc → CharterDB → Prop where
  | idle (l' : CharterProc) (hop : l'.op = l.op) (hcharge : l'.charge = l.charge)
      (hflip : l'.flipped = l.flipped) (hidle : l'.pc.idle = true) :
      CharterEffect charterId i l r x l' r
  | check (w : CharterWrite) (charter : Charter) (hpc : l.pc = .start) (hop : l.op = .write w)
      (hrow : r.row = some charter) (hst : charter.status ∈ w.accepts) :
      CharterEffect charterId i l r x (l.goto (.write w charter)) r
  | ask (charter : Charter) (reference : Ref) (userId : UserId) (hpc : l.pc = .start)
      (hop : l.op = .verifyPayment userId) (hrow : r.row = some charter)
      (href : charter.paymentRef = some reference) :
      CharterEffect charterId i l r x (l.goto (.lookup charter reference)) r
  | arrive (d : CharterCharge) (caller : Option Charter)
      (hfrom : (l.pc = .start ∧ ∃ body, l.op = .webhook body ∧
          routeWebhook body = .charter charterId d.reference d.webhookAmountKobo) ∨
        ∃ charter, l.pc = .lookup charter d.reference ∧
          x.lookedUp = .ok (some ⟨.success, d.webhookAmountKobo⟩)) :
      CharterEffect charterId i l r x { l with charge := some d, pc := .find d caller } r
  | agree (d : CharterCharge) (charter : Charter) (price : ℤ) (caller : Option Charter)
      (hpc : l.pc = .find d caller) (hrow : r.row = some charter)
      (hprice : charter.quotedPrice = some price)
      (hamount : d.webhookAmountKobo = Charters.amountKobo price) :
      CharterEffect charterId i l r x (l.goto (.confirm d charter price caller)) r
  | write (w : CharterWrite) (charter c : Charter) (hpc : l.pc = .write w charter)
      (hfault : x.fault = false) (hrow : r.row = some c) :
      CharterEffect charterId i l r x (l.finish (.returned (w.write x.now c)))
        { r with
          row := some (w.write x.now c)
          emitted := r.emitted ++ w.events (w.write x.now c) }
  | setPaymentRef (reference : Ref) (c : Charter) (hpc : l.pc = .setPaymentRef reference)
      (hrow : r.row = some c) :
      CharterEffect charterId i l r x (l.finish (.payment reference))
        { r with row := some (Charters.setPaymentRef reference c) }
  | confirm (d : CharterCharge) (charter : Charter) (price : ℤ) (caller : Option Charter)
      (c : Charter) (hpc : l.pc = .confirm d charter price caller) (hrow : r.row = some c)
      (hpaid : c.paidAt = none) (hst : c.status = .awaitingPayment) :
      CharterEffect charterId i l r x
        { l with flipped := true, pc := .notify charter price caller }
        { r with
          row := some { c with
            paidAt := some d.paidAt
            paidAmount := some price
            status := .confirmed }
          settledBy := some (i, d.reference) }
  | notify (charter : Charter) (price : ℤ) (caller : Option Charter)
      (hpc : l.pc = .notify charter price caller) :
      CharterEffect charterId i l r x (l.returns caller)
        { r with
          emitted := r.emitted ++ [.confirmed charter.notice charter.vehicleType price] }

namespace CharterProc

variable {charterId : CharterId} {i : ℕ} {l l' : CharterProc} {r r' : CharterDB}
  {x : CharterInput}

/-- Going on to an idle place is no more than that. -/
theorem effect_goto {pc : CharterPc} (hpc : pc.idle = true) :
    CharterEffect charterId i l r x (l.goto pc) r :=
  .idle _ rfl rfl rfl hpc

theorem effect_finish (o : CharterOutcome) :
    CharterEffect charterId i l r x (l.finish o) r :=
  .idle _ rfl rfl rfl rfl

theorem effect_returns (caller : Option Charter) :
    CharterEffect charterId i l r x (l.returns caller) r := by
  cases caller <;> exact .idle _ rfl rfl rfl rfl

theorem effect_reported (issue : PaymentIssue) (caller : Option Charter) :
    CharterEffect charterId i l r x ((l.reportPaymentIssue issue).returns caller) r := by
  cases caller <;> exact .idle _ rfl rfl rfl rfl

theorem effect_throws (caller : Option Charter) (e : Thrown) :
    CharterEffect charterId i l r x (l.throws caller e) r := by
  cases caller with
  | none => exact effect_finish _
  | some charter => exact effect_finish _

theorem effect_verifyStart {userId : UserId} (hpc : l.pc = .start)
    (hop : l.op = .verifyPayment userId) :
    CharterEffect charterId i l r x (l.verifyStart userId r.row) r := by
  unfold verifyStart
  split
  · exact effect_finish _
  · next charter hrow =>
    split
    · exact effect_finish _
    · split
      · exact effect_finish _
      · split
        · exact effect_finish _
        · next reference href =>
          split
          · exact effect_finish _
          · exact .ask charter reference userId hpc hop hrow href

theorem effect_lookedUp {charter : Charter} {reference : Ref}
    (hpc : l.pc = .lookup charter reference) :
    CharterEffect charterId i l r x (l.lookedUp charter reference x.now x.lookedUp) r := by
  unfold lookedUp
  split
  · exact effect_finish _
  · exact effect_finish _
  · next tx hanswer =>
    split
    · exact effect_finish _
    · exact effect_finish _
    · next hstate =>
      refine .arrive _ _ (Or.inr ⟨charter, hpc, ?_⟩)
      rw [hanswer, ← hstate]

theorem effect_route {body : WebhookBody} (hpc : l.pc = .start) (hop : l.op = .webhook body) :
    CharterEffect charterId i l r x (l.route charterId x.now body) r := by
  unfold route
  split
  · next id reference webhookAmountKobo hroute =>
    split
    · next hid =>
      subst hid
      exact .arrive _ _ (Or.inl ⟨hpc, body, hop, hroute⟩)
    · exact effect_finish _
  · exact effect_finish _

theorem effect_checkCharge {d : CharterCharge} {caller : Option Charter}
    (hpc : l.pc = .find d caller) :
    CharterEffect charterId i l r x (l.checkCharge d caller r.row) r := by
  unfold checkCharge
  split
  · exact effect_returns _
  · next charter hrow =>
    split
    · exact effect_returns _
    · split
      · exact effect_reported _ _
      · next price hprice =>
        dsimp only
        split
        · exact effect_reported _ _
        · next hamount =>
          exact .agree d charter price caller hpc hrow hprice (not_not.mp hamount)

/-- **What a step does.** -/
theorem step_effect (h : step charterId i l r x = some (l', r')) :
    CharterEffect charterId i l r x l' r' := by
  cases step_cases h with
  | failed | refused | reread => exact effect_finish _
  | route body hpc hop => exact effect_route hpc hop
  | check w hpc hop =>
    unfold after
    split
    · exact effect_finish _
    · next charter hcheck =>
      obtain ⟨hrow, hst⟩ := CharterWrite.check_ok hcheck
      exact .check w charter hpc hop hrow hst
  | initiate passengerId hpc hop =>
    unfold after
    split
    · exact effect_finish _
    · exact effect_goto rfl
  | verify userId hpc hop => exact effect_verifyStart hpc hop
  | write w charter c hpc hfault hrow => exact .write w charter c hpc hfault hrow
  | started => exact effect_goto rfl
  | setPaymentRef reference c hpc hfault hrow => exact .setPaymentRef reference c hpc hrow
  | lookup charter reference hpc => exact effect_lookedUp hpc
  | throws => exact effect_throws _ _
  | find d caller hpc => exact effect_checkCharge hpc
  | late => exact effect_returns _
  | confirm d charter price caller c hpc hfault hconf =>
    obtain ⟨c, hrow, hpaid, hst, rfl⟩ := Charters.confirmPayment_eq_some.mp hconf
    exact .confirm d charter price caller c hpc hrow hpaid hst
  | notify charter price caller hpc => exact .notify charter price caller hpc

@[simp] theorem returns_op (l : CharterProc) (caller : Option Charter) :
    (l.returns caller).op = l.op := by
  cases caller <;> rfl

/-- A call remains the call that it is. -/
theorem step_op (h : step charterId i l r x = some (l', r')) : l'.op = l.op := by
  cases step_effect h with
  | idle _ hop => exact hop
  | notify => exact returns_op _ _
  | _ => rfl

end CharterProc

end TransHub
