import TransHub.Payments.Outline

/-!
# Who is told about a booking

`verifyPayment` answers a signed-in user who names a reference.  It compares the user with the
owner of a booking that it finds, and otherwise with the user of the metadata that Paystack has
echoed back; a booking that `settleBookingCharge` then finds it returns without another look.

* `VerifyCall.step`, `verifying`: webhook deliveries and calls of `verifyPayment` over the
  tables, with one metadata for each reference.
* `Settling.BuysFor`: a delivery acts for the user of the metadata of its reference;
  `verifyOutline`.
* `verifyPayment_own_booking`: a booking is returned to its owner only.
-/

namespace TransHub

open Bookings (BookingDTO)

/-! ## Calls -/

/-- The metadata that Paystack has for a reference: no object of the expected shape, or what the
schema reads in it. -/
inductive EchoedMetadata where
  | malformed
  | parsed (metadata : Option ChargeMetadata)
  deriving DecidableEq

/-- What `verifyWithPaystack` makes of it. -/
def EchoedMetadata.verified : EchoedMetadata → Option ChargeMetadata
  | malformed => none
  | parsed metadata => metadata

/-- `VerifyOutcome`. -/
inductive VerifyOutcome where
  | success (booking : BookingDTO)
  | failed (reason : String)
  | pending
  deriving DecidableEq

/-- Where a call of `verifyPayment` stands.  At `settle` Paystack has reported success and the
caller has passed the check of the metadata. -/
inductive VerifyPc where
  | existing
  | lookup
  | settle (l : Settling)
  | done (result : Except Thrown VerifyOutcome)
  deriving DecidableEq

/-- A delivery of the webhook, acknowledged at once unless it is the charge of a booking, or a
call of `verifyPayment`. -/
inductive VerifyCall where
  | acknowledged
  | webhook (l : Settling)
  | verifyPayment (reference : Ref) (userId : UserId) (pc : VerifyPc)
  deriving DecidableEq

/-- What arrives.  A webhook comes with the metadata of its reference. -/
inductive VerifyRequest where
  | webhook (event : String) (reference : Ref) (status : String) (amount : ℚ)
  | verifyPayment (reference : Ref) (userId : UserId)

/-- What the outside world decides in a step, and what Paystack answers when it is asked. -/
structure VerifyInput extends SettleInput where
  lookedUp : Except ProviderFailure (Option VerifiedTransaction)

/-- The charge as `settleBookingCharge` gets it from `verifyPayment`. -/
def verifiedCharge (userId : UserId) (reference : Ref) (tx : VerifiedTransaction)
    (metadata : Option ChargeMetadata) : Settling where
  charge := ⟨some userId, reference, tx.amountKobo, metadata⟩
  pc := .settle

/-- `verifyPayment` once Paystack has answered. -/
def afterLookup (userId : UserId) (reference : Ref) (metadata : Option ChargeMetadata)
    (answer : Except ProviderFailure (Option VerifiedTransaction)) : VerifyPc :=
  match answer with
  | .error e => .done (.error e.error)
  | .ok none => .done (.ok (.failed
      "We couldn't find this payment. If you were charged, contact support."))
  | .ok (some tx) => match tx.state with
      | .pending => .done (.ok .pending)
      | .failed => .done (.ok (.failed "Your payment was not completed. You can try again."))
      | .success =>
          if (metadata.bind ChargeMetadata.userId).any (fun u => u != userId) then
            .done (.error (.app .forbiddenError))
          else .settle (verifiedCharge userId reference tx metadata)

/-- `verifyPayment` once `settleBookingCharge` has ended. -/
def afterSettle : SettleOutcome → Except Thrown VerifyOutcome
  | .returned booking => .ok (.success booking)
  | .failed _ .seatsGone => .ok (.failed
      "Your seats were taken before payment confirmed. Our team will arrange a refund.")
  | .failed reason _ => .ok (.failed reason)
  | .thrown e => .error e

namespace VerifyCall

/-- A request that has just arrived. -/
def start (echoed : Ref → EchoedMetadata) : VerifyRequest → VerifyCall
  | .webhook event reference status amount => match echoed reference with
      | .malformed => .acknowledged
      | .parsed metadata => match routeWebhook ⟨event, reference, status, amount, metadata⟩ with
          | .booking reference amountKobo metadata =>
              .webhook { charge := ⟨none, reference, amountKobo, metadata⟩, pc := .settle }
          | _ => .acknowledged
  | .verifyPayment reference userId => .verifyPayment reference userId .existing

/-- The next step of a call of `verifyPayment`. -/
def stepVerify (echoed : Ref → EchoedMetadata) (i : ℕ) (reference : Ref) (userId : UserId)
    (pc : VerifyPc) (r : PayDB) (x : VerifyInput) : Option (VerifyPc × PayDB) :=
  match pc with
  | .done _ => none
  | .existing =>
      if x.fault then some (.done (.error Settling.dbFailed), r)
      else match Bookings.findByPaymentRef reference r.db with
        | some existing =>
            if existing.userId ≠ userId then some (.done (.error (.app .forbiddenError)), r)
            else some (.done (.ok (.success existing)), r)
        | none => some (.lookup, r)
  | .lookup => some (afterLookup userId reference (echoed reference).verified x.lookedUp, r)
  | .settle l => match l.pc with
      | .done o => some (.done (afterSettle o), r)
      | _ => (l.step i r x.toSettleInput).map fun p => (.settle p.1, p.2)

/-- The next step of the `i`-th call. -/
def step (echoed : Ref → EchoedMetadata) (i : ℕ) (l : VerifyCall) (r : PayDB) (x : VerifyInput) :
    Option (VerifyCall × PayDB) :=
  match l with
  | .acknowledged => none
  | .webhook l => (l.step i r x.toSettleInput).map fun p => (.webhook p.1, p.2)
  | .verifyPayment reference userId pc =>
      (stepVerify echoed i reference userId pc r x).map fun p =>
        (.verifyPayment reference userId p.1, p.2)

end VerifyCall

/-- Webhooks and calls of `verifyPayment` over the tables; the environment runs the operations
of the ledger. -/
def verifyMachine (echoed : Ref → EchoedMetadata) :
    Machine PayDB VerifyCall VerifyRequest VerifyInput Attempt where
  start := VerifyCall.start echoed
  step := VerifyCall.step echoed
  env := PayDB.env

/-- Runs of these from empty tables. -/
def verifying (echoed : Ref → EchoedMetadata) :
    System (Config PayDB VerifyCall) (Act VerifyRequest VerifyInput Attempt) :=
  (verifyMachine echoed).system fun r => ∃ users, r = ⟨⟨users, [], [], [], [], []⟩, [], [], []⟩

/-! ## Whom a delivery acts for -/

/-- The user of a metadata. -/
def buyerOf (metadata : Option ChargeMetadata) : Option UserId :=
  metadata.bind ChargeMetadata.userId

/-- The call of `confirm` whose reference a delivery goes on to use. -/
def SettlePc.confirming : SettlePc → Option ConfirmCall
  | confirm q | confirmPrice q | select q _ | locking q _ _ _ | book q _ _ | recheck q _ => some q
  | _ => none

/-- The user that a delivery books for, or whose booking it returns. -/
def SettlePc.buyer : SettlePc → Option UserId
  | price _ _ userId => some userId
  | confirm q | confirmPrice q | select q _ | locking q _ _ _ | book q _ _ => some q.userId
  | notify _ _ booking => some booking.userId
  | done (.returned booking) => some booking.userId
  | _ => none

/-- Every booking is of the user whom the metadata of its reference names. -/
def Owned (owner : Ref → Option UserId) (db : DB) : Prop :=
  ∀ b ∈ db.bookings, ∀ reference, b.paymentRef = some reference → owner reference = some b.userId

/-- A delivery has the metadata of its reference and acts for the user it names. -/
structure Settling.BuysFor (owner : Ref → Option UserId) (l : Settling) : Prop where
  metadata : buyerOf l.charge.metadata = owner l.charge.reference
  reference : ∀ q, l.pc.confirming = some q → q.input.paymentRef = l.charge.reference
  buyer : ∀ userId, l.pc.buyer = some userId → owner l.charge.reference = some userId

section Deliveries

variable {owner : Ref → Option UserId} {i : ℕ} {l l' : Settling} {r r' : PayDB} {x : SettleInput}

/-- A booking found by its reference is of the user whom the metadata names. -/
theorem Owned.of_find (h : Owned owner r.db) {reference : Ref} {booking : BookingDTO}
    (hfind : Bookings.findByPaymentRef reference r.db = some booking) :
    owner reference = some booking.userId := by
  obtain ⟨b, hb, rfl⟩ := Option.map_eq_some_iff.mp hfind
  exact h b (List.mem_of_find?_eq_some hb) reference (by simpa using List.find?_some hb)

namespace Settling

/-- Ends that return no booking. -/
theorem BuysFor.silent (hl : l.BuysFor owner) (hcharge : l'.charge = l.charge)
    (hconfirm : ∀ q, l'.pc.confirming = some q → q.input.paymentRef = l.charge.reference)
    (hbuyer : l'.pc.buyer = none) : l'.BuysFor owner where
  metadata := by rw [hcharge]; exact hl.metadata
  reference q hq := by rw [hcharge]; exact hconfirm q hq
  buyer userId hu := absurd (hbuyer.symm.trans hu) (by simp)

theorem BuysFor.confirmThrows (hl : l.BuysFor owner) (q : ConfirmCall) (e : Thrown) :
    (l.confirmThrows q e).BuysFor owner := by
  refine hl.silent (confirmThrows_charge l q e) ?_ ?_
  · intro q' hq'
    unfold Settling.confirmThrows at hq'
    split at hq' <;> cases hq'
  · unfold Settling.confirmThrows
    split <;> rfl

theorem BuysFor.txThrows (hl : l.BuysFor owner) (q : ConfirmCall) (e : Thrown)
    (hq : q.input.paymentRef = l.charge.reference) : (l.txThrows q e).BuysFor owner := by
  unfold Settling.txThrows
  dsimp only
  have hrolled : ({ l with rolledBack := some e } : Settling).BuysFor owner :=
    ⟨hl.metadata, hl.reference, hl.buyer⟩
  split
  · refine hrolled.silent rfl ?_ rfl
    intro q' hq'
    cases hq'
    exact hq
  · exact hrolled.confirmThrows q e

theorem BuysFor.returns (hl : l.BuysFor owner) {booking : BookingDTO}
    (h : owner l.charge.reference = some booking.userId) :
    (l.finish (.returned booking)).BuysFor owner where
  metadata := hl.metadata
  reference q hq := by cases hq
  buyer userId hu := by
    cases hu
    exact h

/-- The delivery goes on with its call of `confirm`. -/
theorem BuysFor.goes (hl : l.BuysFor owner) {q : ConfirmCall} {pc : SettlePc}
    (hq : q.input.paymentRef = l.charge.reference)
    (hbuyer : owner l.charge.reference = some q.userId)
    (hconfirming : pc.confirming = some q) (hpc : pc.buyer = some q.userId) :
    (l.goto pc).BuysFor owner where
  metadata := hl.metadata
  reference q' hq' := by
    obtain rfl := Option.some.inj (hconfirming.symm.trans hq')
    exact hq
  buyer userId hu := by
    obtain rfl := Option.some.inj (hpc.symm.trans hu)
    exact hbuyer

/-- So it does inside `confirm`. -/
theorem BuysFor.proceeds (hl : l.BuysFor owner) {q : ConfirmCall} {pc : SettlePc}
    (hq : l.pc.confirming = some q) (hbuyer : l.pc.buyer = some q.userId)
    (hconfirming : pc.confirming = some q) (hpc : pc.buyer = some q.userId) :
    (l.goto pc).BuysFor owner :=
  hl.goes (hl.reference q hq) (hl.buyer _ hbuyer) hconfirming hpc

theorem BuysFor.checkMeta (hl : l.BuysFor owner) : l.checkMeta.BuysFor owner := by
  unfold Settling.checkMeta
  split
  · next tripId y seatIds userId _ _ hu =>
    refine ⟨hl.metadata, by rintro q ⟨⟩, ?_⟩
    rintro _ ⟨⟩
    exact hl.metadata.symm.trans hu
  · exact hl.silent rfl (by rintro q ⟨⟩) rfl

theorem BuysFor.checkAmount (hl : l.BuysFor owner) {tripId : TripId} {seatIds : List SeatId}
    {userId : UserId} (hbuyer : owner l.charge.reference = some userId)
    (passengers : Option (List PassengerInfoInput)) (price : Option ℤ) :
    (l.checkAmount tripId seatIds userId passengers price).BuysFor owner := by
  unfold Settling.checkAmount
  split
  · exact hl.silent rfl (by rintro q ⟨⟩) rfl
  · dsimp only
    split
    · exact hl.silent rfl (by rintro q ⟨⟩) rfl
    · exact hl.goes rfl hbuyer rfl rfl

theorem BuysFor.checkCaller (hl : l.BuysFor owner) (caller : UserId) :
    (l.checkCaller caller).BuysFor owner := by
  unfold Settling.checkCaller
  split <;> exact hl.silent rfl (by rintro q ⟨⟩) rfl

/-- **A step keeps what a delivery acts for, and the owners of the bookings.** -/
theorem BuysFor.step (hl : l.BuysFor owner) (hr : Owned owner r.db)
    (hs : Settling.step i l r x = some (l', r')) : l'.BuysFor owner ∧ Owned owner r'.db := by
  cases step_move hs with
  | fault => exact ⟨hl.silent rfl (by rintro q ⟨⟩) rfl, hr⟩
  | forbidden => exact ⟨hl.silent rfl (by rintro q ⟨⟩) rfl, hr⟩
  | settled booking hpc hfind => exact ⟨hl.returns (hr.of_find hfind), hr⟩
  | checkCaller caller hpc => exact ⟨hl.checkCaller caller, hr⟩
  | checkMeta => exact ⟨hl.checkMeta, hr⟩
  | checkAmount tripId seatIds userId hpc =>
    exact ⟨hl.checkAmount (hl.buyer userId (by rw [hpc]; rfl)) _ _, hr⟩
  | throws q e => exact ⟨hl.confirmThrows q e, hr⟩
  | present q booking hpc hfind =>
    have href := hl.reference q (by rw [hpc]; rfl)
    exact ⟨hl.returns (hr.of_find (href ▸ hfind)), hr⟩
  | absent q hpc =>
    exact ⟨hl.proceeds (by rw [hpc]; rfl) (by rw [hpc]; rfl) rfl rfl, hr⟩
  | priced q price hpc =>
    exact ⟨hl.proceeds (by rw [hpc]; rfl) (by rw [hpc]; rfl) rfl rfl, hr⟩
  | selectFault q totalAmount hpc =>
    exact ⟨hl.txThrows q _ (hl.reference q (by rw [hpc]; rfl)), hr⟩
  | select q totalAmount hpc =>
    exact ⟨hl.proceeds (by rw [hpc]; rfl) (by rw [hpc]; rfl) rfl rfl, hr⟩
  | lockFault q totalAmount todo got hpc =>
    exact ⟨hl.txThrows q _ (hl.reference q (by rw [hpc]; rfl)), hr⟩
  | lock q totalAmount y todo got hpc =>
    exact ⟨hl.proceeds (by rw [hpc]; rfl) (by rw [hpc]; rfl) rfl rfl, hr⟩
  | skip q totalAmount y todo got hpc =>
    exact ⟨hl.proceeds (by rw [hpc]; rfl) (by rw [hpc]; rfl) rfl rfl, hr⟩
  | locked q totalAmount got hpc =>
    exact ⟨hl.proceeds (by rw [hpc]; rfl) (by rw [hpc]; rfl) rfl rfl, hr⟩
  | bookFault q totalAmount got hpc =>
    exact ⟨hl.txThrows q _ (hl.reference q (by rw [hpc]; rfl)), hr⟩
  | short q totalAmount got hpc =>
    exact ⟨hl.txThrows q _ (hl.reference q (by rw [hpc]; rfl)), hr⟩
  | refused q totalAmount got e hpc =>
    exact ⟨hl.txThrows q _ (hl.reference q (by rw [hpc]; rfl)), hr⟩
  | commit q totalAmount got booking db hpc hfault hlen hfresh hok =>
    have href := hl.reference q (by rw [hpc]; rfl)
    have hbuyer := hl.buyer q.userId (by rw [hpc]; rfl)
    obtain ⟨-, hinsert, -, -, -, -, -, rfl⟩ := Bookings.createBookingRecord_ok hok
    refine ⟨⟨hl.metadata, by rintro q' ⟨⟩, ?_⟩, ?_⟩
    · rintro _ ⟨⟩
      exact hbuyer
    · intro b hb reference hreference
      have hrows : db.bookings = r.db.bookings ++ [_] := (Table.insert_eq_some.mp hinsert).2
      have hb : b ∈ db.bookings := hb
      rw [hrows] at hb
      rcases List.mem_append.mp hb with hb | hb
      · exact hr b hb reference hreference
      · obtain rfl := List.mem_singleton.mp hb
        cases hreference
        rw [href]
        exact hbuyer
  | recheckFault q e => exact ⟨hl.confirmThrows q _, hr⟩
  | raced q e booking hpc hfind =>
    have href := hl.reference q (by rw [hpc]; rfl)
    exact ⟨hl.returns (hr.of_find (href ▸ hfind)), hr⟩
  | conflict q e => exact ⟨hl.confirmThrows q e, hr⟩
  | notify q totalAmount booking hpc =>
    exact ⟨hl.returns (hl.buyer _ (by rw [hpc]; rfl)), hr⟩

end Settling

/-- The operations of the ledger leave the bookings alone. -/
theorem Owned.env {a : Attempt} (h : Owned owner r.db) (he : r.env a = some r') :
    Owned owner r'.db := by
  unfold PayDB.env at he
  dsimp only at he
  split at he
  · next hcond =>
    cases he
    rw [Bool.and_eq_true, Bool.not_eq_true'] at hcond
    intro b hb
    exact h b (commit_bookings r.db hcond.1 ▸ hb)
  · cases he

end Deliveries

/-! ## Whom a call answers -/

/-- The user of the metadata that Paystack has for a reference. -/
def echoedBuyer (echoed : Ref → EchoedMetadata) (reference : Ref) : Option UserId :=
  buyerOf (echoed reference).verified

/-- A call of `verifyPayment` settles for its caller, when for anyone, and returns a booking of
its caller. -/
def VerifyPc.AnswersFor (owner : Ref → Option UserId) (reference : Ref) (userId : UserId) :
    VerifyPc → Prop
  | .settle l => l.BuysFor owner ∧ l.charge.reference = reference ∧
      ∀ buyer, owner reference = some buyer → buyer = userId
  | .done (.ok (.success booking)) => booking.userId = userId
  | _ => True

/-- The assertion on a call. -/
def VerifyCall.AnswersFor (owner : Ref → Option UserId) : VerifyCall → Prop
  | .acknowledged => True
  | .webhook l => l.BuysFor owner
  | .verifyPayment reference userId pc => pc.AnswersFor owner reference userId

section Calls

variable {echoed : Ref → EchoedMetadata} {i : ℕ} {reference : Ref} {userId : UserId}
  {r r' : PayDB} {x : VerifyInput}

/-- The booking path of a webhook keeps the reference and the metadata. -/
theorem routeWebhook_booking {body : WebhookBody} {amountKobo : ℚ}
    {metadata : Option ChargeMetadata}
    (h : routeWebhook body = .booking reference amountKobo metadata) :
    reference = body.reference ∧ metadata = body.metadata := by
  unfold routeWebhook at h
  split at h
  · cases h
  · split at h
    · cases h
    · split at h
      · split at h <;> cases h
      · split at h
        · split at h <;> cases h
        · cases h
          exact ⟨rfl, rfl⟩

theorem answersFor_start (o : VerifyRequest) :
    (VerifyCall.start echoed o).AnswersFor (echoedBuyer echoed) := by
  cases o with
  | webhook event reference status amount =>
    dsimp only [VerifyCall.start]
    split
    · trivial
    · next metadata hechoed =>
      split
      · next hroute =>
        obtain ⟨href, hmetadata⟩ := routeWebhook_booking hroute
        refine ⟨?_, by rintro q ⟨⟩, by rintro _ ⟨⟩⟩
        show buyerOf _ = echoedBuyer echoed _
        rw [href, hmetadata, echoedBuyer, hechoed]
        rfl
      · trivial
  | verifyPayment reference userId => trivial

/-- The check of the metadata lets a call settle for its caller only. -/
theorem answersFor_afterLookup (answer : Except ProviderFailure (Option VerifiedTransaction)) :
    (afterLookup userId reference (echoed reference).verified answer).AnswersFor
      (echoedBuyer echoed) reference userId := by
  unfold afterLookup
  split
  · trivial
  · trivial
  · split
    · trivial
    · trivial
    · split
      · trivial
      · next hforbidden =>
        refine ⟨⟨rfl, by rintro q ⟨⟩, by rintro _ ⟨⟩⟩, rfl, ?_⟩
        intro buyer hbuyer
        have hbuyer : (echoed reference).verified.bind ChargeMetadata.userId = some buyer := hbuyer
        rw [hbuyer] at hforbidden
        simpa using hforbidden

theorem answersFor_afterSettle {l : Settling} {o : SettleOutcome}
    (hl : l.BuysFor (echoedBuyer echoed)) (href : l.charge.reference = reference)
    (hown : ∀ buyer, echoedBuyer echoed reference = some buyer → buyer = userId)
    (hpc : l.pc = .done o) :
    (VerifyPc.done (afterSettle o)).AnswersFor (echoedBuyer echoed) reference userId := by
  cases o with
  | returned booking =>
    refine hown _ ?_
    rw [← href]
    exact hl.buyer booking.userId (by rw [hpc]; rfl)
  | failed reason code => cases code <;> trivial
  | thrown e => trivial

/-- **A step of `verifyPayment` keeps its assertion, and the owners of the bookings.** -/
theorem stepVerify_answersFor {pc pc' : VerifyPc}
    (hpc : pc.AnswersFor (echoedBuyer echoed) reference userId)
    (hr : Owned (echoedBuyer echoed) r.db)
    (hs : VerifyCall.stepVerify echoed i reference userId pc r x = some (pc', r')) :
    pc'.AnswersFor (echoedBuyer echoed) reference userId ∧ Owned (echoedBuyer echoed) r'.db := by
  cases pc with
  | done result => cases hs
  | existing =>
    dsimp only [VerifyCall.stepVerify] at hs
    split at hs
    · cases hs
      exact ⟨trivial, hr⟩
    · split at hs
      · split at hs <;> cases hs
        · exact ⟨trivial, hr⟩
        · next howner => exact ⟨not_not.mp howner, hr⟩
      · cases hs
        exact ⟨trivial, hr⟩
  | lookup =>
    cases hs
    exact ⟨answersFor_afterLookup _, hr⟩
  | settle l =>
    obtain ⟨hl, href, hown⟩ := hpc
    dsimp only [VerifyCall.stepVerify] at hs
    split at hs
    · next hdone =>
      cases hs
      exact ⟨answersFor_afterSettle hl href hown hdone, hr⟩
    · obtain ⟨p, hp, hs⟩ := Option.map_eq_some_iff.mp hs
      cases hs
      obtain ⟨hl', hr'⟩ := hl.step hr hp
      exact ⟨⟨hl', (Settling.step_effect hp).1 ▸ href, hown⟩, hr'⟩

theorem step_answersFor {l l' : VerifyCall} (hl : l.AnswersFor (echoedBuyer echoed))
    (hr : Owned (echoedBuyer echoed) r.db)
    (hs : VerifyCall.step echoed i l r x = some (l', r')) :
    l'.AnswersFor (echoedBuyer echoed) ∧ Owned (echoedBuyer echoed) r'.db := by
  cases l with
  | acknowledged => cases hs
  | webhook l =>
    obtain ⟨p, hp, hs⟩ := Option.map_eq_some_iff.mp hs
    cases hs
    exact Settling.BuysFor.step hl hr hp
  | verifyPayment reference userId pc =>
    obtain ⟨p, hp, hs⟩ := Option.map_eq_some_iff.mp hs
    cases hs
    exact stepVerify_answersFor hl hr hp

end Calls

/-- **The proof outline of `verifyPayment`.** -/
theorem verifyOutline (echoed : Ref → EchoedMetadata) :
    (verifyMachine echoed).Outline (fun _ => True)
      (fun r => ∃ users, r = ⟨⟨users, [], [], [], [], []⟩, [], [], []⟩)
      (fun _ r => Owned (echoedBuyer echoed) r.db)
      (fun _ l _ => l.AnswersFor (echoedBuyer echoed)) where
  init := by
    rintro r ⟨users, rfl⟩ b hb
    exact absurd hb (by simp)
  spawn _ _ _ _ h := h
  start _ o _ _ _ := answersFor_start o
  shared _ _ _ _ _ _ _ _ _ h hl hs := (step_answersFor hl h hs).2
  self _ _ _ _ _ _ _ _ _ h hl hs := (step_answersFor hl h hs).1
  other _ _ _ _ _ _ _ _ _ _ _ _ _ _ hm _ := hm
  env_shared _ _ _ _ _ h he := h.env he
  env_other _ _ _ _ _ _ _ _ hm _ := hm

/-- **A booking is disclosed to its owner only.**  Whatever metadata Paystack has for the
references, in every run. -/
theorem verifyPayment_own_booking {echoed : Ref → EchoedMetadata} {c : Config PayDB VerifyCall}
    (h : (verifying echoed).Reachable c) {i : ℕ} {reference : Ref} {userId : UserId}
    {booking : BookingDTO}
    (hi : c.procs[i]? = some (.verifyPayment reference userId (.done (.ok (.success booking))))) :
    booking.userId = userId :=
  ((verifyOutline echoed).invariant h.by_any).2 i _ hi

/-! ## A webhook in between -/

/-- User `7` has paid for a seat of trip `1`. -/
def seatOfSeven (reference : Ref) : EchoedMetadata :=
  if reference = 99 then .parsed (some ⟨none, none, none, some 1, some [10], some 7⟩)
  else .malformed

/-- A step in which nothing fails and Paystack reports the price of one seat as paid. -/
def verifiedPlain : VerifyInput where
  fault := false
  passengers := none
  uuids := ⟨20, fun i => 30 + i, fun i => 40 + i⟩
  lookedUp := .ok (some ⟨.success, 500000⟩)

/-- The user asks, and before the call settles the webhook books the seat. -/
def webhookInBetween : List (Act VerifyRequest VerifyInput Attempt) :=
  [.env ⟨.createTrip 1 (fun i => 10 + i) twoSeats 3, false⟩,
    .spawn (.webhook "charge.success" 99 "success" 500000), .spawn (.verifyPayment 99 7),
    .run 1 verifiedPlain, .run 1 verifiedPlain] ++
  List.replicate 9 (.run 0 verifiedPlain) ++ List.replicate 2 (.run 1 verifiedPlain)

theorem webhookInBetween_runs :
    ((verifying seatOfSeven).run ⟨⟨registered, [], [], []⟩, []⟩ webhookInBetween).isSome =
      true := by
  decide +kernel

/-- Where that run ends. -/
def bookedInBetween : Config PayDB VerifyCall :=
  ((verifying seatOfSeven).run ⟨⟨registered, [], [], []⟩, []⟩ webhookInBetween).get
    webhookInBetween_runs

theorem bookedInBetween_reachable : (verifying seatOfSeven).Reachable bookedInBetween :=
  ⟨_, ⟨⟨[7, 8], rfl⟩, rfl⟩, webhookInBetween, (Option.some_get _).symm⟩

/-- The booking that the call returns. -/
def seatOfSevenBooking : BookingDTO where
  id := 20
  userId := 7
  tripId := 1
  status := .confirmed
  totalAmount := 5000
  paymentRef := some 99
  seats := [⟨30, ⟨65, 1⟩⟩]
  passengers := []
  trip := some ⟨3, "Lagos", "Abuja", 1000000, "Bus", none⟩

theorem bookedInBetween_call : bookedInBetween.procs[1]? =
    some (.verifyPayment 99 7 (.done (.ok (.success seatOfSevenBooking)))) := by
  decide +kernel

theorem verifyPayment_own_booking_inBetween :
    bookedInBetween.procs[1]? =
        some (.verifyPayment 99 7 (.done (.ok (.success seatOfSevenBooking)))) ∧
      seatOfSevenBooking.userId = 7 :=
  ⟨bookedInBetween_call,
    verifyPayment_own_booking bookedInBetween_reachable bookedInBetween_call⟩

end TransHub
