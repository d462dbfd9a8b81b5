import TransHub.Charters.Payment

/-!
# Which payment of a charter is recorded

`initiatePayment` stores the reference of the payment it has started over the one before;
`confirmPayment` leaves it as it is, and `verifyPayment` asks Paystack about it.

* `CharterPaidFor`: what Paystack and the customer do once one payment has succeeded.
* `CharterAttributed`: the callback tells of the payment, and the row names it.
* `CharterRefKept`: no payment that is still being started takes its place.
* `charter_attributed`: with the reference of the payment stored, that is enough, for a price
  whose product with a hundred is exact.
-/

namespace TransHub

variable {charterId : CharterId} {i : ℕ} {l l' : CharterProc} {r r' : CharterDB}
  {x : CharterInput} {c c' m : Config CharterDB CharterProc} {ref : Ref} {price : ℤ}
  {a : Act CharterOp CharterInput CharterRequest}

/-! ## The customer has paid -/

/-- The reference and the amount of a charge of the charter. -/
def WebhookRoute.charterCharge (charterId : CharterId) : WebhookRoute → Option (Ref × ℚ)
  | .charter id reference amount => if id = charterId then some (reference, amount) else none
  | .ignored | .charterWithoutId | .waybillWithoutId | .waybill _ _ | .booking _ _ _ => none

/-- Payments may be started, and webhooks and callbacks arrive; a charge of the charter is
the one of `ref`, paid in full. -/
def CharterOp.PaidFor (charterId : CharterId) (ref : Ref) (price : ℤ) : CharterOp → Prop
  | .initiatePayment _ | .verifyPayment _ => True
  | .webhook body => ∀ p ∈ (routeWebhook body).charterCharge charterId, p = (ref, (price : ℚ))
  | .write _ => False

instance (charterId : CharterId) (ref : Ref) (price : ℤ) :
    DecidablePred (CharterOp.PaidFor charterId ref price)
  | .initiatePayment _ | .verifyPayment _ => isTrue trivial
  | .webhook body => inferInstanceAs
      (Decidable (∀ p ∈ (routeWebhook body).charterCharge charterId, p = (ref, (price : ℚ))))
  | .write _ => isFalse id

/-- Paystack reports `ref`, and no other payment, as paid in full. -/
def PaystackReports (ref : Ref) (price : ℤ) (reference : Ref) :
    Except ProviderFailure (Option VerifiedTransaction) → Prop
  | .error _ => True
  | .ok none => reference ≠ ref
  | .ok (some tx) => (tx.state = .success → reference = ref ∧ tx.amountKobo = price) ∧
      (reference = ref → tx.state = .success)

instance (ref : Ref) (price : ℤ) (reference : Ref) :
    DecidablePred (PaystackReports ref price reference)
  | .error _ => isTrue trivial
  | .ok none => inferInstanceAs (Decidable (reference ≠ ref))
  | .ok (some tx) => inferInstanceAs
      (Decidable ((tx.state = .success → reference = ref ∧ tx.amountKobo = price) ∧
        (reference = ref → tx.state = .success)))

/-- Paystack knows of no such payment, or reports it as failed. -/
def PaystackDenies : Except ProviderFailure (Option VerifiedTransaction) → Prop
  | .error _ => False
  | .ok none => True
  | .ok (some tx) => tx.state = .failed

instance : DecidablePred PaystackDenies
  | .error _ => isFalse id
  | .ok none => isTrue trivial
  | .ok (some tx) => inferInstanceAs (Decidable (tx.state = .failed))

/-- The reference that a callback is about to ask Paystack about. -/
def CharterPc.asks : CharterPc → Option Ref
  | lookup _ reference => some reference
  | start | write _ _ | initializeFn _ | setPaymentRef _ | find _ _ | confirm _ _ _ _
  | notify _ _ _ | reread _ | done _ => none

/-- The reference that is about to be stored. -/
def CharterPc.stores : CharterPc → Option Ref
  | setPaymentRef reference => some reference
  | start | write _ _ | initializeFn _ | lookup _ _ | find _ _ | confirm _ _ _ _
  | notify _ _ _ | reread _ | done _ => none

/-- The call is over. -/
def CharterPc.over : CharterPc → Bool
  | done _ => true
  | start | write _ _ | initializeFn _ | setPaymentRef _ | lookup _ _ | find _ _
  | confirm _ _ _ _ | notify _ _ _ | reread _ => false

/-- What may happen once `ref` has been paid. -/
def CharterPaidFor (charterId : CharterId) (ref : Ref) (price : ℤ)
    (c : Config CharterDB CharterProc) : Act CharterOp CharterInput CharterRequest → Prop
  | .spawn op => op.PaidFor charterId ref price
  | .run i x => ∀ l ∈ c.procs[i]?, ∀ q ∈ l.pc.asks, PaystackReports ref price q x.lookedUp
  | .env _ => True

instance (charterId : CharterId) (ref : Ref) (price : ℤ) (c : Config CharterDB CharterProc) :
    DecidablePred (CharterPaidFor charterId ref price c)
  | .spawn op => inferInstanceAs (Decidable (op.PaidFor charterId ref price))
  | .run i x => inferInstanceAs
      (Decidable (∀ l ∈ c.procs[i]?, ∀ q ∈ l.pc.asks, PaystackReports ref price q x.lookedUp))
  | .env _ => isTrue trivial

/-- The places where no charge has reached a call and it is not to write the charter. -/
def CharterPc.awaits : CharterPc → Bool
  | start | initializeFn _ | setPaymentRef _ | lookup _ _ => true
  | write _ _ | find _ _ | confirm _ _ _ _ | notify _ _ _ | reread _ | done _ => false

/-- The calls that are there when `ref` is paid are over, or await a charge. -/
def CharterProc.Awaits (charterId : CharterId) (ref : Ref) (price : ℤ) (l : CharterProc) : Prop :=
  (l.pc.awaits = true ∧ l.op.PaidFor charterId ref price) ∨ l.pc.over = true

instance (charterId : CharterId) (ref : Ref) (price : ℤ) :
    DecidablePred (CharterProc.Awaits charterId ref price) :=
  fun l => inferInstanceAs
    (Decidable ((l.pc.awaits = true ∧ l.op.PaidFor charterId ref price) ∨ l.pc.over = true))

/-- `ref` is paid in the configuration `m`: a call has returned it, and the charter awaits
its payment at this price. -/
structure CharterPaidAt (charterId : CharterId) (ref : Ref) (price : ℤ)
    (m : Config CharterDB CharterProc) : Prop where
  reachable : (charters charterId).Reachable m
  issued : ∃ l ∈ m.procs, l.pc = .done (.payment ref)
  payable : ∃ row, m.shared.row = some row ∧ Charters.payable row = true ∧
    row.quotedPrice = some price
  calls : ∀ l ∈ m.procs, l.Awaits charterId ref price

/-- An answer that neither reports a failed payment nor misses the charter. -/
def CharterOutcome.Fair (o : CharterOutcome) : Prop :=
  (∀ e, o = .thrown (.app e) → e.cls ≠ .notFound) ∧ ∀ charter, o ≠ .verified .failed charter

/-- **The payment is attributed.**  Whatever has been answered since then is fair, and a
paid charter names the payment that has confirmed it. -/
structure CharterAttributed (ref : Ref) (m c : Config CharterDB CharterProc) : Prop where
  answers : ∀ (i : ℕ) l o, c.procs[i]? = some l → l.pc = .done o → m.procs[i]? = some l ∨ o.Fair
  names : ∀ row, c.shared.row = some row → row.paidAt ≠ none →
    row.paymentRef = some ref ∧ ∃ i, c.shared.settledBy = some (i, ref)

/-- No payment that is still being started is stored in the place of `ref`, and no callback
that has read another reference is told that there is no such payment. -/
def CharterRefKept (ref : Ref) (c : Config CharterDB CharterProc) :
    Act CharterOp CharterInput CharterRequest → Prop
  | .run i x => ∀ l ∈ c.procs[i]?, (x.fault = false → ∀ q ∈ l.pc.stores, q = ref) ∧
      ∀ q ∈ l.pc.asks, q = ref ∨ ¬ PaystackDenies x.lookedUp
  | .spawn _ | .env _ => True

instance (ref : Ref) (c : Config CharterDB CharterProc) : DecidablePred (CharterRefKept ref c)
  | .run i x => inferInstanceAs
      (Decidable (∀ l ∈ c.procs[i]?, (x.fault = false → ∀ q ∈ l.pc.stores, q = ref) ∧
        ∀ q ∈ l.pc.asks, q = ref ∨ ¬ PaystackDenies x.lookedUp))
  | .spawn _ | .env _ => isTrue trivial

/-! ## What is kept -/

/-- The row has been confirmed. -/
def CharterDB.Settled (r : CharterDB) : Prop := ∃ row, r.row = some row ∧
  Charters.settled row = true

/-- The row names `ref` and is payable, or has been confirmed by it. -/
structure CharterDB.Names (ref : Ref) (price : ℤ) (r : CharterDB) : Prop where
  row : ∃ row, r.row = some row ∧ row.paymentRef = some ref ∧ row.quotedPrice = some price ∧
    ((Charters.payable row = true ∧ r.settledBy = none) ∨
      (Charters.settled row = true ∧ ∃ i, r.settledBy = some (i, ref)))

namespace CharterProc

/-- The assertion on a call; those that were over at `m` may have answered anything. -/
def Told (charterId : CharterId) (ref : Ref) (price : ℤ) (m : Config CharterDB CharterProc)
    (i : ℕ) (l : CharterProc) (r : CharterDB) : Prop :=
  match l.pc with
  | .start => l.op.PaidFor charterId ref price
  | .initializeFn _ | .setPaymentRef _ | .lookup _ _ => True
  | .write _ _ => False
  | .find d _ => d.reference = ref ∧ d.webhookAmountKobo = price
  | .confirm d _ _ _ => d.reference = ref
  | .notify _ _ _ | .reread _ => r.Settled
  | .done o => m.procs[i]? = some l ∨ o.Fair

theorem told_finish {o : CharterOutcome} (ho : o.Fair) :
    (l.finish o).Told charterId ref price m i r := Or.inr ho

/-- Errors of other classes are fair. -/
theorem told_thrown {e : Thrown} (he : ∀ e', e = .app e' → e'.cls ≠ .notFound) :
    (l.finish (.thrown e)).Told charterId ref price m i r := by
  refine told_finish ⟨?_, by simp⟩
  intro e' heq
  cases heq
  exact he e' rfl

theorem told_returns (hset : r.Settled) (caller : Option Charter) :
    (l.returns caller).Told charterId ref price m i r := by
  cases caller with
  | none => exact told_finish ⟨by simp, by simp⟩
  | some charter => exact hset

theorem told_throws (caller : Option Charter) :
    (l.throws caller dbFailed).Told charterId ref price m i r := by
  cases caller with
  | none => exact told_finish ⟨by simp, by simp⟩
  | some charter => exact told_thrown (by simp [dbFailed])

/-- Confirmed charters stay so, and with them what a call relies on. -/
theorem Told.mono (ht : l.Told charterId ref price m i r) (hset : r.Settled → r'.Settled) :
    l.Told charterId ref price m i r' := by
  unfold Told at ht ⊢
  split
  · next hpc => rw [hpc] at ht; exact ht
  · trivial
  · trivial
  · trivial
  · next hpc => rw [hpc] at ht; exact ht
  · next hpc => rw [hpc] at ht; exact ht
  · next hpc => rw [hpc] at ht; exact ht
  · next hpc => rw [hpc] at ht; exact hset ht
  · next hpc => rw [hpc] at ht; exact hset ht
  · next hpc => rw [hpc] at ht; exact ht

/-! ## The steps -/

theorem told_checkInitiate {passengerId : UserId} {row : Charter} :
    (l.after (checkInitiate passengerId (some row)) .initializeFn).Told charterId ref price m i
      r := by
  unfold after
  split
  · next e hcheck =>
    refine told_thrown ?_
    rintro e' rfl
    rcases bind_eq_error.mp hcheck with hfound | ⟨row', -, hcheck⟩
    · cases hfound
    rcases bind_eq_error.mp hcheck with howner | ⟨-, -, hcheck⟩
    · cases (ensure_eq_error.mp howner).2
      decide
    rcases bind_eq_error.mp hcheck with hstatus | ⟨-, -, hcheck⟩
    · cases (ensure_eq_error.mp hstatus).2
      simp [AppError.conflictError]
    rcases bind_eq_error.mp hcheck with hprice | ⟨-, -, hcheck⟩
    · cases (ensure_eq_error.mp hprice).2
      decide
    · cases hcheck
  · trivial

theorem told_initialize {charter : Charter} {started : Except StartFailure Ref} {e : Thrown}
    (h : initializeCharterPayment charter started = .error e) :
    (l.finish (.thrown e)).Told charterId ref price m i r := by
  refine told_thrown ?_
  rintro e' rfl
  unfold initializeCharterPayment at h
  split at h
  · cases h
    decide
  · split at h
    · cases h
      decide
    · split at h
      · next failure =>
        cases failure with
        | provider failure =>
          cases failure <;> cases h <;> decide
        | noUrl =>
          cases h
          simp [AppError.conflictError]
      · cases h

theorem told_verifyStart {userId : UserId} {row : Charter} :
    (l.verifyStart userId (some row)).Told charterId ref price m i r := by
  unfold verifyStart
  dsimp only
  split
  · refine told_thrown ?_
    rintro e' ⟨⟩
    decide
  · split
    · exact told_finish ⟨by simp, by simp⟩
    · split
      · exact told_finish ⟨by simp, by simp⟩
      · split
        · exact told_finish ⟨by simp, by simp⟩
        · trivial

theorem told_lookedUp {charter : Charter} {q : Ref} (hrep : PaystackReports ref price q x.lookedUp)
    (hkept : q = ref ∨ ¬ PaystackDenies x.lookedUp) :
    (l.lookedUp charter q x.now x.lookedUp).Told charterId ref price m i r := by
  unfold lookedUp
  cases hans : x.lookedUp with
  | error failure =>
    refine told_thrown ?_
    cases failure <;> rintro e' ⟨⟩ <;> decide
  | ok answer =>
    rw [hans] at hrep hkept
    cases answer with
    | none =>
      rcases hkept with hq | hne
      · exact absurd hq hrep
      · exact absurd trivial hne
    | some tx =>
      obtain ⟨hsuccess, hown⟩ := hrep
      dsimp only
      split
      · exact told_finish ⟨by simp, by simp⟩
      · next hst =>
        rcases hkept with hq | hnot
        · rw [hown hq] at hst
          cases hst
        · exact absurd hst hnot
      · next hst => exact hsuccess hst

theorem told_route {body : WebhookBody}
    (hpaid : CharterOp.PaidFor charterId ref price (.webhook body)) :
    (l.route charterId x.now body).Told charterId ref price m i r := by
  unfold route
  split
  · next id reference amount hroute =>
    split
    · next hid =>
      have hmem : (reference, amount) ∈ (routeWebhook body).charterCharge charterId := by
        rw [hroute, WebhookRoute.charterCharge, if_pos hid]
        exact rfl
      exact Prod.mk.inj (hpaid _ hmem)
    · exact told_finish ⟨by simp, by simp⟩
  · exact told_finish ⟨by simp, by simp⟩

theorem told_checkCharge {d : CharterCharge} {caller : Option Charter} (hN : r.Names ref price)
    (hexact : Charters.amountKobo price = price) (href : d.reference = ref)
    (hamount : d.webhookAmountKobo = price) :
    (l.checkCharge d caller r.row).Told charterId ref price m i r := by
  obtain ⟨row, hrow, -, hprice, -⟩ := hN.row
  unfold checkCharge
  rw [hrow]
  dsimp only
  split
  · next hset => exact told_returns ⟨row, hrow, hset⟩ caller
  · rw [hprice]
    dsimp only
    rw [if_neg (not_not.mpr (hamount.trans hexact.symm))]
    exact href

end CharterProc

/-- **A step keeps the row's reference, and tells no callback of a failure.** -/
theorem CharterProc.Told.step (hN : r.Names ref price)
    (hexact : Charters.amountKobo price = price)
    (ht : l.Told charterId ref price m i r)
    (hrep : ∀ q ∈ l.pc.asks, PaystackReports ref price q x.lookedUp)
    (hkept : (x.fault = false → ∀ q ∈ l.pc.stores, q = ref) ∧
      ∀ q ∈ l.pc.asks, q = ref ∨ ¬ PaystackDenies x.lookedUp)
    (hs : CharterProc.step charterId i l r x = some (l', r')) :
    r'.Names ref price ∧ (r.Settled → r'.Settled) ∧ l'.Told charterId ref price m i r' := by
  have hfail : (l.finish (.thrown CharterProc.dbFailed)).Told charterId ref price m i r :=
    CharterProc.told_thrown (by simp [CharterProc.dbFailed])
  obtain ⟨row, hrow, href, hprice, hcase⟩ := hN.row
  unfold CharterProc.Told at ht
  cases CharterProc.step_cases hs with
  | failed => exact ⟨hN, id, hfail⟩
  | route body hpc hop =>
    rw [hpc, hop] at ht
    exact ⟨hN, id, CharterProc.told_route ht⟩
  | check w hpc hop =>
    rw [hpc, hop] at ht
    exact absurd ht id
  | initiate =>
    rw [hrow]
    exact ⟨hN, id, CharterProc.told_checkInitiate⟩
  | verify =>
    rw [hrow]
    exact ⟨hN, id, CharterProc.told_verifyStart⟩
  | write w charter c hpc =>
    rw [hpc] at ht
    exact absurd ht id
  | refused charter e hpc hinit => exact ⟨hN, id, CharterProc.told_initialize hinit⟩
  | started => exact ⟨hN, id, trivial⟩
  | setPaymentRef q c hpc hfault hrow' =>
    obtain rfl := Option.some.inj (hrow.symm.trans hrow')
    have hq : q = ref := hkept.1 hfault q (by rw [hpc]; rfl)
    refine ⟨⟨_, rfl, congrArg some hq, hprice, hcase⟩, ?_, ?_⟩
    · rintro ⟨row', hrow', hset⟩
      rw [hrow, Option.some.injEq] at hrow'
      subst hrow'
      exact ⟨_, rfl, hset⟩
    · exact CharterProc.told_finish ⟨by simp, by simp⟩
  | lookup charter q hpc =>
    have hq : q ∈ l.pc.asks := by
      rw [hpc]
      rfl
    exact ⟨hN, id, CharterProc.told_lookedUp (hrep q hq) (hkept.2 q hq)⟩
  | throws caller => exact ⟨hN, id, CharterProc.told_throws caller⟩
  | find d caller hpc =>
    rw [hpc] at ht
    exact ⟨hN, id, CharterProc.told_checkCharge hN hexact ht.1 ht.2⟩
  | late d charter p caller hpc hfault hnone =>
    -- the row is not payable any more, so another call has confirmed it
    rcases hcase with ⟨hpay, -⟩ | ⟨hset, -⟩
    · unfold Charters.confirmPayment at hnone
      rw [hrow] at hnone
      dsimp only at hnone
      rw [if_pos hpay] at hnone
      cases hnone
    · exact ⟨hN, id, CharterProc.told_returns ⟨row, hrow, hset⟩ caller⟩
  | confirm d charter p caller c hpc hfault hconf =>
    obtain ⟨row', hrow', -, -, rfl⟩ := Charters.confirmPayment_eq_some.mp hconf
    obtain rfl := Option.some.inj (hrow.symm.trans hrow')
    rw [hpc] at ht
    have hd : d.reference = ref := ht
    have hset : CharterDB.Settled { r with
        row := some { row with
          paidAt := some d.paidAt
          paidAmount := some p
          status := .confirmed }
        settledBy := some (i, d.reference) } := ⟨_, rfl, rfl⟩
    exact ⟨⟨_, rfl, href, hprice, Or.inr ⟨rfl, i, by rw [hd]⟩⟩, fun _ => hset, hset⟩
  | notify charter p caller hpc =>
    rw [hpc] at ht
    exact ⟨⟨row, hrow, href, hprice, hcase⟩, id, CharterProc.told_returns ht caller⟩
  | reread charter hpc =>
    rw [hpc] at ht
    obtain ⟨row', hrow', hset⟩ := ht
    rw [hrow']
    refine ⟨hN, id, CharterProc.told_finish ⟨by simp, ?_⟩⟩
    intro charter' heq
    simp [hset] at heq

/-! ## All runs -/

/-- What is kept from the payment on. -/
def CharterTold (charterId : CharterId) (ref : Ref) (price : ℤ)
    (m c : Config CharterDB CharterProc) : Prop :=
  Machine.Asserts (fun _ r => r.Names ref price) (CharterProc.Told charterId ref price m) c

/-- **One step after the payment.** -/
theorem CharterTold.step (h : CharterTold charterId ref price m c)
    (hexact : Charters.amountKobo price = price)
    (hpaid : CharterPaidFor charterId ref price c a) (hkept : CharterRefKept ref c a)
    (hs : (charters charterId).step c a = some c') : CharterTold charterId ref price m c' := by
  rcases Machine.next_cases hs with ⟨op, rfl, rfl⟩ | ⟨i, x, l, l', r', rfl, hi, hstep, rfl⟩ |
    ⟨data, r', rfl, henv, rfl⟩
  · exact Machine.Asserts.snoc h h.1 hpaid
  · obtain ⟨hN, hset, hown⟩ := (h.2 i l hi).step h.1 hexact (hpaid l hi) (hkept l hi) hstep
    exact Machine.Asserts.set h hi hN hown fun j k hk => hk.mono hset
  · obtain ⟨hrow, -⟩ := charter_env henv
    obtain ⟨row, hrow', -⟩ := h.1.row
    rw [hrow] at hrow'
    exact absurd hrow' (by simp)

theorem CharterTold.start (h : CharterPaidAt charterId ref price m)
    (hstored : ∀ row, m.shared.row = some row → row.paymentRef = some ref) :
    CharterTold charterId ref price m m := by
  obtain ⟨row, hrow, hpay, hprice⟩ := h.payable
  have hinv := (charter_asserts h.reachable).1
  have hnone : row.paidAt = none := by
    rw [Charters.payable, Bool.and_eq_true, beq_iff_eq] at hpay
    exact hpay.1
  refine ⟨⟨row, hrow, hstored row hrow, hprice, Or.inl ⟨hpay, ?_⟩⟩, ?_⟩
  · exact hinv.settledBy_eq_none hrow hnone
  · intro i l hi
    unfold CharterProc.Told
    rcases h.calls l (List.mem_of_getElem? hi) with ⟨hawaits, hop⟩ | hover
    · split
      all_goals first
        | exact hop
        | trivial
        | next hpc =>
          rw [hpc] at hawaits
          exact absurd hawaits Bool.false_ne_true
    · split
      all_goals first
        | exact Or.inl hi
        | trivial
        | next hpc =>
          rw [hpc] at hover
          exact absurd hover Bool.false_ne_true

/-- What is kept says that the payment is attributed. -/
theorem CharterTold.attributed (h : CharterTold charterId ref price m c) :
    CharterAttributed ref m c := by
  refine ⟨?_, ?_⟩
  · intro i l o hi hpc
    have ht := h.2 i l hi
    rw [CharterProc.Told, hpc] at ht
    exact ht
  · intro row hrow hpaid
    obtain ⟨row', hrow', href, -, ⟨hpay, -⟩ | ⟨-, hsettled⟩⟩ := h.1.row
    · rw [hrow, Option.some.injEq] at hrow'
      rw [Charters.payable, ← hrow', Bool.and_eq_true, beq_iff_eq] at hpay
      exact absurd hpay.1 hpaid
    · rw [hrow, Option.some.injEq] at hrow'
      rw [hrow']
      exact ⟨href, hsettled⟩

/-- **The payment of a charter is attributed**, whatever comes after it, when the row names
it, the price times a hundred is exact and nothing that was under way takes its place. -/
theorem charter_attributed (h : CharterPaidAt charterId ref price m)
    (hexact : Charters.amountKobo price = price)
    (hstored : ∀ row, m.shared.row = some row → row.paymentRef = some ref)
    {acts : List (Act CharterOp CharterInput CharterRequest)}
    (hpaid : (charters charterId).AllSteps (CharterPaidFor charterId ref price) m acts)
    (hkept : (charters charterId).AllSteps (CharterRefKept ref) m acts) :
    ∀ c ∈ (charters charterId).trace m acts, CharterAttributed ref m c := by
  intro c hc
  have hboth := hpaid.and hkept
  have htold := hboth.invariant_trace (P := CharterTold charterId ref price m)
    (fun r a r' hr hC hs => hr.step hexact hC.1 hC.2 hs) (.start h hstored) hc
  exact htold.attributed

/-! ## Sample payments -/

/-- The passenger of the sample charter starts payment `55`. -/
def busStarted : List (Act CharterOp CharterInput CharterRequest) :=
  busQuoted ++ .spawn (.initiatePayment 7) :: List.replicate 3 (.run 2 charterPlain)

/-- The passenger starts payment `56` as well. -/
def busRestarted : List (Act CharterOp CharterInput CharterRequest) :=
  busStarted ++ .spawn (.initiatePayment 7) ::
    List.replicate 3 (.run 3 { charterPlain with started := .ok 56 })

theorem busStarted_runs : ((charters 1).run charterStart busStarted).isSome = true := by
  decide +kernel

/-- Payment `55` is about to be paid. -/
def busDue : Config CharterDB CharterProc :=
  ((charters 1).run charterStart busStarted).get busStarted_runs

theorem busRestarted_runs : ((charters 1).run charterStart busRestarted).isSome = true := by
  decide +kernel

/-- So it is here, after another one has been started. -/
def busDueTwice : Config CharterDB CharterProc :=
  ((charters 1).run charterStart busRestarted).get busRestarted_runs

theorem busDue_paidAt : CharterPaidAt 1 55 250000 busDue where
  reachable := ⟨charterStart, ⟨rfl, rfl⟩, busStarted, (Option.some_get _).symm⟩
  issued := by decide +kernel
  payable := ⟨busDue.shared.row.get (by decide +kernel), (Option.some_get _).symm,
    by decide +kernel, by decide +kernel⟩
  calls := by decide +kernel

theorem busDueTwice_paidAt : CharterPaidAt 1 55 250000 busDueTwice where
  reachable := ⟨charterStart, ⟨rfl, rfl⟩, busRestarted, (Option.some_get _).symm⟩
  issued := by decide +kernel
  payable := ⟨busDueTwice.shared.row.get (by decide +kernel), (Option.some_get _).symm,
    by decide +kernel, by decide +kernel⟩
  calls := by decide +kernel

/-- A charter is quoted one naira and ten kobo and accepted, and payment `55` is started. -/
def cheapStarted : List (Act CharterOp CharterInput CharterRequest) :=
  [.env busToAbuja, .spawn (.write (.sendQuote { busQuote with quotedPrice := 11 / 10 })),
    .run 0 charterPlain, .run 0 charterPlain, .spawn (.write (.acceptQuote 7)),
    .run 1 charterPlain, .run 1 charterPlain, .spawn (.initiatePayment 7)] ++
    List.replicate 3 (.run 2 charterPlain)

/-- Paystack reports it as paid in full to a callback. -/
def cheapVerifies : List (Act CharterOp CharterInput CharterRequest) :=
  .spawn (.verifyPayment 7) ::
    List.replicate 4 (.run 3 { charterPlain with lookedUp := .ok (some ⟨.success, 110⟩) })

theorem cheapStarted_runs : ((charters 1).run charterStart cheapStarted).isSome = true := by
  decide +kernel

/-- Payment `55` is about to be paid. -/
def cheapDue : Config CharterDB CharterProc :=
  ((charters 1).run charterStart cheapStarted).get cheapStarted_runs

theorem cheapDue_paidAt : CharterPaidAt 1 55 110 cheapDue where
  reachable := ⟨charterStart, ⟨rfl, rfl⟩, cheapStarted, (Option.some_get _).symm⟩
  issued := by decide +kernel
  payable := ⟨cheapDue.shared.row.get (by decide +kernel), (Option.some_get _).symm,
    by decide +kernel, by decide +kernel⟩
  calls := by decide +kernel

theorem cheapVerifies_runs : ((charters 1).run cheapDue cheapVerifies).isSome = true := by
  decide +kernel

/-- **A charter that is paid in full, once, is answered as failed.**  `Number("1.10") * 100` is
no number of kobo. -/
theorem charter_inexact : ¬ ∀ charterId ref price m acts, CharterPaidAt charterId ref price m →
    (∀ row, m.shared.row = some row → row.paymentRef = some ref) →
    (charters charterId).AllSteps (CharterPaidFor charterId ref price) m acts →
    (charters charterId).AllSteps (CharterRefKept ref) m acts →
    ∀ c ∈ (charters charterId).trace m acts, CharterAttributed ref m c := by
  intro h
  have hstored : cheapDue.shared.row.all (fun row => row.paymentRef == some 55) = true := by
    decide +kernel
  have hnew : cheapDue.procs[3]? = none := by
    decide +kernel
  have hanswer : (((charters 1).run cheapDue cheapVerifies).get cheapVerifies_runs).procs[3]?.any
      (fun l => match l.pc with
        | .done (.verified .failed _) => true
        | _ => false) = true := by
    decide +kernel
  have hatt := h 1 55 110 cheapDue cheapVerifies cheapDue_paidAt ?_ (by decide +kernel)
    (by decide +kernel) _ (System.mem_trace_of_run (Option.some_get cheapVerifies_runs).symm)
  · obtain ⟨l, hl, hdone⟩ := Option.any_eq_true _ _ |>.mp hanswer
    split at hdone
    · next charter hpc =>
      rcases hatt.answers 3 l _ hl hpc with hold | hfair
      · rw [hnew] at hold
        exact absurd hold (by simp)
      · exact hfair.2 charter rfl
    · exact absurd hdone Bool.false_ne_true
  · intro row hrow
    rw [hrow] at hstored
    simpa using hstored

end TransHub
