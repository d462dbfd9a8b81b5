import TransHub.Waybills.Payment
import TransHub.Charters.Attribution

/-!
# Which payment of a waybill is recorded

`initiatePay` stores the reference of the payment it has started over the one before, and
`verifyPayment` looks the waybill up by the reference it is called with.

* `WaybillPaidFor`: what Paystack and the customer do once one payment has succeeded.
* `WaybillAttributed`: the callback of the payment tells of it, and the row names it.
* `WaybillRefKept`: no payment that is still being started takes its place.
* `waybill_attributed`: with the reference of the payment stored, that is enough.
-/

namespace TransHub

variable {waybillId : WaybillId} {i : ℕ} {l l' : WaybillProc} {r r' : WaybillDB}
  {x : WaybillInput} {c c' m : Config WaybillDB WaybillProc} {ref : Ref} {fee : ℤ}
  {a : Act WaybillOp WaybillInput (WaybillRequest × Time)}

/-! ## The customer has paid -/

/-- The amount of a charge of the waybill. -/
def WebhookRoute.waybillCharge (waybillId : WaybillId) : WebhookRoute → Option ℚ
  | .waybill id amount => if id = waybillId then some amount else none
  | .ignored | .charterWithoutId | .charter _ _ _ | .waybillWithoutId | .booking _ _ _ => none

/-- Payments may be started, and webhooks and callbacks arrive; a charge of the waybill is
the one of `ref`, paid in full. -/
def WaybillOp.PaidFor (waybillId : WaybillId) (ref : Ref) (fee : ℤ) : WaybillOp → Prop
  | .initiatePay _ | .verifyPayment _ _ => True
  | .webhook body => ∀ amount ∈ (routeWebhook body).waybillCharge waybillId,
      body.reference = ref ∧ amount = fee
  | .write _ => False

instance (waybillId : WaybillId) (ref : Ref) (fee : ℤ) :
    DecidablePred (WaybillOp.PaidFor waybillId ref fee)
  | .initiatePay _ | .verifyPayment _ _ => isTrue trivial
  | .webhook body => inferInstanceAs
      (Decidable (∀ amount ∈ (routeWebhook body).waybillCharge waybillId,
        body.reference = ref ∧ amount = fee))
  | .write _ => isFalse id

/-- The reference that a callback is about to ask Paystack about. -/
def WaybillPc.asks : WaybillPc → Option Ref
  | lookup _ reference => some reference
  | start | write _ _ | written _ | initializeFn _ | setPaymentRef _ _ | find _ _ | confirm _ _ _
  | confirmed _ _ | track _ _ | notify _ _ | reread _ | done _ => none

/-- The reference that is about to be stored. -/
def WaybillPc.stores : WaybillPc → Option Ref
  | setPaymentRef _ reference => some reference
  | start | write _ _ | written _ | initializeFn _ | lookup _ _ | find _ _ | confirm _ _ _
  | confirmed _ _ | track _ _ | notify _ _ | reread _ | done _ => none

/-- The call is over. -/
def WaybillPc.over : WaybillPc → Bool
  | done _ => true
  | start | write _ _ | written _ | initializeFn _ | setPaymentRef _ _ | lookup _ _ | find _ _
  | confirm _ _ _ | confirmed _ _ | track _ _ | notify _ _ | reread _ => false

/-- What may happen once `ref` has been paid. -/
def WaybillPaidFor (waybillId : WaybillId) (ref : Ref) (fee : ℤ)
    (c : Config WaybillDB WaybillProc) :
    Act WaybillOp WaybillInput (WaybillRequest × Time) → Prop
  | .spawn op => op.PaidFor waybillId ref fee
  | .run i x => ∀ l ∈ c.procs[i]?, ∀ q ∈ l.pc.asks, PaystackReports ref fee q x.lookedUp
  | .env _ => True

instance (waybillId : WaybillId) (ref : Ref) (fee : ℤ) (c : Config WaybillDB WaybillProc) :
    DecidablePred (WaybillPaidFor waybillId ref fee c)
  | .spawn op => inferInstanceAs (Decidable (op.PaidFor waybillId ref fee))
  | .run i x => inferInstanceAs
      (Decidable (∀ l ∈ c.procs[i]?, ∀ q ∈ l.pc.asks, PaystackReports ref fee q x.lookedUp))
  | .env _ => isTrue trivial

/-- The places where no charge has reached a call and it is not to write the waybill. -/
def WaybillPc.awaits : WaybillPc → Bool
  | start | initializeFn _ | setPaymentRef _ _ | lookup _ _ => true
  | write _ _ | written _ | find _ _ | confirm _ _ _ | confirmed _ _ | track _ _ | notify _ _
  | reread _ | done _ => false

/-- The calls that are there when `ref` is paid are over, or await a charge. -/
def WaybillProc.Awaits (waybillId : WaybillId) (ref : Ref) (fee : ℤ) (l : WaybillProc) : Prop :=
  (l.pc.awaits = true ∧ l.op.PaidFor waybillId ref fee) ∨ l.pc.over = true

instance (waybillId : WaybillId) (ref : Ref) (fee : ℤ) :
    DecidablePred (WaybillProc.Awaits waybillId ref fee) :=
  fun l => inferInstanceAs
    (Decidable ((l.pc.awaits = true ∧ l.op.PaidFor waybillId ref fee) ∨ l.pc.over = true))

/-- `ref` is paid in the configuration `m`: a call has returned it, and the waybill awaits
its payment of this fee. -/
structure WaybillPaidAt (waybillId : WaybillId) (ref : Ref) (fee : ℤ)
    (m : Config WaybillDB WaybillProc) : Prop where
  reachable : (waybills waybillId).Reachable m
  issued : ∃ l ∈ m.procs, l.pc = .done (.payment ref)
  payable : ∃ row, m.shared.row = some row ∧ Waybills.payable row = true ∧ row.fee = fee
  calls : ∀ l ∈ m.procs, l.Awaits waybillId ref fee

/-- An answer that neither reports a failed payment nor misses the waybill. -/
def WaybillOutcome.Fair (o : WaybillOutcome) : Prop :=
  (∀ e, o = .thrown (.app e) → e.cls ≠ .notFound) ∧ ∀ waybill, o ≠ .verified .failed waybill

/-- **The payment is attributed.**  Whatever the callback of the payment has been answered
since then is fair, and a paid waybill names the payment that has confirmed it. -/
structure WaybillAttributed (ref : Ref) (m c : Config WaybillDB WaybillProc) : Prop where
  answers : ∀ (i : ℕ) l o userId, c.procs[i]? = some l → l.pc = .done o →
    l.op = .verifyPayment ref userId → m.procs[i]? = some l ∨ o.Fair
  names : ∀ row, c.shared.row = some row → row.paidAt ≠ none →
    row.paymentRef = some ref ∧ ∃ i, c.shared.settledBy = some (i, some ref)

/-- No payment that is still being started is stored in the place of `ref`. -/
def WaybillRefKept (ref : Ref) (c : Config WaybillDB WaybillProc) :
    Act WaybillOp WaybillInput (WaybillRequest × Time) → Prop
  | .run i x => ∀ l ∈ c.procs[i]?, x.fault = false → ∀ q ∈ l.pc.stores, q = ref
  | .spawn _ | .env _ => True

instance (ref : Ref) (c : Config WaybillDB WaybillProc) : DecidablePred (WaybillRefKept ref c)
  | .run i x => inferInstanceAs
      (Decidable (∀ l ∈ c.procs[i]?, x.fault = false → ∀ q ∈ l.pc.stores, q = ref))
  | .spawn _ | .env _ => isTrue trivial

/-! ## What is kept -/

/-- The row names `ref` and is payable, or has been confirmed by it. -/
structure WaybillDB.Names (ref : Ref) (fee : ℤ) (r : WaybillDB) : Prop where
  row : ∃ row, r.row = some row ∧ row.paymentRef = some ref ∧ row.fee = fee ∧
    ((Waybills.payable row = true ∧ r.settledBy = none) ∨
      (row.paidAt.isSome = true ∧ ∃ i, r.settledBy = some (i, some ref)))

namespace WaybillProc

/-- The assertion on a call; those that were over at `m` may have answered anything, and
so may callbacks of other payments. -/
def Told (waybillId : WaybillId) (ref : Ref) (fee : ℤ) (m : Config WaybillDB WaybillProc)
    (i : ℕ) (l : WaybillProc) (r : WaybillDB) : Prop :=
  match l.pc with
  | .start => l.op.PaidFor waybillId ref fee
  | .initializeFn _ | .setPaymentRef _ _ => True
  | .lookup _ q => ∃ userId, l.op = .verifyPayment q userId
  | .write _ _ | .written _ => False
  | .find d _ => l.reference = some ref ∧ d.webhookAmountKobo = fee
  | .confirm _ _ _ => l.reference = some ref
  | .confirmed _ _ | .track _ _ | .notify _ _ | .reread _ => r.Paid
  | .done o => m.procs[i]? = some l ∨ ∀ userId, l.op = .verifyPayment ref userId → o.Fair

theorem told_finish {o : WaybillOutcome} (ho : o.Fair) :
    (l.finish o).Told waybillId ref fee m i r := Or.inr fun _ _ => ho

/-- Errors of other classes are fair. -/
theorem told_thrown {e : Thrown} (he : ∀ e', e = .app e' → e'.cls ≠ .notFound) :
    (l.finish (.thrown e)).Told waybillId ref fee m i r := by
  refine told_finish ⟨?_, by simp⟩
  intro e' heq
  cases heq
  exact he e' rfl

/-- Calls other than the callback of the payment may end as they like. -/
theorem told_other {o : WaybillOutcome} (hop : ∀ userId, l.op ≠ .verifyPayment ref userId) :
    (l.finish o).Told waybillId ref fee m i r :=
  Or.inr fun userId heq => absurd heq (hop userId)

theorem told_returns (hpaid : r.Paid) (caller : Option Waybill) :
    (l.returns caller).Told waybillId ref fee m i r := by
  cases caller with
  | none => exact told_finish ⟨by simp, by simp⟩
  | some waybill => exact hpaid

theorem told_throws (caller : Option Waybill) :
    (l.throws caller dbFailed).Told waybillId ref fee m i r := by
  cases caller with
  | none => exact told_finish ⟨by simp, by simp⟩
  | some waybill => exact told_thrown (by simp [dbFailed])

/-- Paid waybills stay so, and with them what a call relies on. -/
theorem Told.mono (ht : l.Told waybillId ref fee m i r) (hpaid : r.Paid → r'.Paid) :
    l.Told waybillId ref fee m i r' := by
  unfold Told at ht ⊢
  split
  · next hpc => rw [hpc] at ht; exact ht
  · trivial
  · trivial
  · next hpc => rw [hpc] at ht; exact ht
  · next hpc => rw [hpc] at ht; exact ht
  · next hpc => rw [hpc] at ht; exact ht
  · next hpc => rw [hpc] at ht; exact ht
  · next hpc => rw [hpc] at ht; exact ht
  · next hpc => rw [hpc] at ht; exact hpaid ht
  · next hpc => rw [hpc] at ht; exact hpaid ht
  · next hpc => rw [hpc] at ht; exact hpaid ht
  · next hpc => rw [hpc] at ht; exact hpaid ht
  · next hpc => rw [hpc] at ht; exact ht

/-! ## The steps -/

theorem told_initialize {waybill : Waybill} {started : Except StartFailure Ref} {e : Thrown}
    (h : initializeWaybillPayment waybill started = .error e) :
    (l.finish (.thrown e)).Told waybillId ref fee m i r := by
  refine told_thrown ?_
  rintro e' rfl
  unfold initializeWaybillPayment at h
  dsimp only at h
  split at h
  · cases h
    decide
  · split at h
    · next failure =>
      cases failure with
      | provider failure =>
        cases failure <;> cases h <;> decide
      | noUrl =>
        cases h
        simp [AppError.conflictError]
    · cases h

theorem told_verifyStart {reference : Ref} {userId : UserId} {row : Option Waybill}
    (hop : l.op = .verifyPayment reference userId) (hrow : reference = ref → row ≠ none) :
    (l.verifyStart reference userId row).Told waybillId ref fee m i r := by
  unfold verifyStart
  split
  · refine told_other ?_
    intro u heq
    rw [hop] at heq
    cases heq
    exact hrow rfl rfl
  · split
    · refine told_thrown ?_
      rintro e' ⟨⟩
      decide
    · split
      · exact told_finish ⟨by simp, by simp⟩
      · split
        · exact told_finish ⟨by simp, by simp⟩
        · exact ⟨userId, hop⟩

theorem told_lookedUp {waybill : Waybill} {q : Ref} {userId : UserId}
    (hop : l.op = .verifyPayment q userId) (hrep : PaystackReports ref fee q x.lookedUp) :
    (l.lookedUp waybill q x.now x.lookedUp).Told waybillId ref fee m i r := by
  have hother : q ≠ ref → ∀ userId, l.op ≠ .verifyPayment ref userId := by
    intro hq u heq
    rw [hop] at heq
    cases heq
    exact hq rfl
  unfold lookedUp
  cases hans : x.lookedUp with
  | error failure =>
    refine told_thrown ?_
    cases failure <;> rintro e' ⟨⟩ <;> decide
  | ok answer =>
    rw [hans] at hrep
    cases answer with
    | none => exact told_other (hother hrep)
    | some tx =>
      obtain ⟨hsuccess, hown⟩ := hrep
      dsimp only
      split
      · exact told_finish ⟨by simp, by simp⟩
      · next hst =>
        refine told_other (hother ?_)
        intro hq
        rw [hown hq] at hst
        cases hst
      · next hst =>
        obtain ⟨hq, hamount⟩ := hsuccess hst
        exact ⟨congrArg some hq, hamount⟩

theorem told_route {body : WebhookBody}
    (hpaid : WaybillOp.PaidFor waybillId ref fee (.webhook body)) :
    (l.route waybillId x.now body).Told waybillId ref fee m i r := by
  unfold route
  split
  · next id amount hroute =>
    split
    · next hid =>
      have hmem : amount ∈ (routeWebhook body).waybillCharge waybillId := by
        rw [hroute, WebhookRoute.waybillCharge, if_pos hid]
        exact rfl
      obtain ⟨href, hamount⟩ := hpaid amount hmem
      exact ⟨congrArg some href, hamount⟩
    · exact told_finish ⟨by simp, by simp⟩
  · exact told_finish ⟨by simp, by simp⟩

theorem told_checkCharge {d : WaybillCharge} {caller : Option Waybill} (hN : r.Names ref fee)
    (href : l.reference = some ref) (hamount : d.webhookAmountKobo = fee) :
    (l.checkCharge d caller r.row).Told waybillId ref fee m i r := by
  obtain ⟨row, hrow, -, hfee, -⟩ := hN.row
  unfold checkCharge
  rw [hrow]
  dsimp only
  split
  · next hpaid => exact told_returns ⟨row, hrow, Option.isSome_iff_ne_none.mpr hpaid⟩ caller
  · rw [hfee, if_neg (by simpa using hamount)]
    exact href

end WaybillProc

/-- **A step keeps the row's reference, and tells no callback of a failure.** -/
theorem WaybillProc.Told.step (hN : r.Names ref fee) (ht : l.Told waybillId ref fee m i r)
    (hrep : ∀ q ∈ l.pc.asks, PaystackReports ref fee q x.lookedUp)
    (hkept : x.fault = false → ∀ q ∈ l.pc.stores, q = ref)
    (hs : WaybillProc.step waybillId i l r x = some (l', r')) :
    r'.Names ref fee ∧ (r.Paid → r'.Paid) ∧ l'.Told waybillId ref fee m i r' := by
  have hfail : (l.finish (.thrown WaybillProc.dbFailed)).Told waybillId ref fee m i r :=
    WaybillProc.told_thrown (by simp [WaybillProc.dbFailed])
  obtain ⟨row, hrow, href, hfee, hcase⟩ := hN.row
  unfold WaybillProc.Told at ht
  cases WaybillProc.step_cases hs with
  | failed => exact ⟨hN, id, hfail⟩
  | route body hpc hop =>
    rw [hpc, hop] at ht
    exact ⟨hN, id, WaybillProc.told_route ht⟩
  | check o hpc hop =>
    rw [hpc, hop] at ht
    exact absurd ht id
  | initiate userId hpc hop =>
    refine ⟨hN, id, ?_⟩
    unfold WaybillProc.after
    split
    · exact WaybillProc.told_other (by simp [hop])
    · trivial
  | verify reference userId hpc hop =>
    refine ⟨hN, id, WaybillProc.told_verifyStart hop ?_⟩
    rintro rfl hnone
    rw [hrow, Option.filter_some, if_pos (by simp [href])] at hnone
    exact absurd hnone (by simp)
  | write o waybill w hpc =>
    rw [hpc] at ht
    exact absurd ht id
  | announce o updated hpc =>
    rw [hpc] at ht
    exact absurd ht id
  | refused waybill e hpc hinit => exact ⟨hN, id, WaybillProc.told_initialize hinit⟩
  | started => exact ⟨hN, id, trivial⟩
  | setPaymentRef waybill q w hpc hfault hrow' =>
    obtain rfl := Option.some.inj (hrow.symm.trans hrow')
    have hq : q = ref := hkept hfault q (by rw [hpc]; rfl)
    refine ⟨⟨_, rfl, congrArg some hq, hfee, hcase⟩, ?_, ?_⟩
    · rintro ⟨row', hrow', hpaid⟩
      rw [hrow, Option.some.injEq] at hrow'
      subst hrow'
      exact ⟨_, rfl, hpaid⟩
    · exact WaybillProc.told_finish ⟨by simp, by simp⟩
  | lookup waybill q hpc =>
    rw [hpc] at ht
    obtain ⟨userId, hop⟩ := ht
    exact ⟨hN, id, WaybillProc.told_lookedUp hop (hrep q (by rw [hpc]; rfl))⟩
  | throws caller => exact ⟨hN, id, WaybillProc.told_throws caller⟩
  | find d caller hpc =>
    rw [hpc] at ht
    exact ⟨hN, id, WaybillProc.told_checkCharge hN ht.1 ht.2⟩
  | late d waybill caller hpc hfault hnone =>
    -- the row is not payable any more, so another call has confirmed it
    rcases hcase with ⟨hpay, -⟩ | ⟨hpaid, -⟩
    · unfold Waybills.confirmPayment at hnone
      rw [hrow] at hnone
      dsimp only at hnone
      rw [if_pos hpay] at hnone
      cases hnone
    · exact ⟨hN, id, WaybillProc.told_returns ⟨row, hrow, hpaid⟩ caller⟩
  | confirm d waybill caller w hpc hfault hconf =>
    obtain ⟨row', hrow', -, -, rfl⟩ := Waybills.confirmPayment_eq_some.mp hconf
    obtain rfl := Option.some.inj (hrow.symm.trans hrow')
    rw [hpc] at ht
    have hd : l.reference = some ref := ht
    have hpaid : WaybillDB.Paid { r with
        row := some { row with
          status := .paid
          paidAt := some d.paidAt }
        settledBy := some (i, l.reference) } := ⟨_, rfl, rfl⟩
    exact ⟨⟨_, rfl, href, hfee, Or.inr ⟨rfl, i, by rw [hd]⟩⟩, fun _ => hpaid, hpaid⟩
  | record waybill caller hpc =>
    rw [hpc] at ht
    exact ⟨⟨row, hrow, href, hfee, hcase⟩, id, ht⟩
  | track waybill caller hpc =>
    rw [hpc] at ht
    exact ⟨⟨row, hrow, href, hfee, hcase⟩, id, ht⟩
  | notify waybill caller hpc =>
    rw [hpc] at ht
    exact ⟨⟨row, hrow, href, hfee, hcase⟩, id, WaybillProc.told_returns ht caller⟩
  | reread waybill hpc =>
    rw [hpc] at ht
    obtain ⟨row', hrow', hpaid⟩ := ht
    have hne : row'.paidAt ≠ none := Option.isSome_iff_ne_none.mp hpaid
    rw [hrow']
    refine ⟨hN, id, WaybillProc.told_finish ⟨by simp, ?_⟩⟩
    intro waybill' heq
    simp [hne] at heq

/-! ## All runs -/

/-- What is kept from the payment on. -/
def WaybillTold (waybillId : WaybillId) (ref : Ref) (fee : ℤ)
    (m c : Config WaybillDB WaybillProc) : Prop :=
  Machine.Asserts (fun _ r => r.Names ref fee) (WaybillProc.Told waybillId ref fee m) c

/-- **One step after the payment.** -/
theorem WaybillTold.step (h : WaybillTold waybillId ref fee m c)
    (hpaid : WaybillPaidFor waybillId ref fee c a) (hkept : WaybillRefKept ref c a)
    (hs : (waybills waybillId).step c a = some c') : WaybillTold waybillId ref fee m c' := by
  rcases Machine.next_cases hs with ⟨op, rfl, rfl⟩ | ⟨i, x, l, l', r', rfl, hi, hstep, rfl⟩ |
    ⟨data, r', rfl, henv, rfl⟩
  · exact Machine.Asserts.snoc h h.1 hpaid
  · obtain ⟨hN, hset, hown⟩ := (h.2 i l hi).step h.1 (hpaid l hi) (hkept l hi) hstep
    exact Machine.Asserts.set h hi hN hown fun j k hk => hk.mono hset
  · obtain ⟨hrow, -⟩ := waybill_env henv
    obtain ⟨row, hrow', -⟩ := h.1.row
    rw [hrow] at hrow'
    exact absurd hrow' (by simp)

theorem WaybillTold.start (h : WaybillPaidAt waybillId ref fee m)
    (hstored : ∀ row, m.shared.row = some row → row.paymentRef = some ref) :
    WaybillTold waybillId ref fee m m := by
  obtain ⟨row, hrow, hpay, hfee⟩ := h.payable
  obtain ⟨c₀, h₀, acts, hrun⟩ := h.reachable
  have hinv := (waybill_asserts h.reachable).1
  have hnone : row.paidAt = none := by
    rw [Waybills.payable, Bool.and_eq_true, beq_iff_eq] at hpay
    exact hpay.1
  refine ⟨⟨row, hrow, hstored row hrow, hfee, Or.inl ⟨hpay, ?_⟩⟩, ?_⟩
  · exact hinv.settledBy_eq_none hrow hnone
  · intro i l hi
    have hlook := fun w p hpc => ((waybill_brought h₀ hrun hi).asked w p hpc).1
    unfold WaybillProc.Told
    rcases h.calls l (List.mem_of_getElem? hi) with ⟨hawaits, hop⟩ | hover
    · split
      all_goals first
        | exact hop
        | trivial
        | next hpc => exact hlook _ _ hpc
        | next hpc =>
          rw [hpc] at hawaits
          exact absurd hawaits Bool.false_ne_true
    · split
      all_goals first
        | exact Or.inl hi
        | trivial
        | next hpc =>
          rw [hpc] at hover
          exact absurd hover Bool.false_ne_true

/-- What is kept says that the payment is attributed. -/
theorem WaybillTold.attributed (h : WaybillTold waybillId ref fee m c) :
    WaybillAttributed ref m c := by
  refine ⟨?_, ?_⟩
  · intro i l o userId hi hpc hop
    have ht := h.2 i l hi
    rw [WaybillProc.Told, hpc] at ht
    exact ht.imp id fun hfair => hfair userId hop
  · intro row hrow hpaid
    obtain ⟨row', hrow', href, -, ⟨hpay, -⟩ | ⟨-, hsettled⟩⟩ := h.1.row
    · rw [hrow, Option.some.injEq] at hrow'
      rw [Waybills.payable, ← hrow', Bool.and_eq_true, beq_iff_eq] at hpay
      exact absurd hpay.1 hpaid
    · rw [hrow, Option.some.injEq] at hrow'
      rw [hrow']
      exact ⟨href, hsettled⟩

/-- **The payment of a waybill is attributed**, whatever comes after it, when the row names
it and nothing that was under way takes its place. -/
theorem waybill_attributed (h : WaybillPaidAt waybillId ref fee m)
    (hstored : ∀ row, m.shared.row = some row → row.paymentRef = some ref)
    {acts : List (Act WaybillOp WaybillInput (WaybillRequest × Time))}
    (hpaid : (waybills waybillId).AllSteps (WaybillPaidFor waybillId ref fee) m acts)
    (hkept : (waybills waybillId).AllSteps (WaybillRefKept ref) m acts) :
    ∀ c ∈ (waybills waybillId).trace m acts, WaybillAttributed ref m c := by
  intro c hc
  have hboth := hpaid.and hkept
  have htold := hboth.invariant_trace (P := WaybillTold waybillId ref fee m)
    (fun r a r' hr hC hs => hr.step hC.1 hC.2 hs) (.start h hstored) hc
  exact htold.attributed

/-! ## Sample payments -/

/-- A waybill is submitted and quoted, and the customer starts payment `66`. -/
def parcelStarted : List (Act WaybillOp WaybillInput (WaybillRequest × Time)) :=
  [.env (parcelToAbuja, 100), .spawn (.write (.sendQuote parcelQuote))]
    ++ List.replicate 3 (.run 0 waybillPlain)
    ++ .spawn (.initiatePay 7) :: List.replicate 3 (.run 1 waybillPlain)

/-- The customer starts payment `67` as well. -/
def parcelRestarted : List (Act WaybillOp WaybillInput (WaybillRequest × Time)) :=
  parcelStarted ++ .spawn (.initiatePay 7) ::
    List.replicate 3 (.run 2 { waybillPlain with started := .ok 67 })

theorem parcelStarted_runs : ((waybills 1).run waybillStart parcelStarted).isSome = true := by
  decide +kernel

/-- Payment `66` is about to be paid. -/
def parcelDue : Config WaybillDB WaybillProc :=
  ((waybills 1).run waybillStart parcelStarted).get parcelStarted_runs

theorem parcelRestarted_runs : ((waybills 1).run waybillStart parcelRestarted).isSome = true := by
  decide +kernel

/-- So it is here, after another one has been started. -/
def parcelDueTwice : Config WaybillDB WaybillProc :=
  ((waybills 1).run waybillStart parcelRestarted).get parcelRestarted_runs

theorem parcelDue_paidAt : WaybillPaidAt 1 66 150000 parcelDue where
  reachable := ⟨waybillStart, ⟨rfl, rfl⟩, parcelStarted, (Option.some_get _).symm⟩
  issued := by decide +kernel
  payable := ⟨parcelDue.shared.row.get (by decide +kernel), (Option.some_get _).symm,
    by decide +kernel, by decide +kernel⟩
  calls := by decide +kernel

theorem parcelDueTwice_paidAt : WaybillPaidAt 1 66 150000 parcelDueTwice where
  reachable := ⟨waybillStart, ⟨rfl, rfl⟩, parcelRestarted, (Option.some_get _).symm⟩
  issued := by decide +kernel
  payable := ⟨parcelDueTwice.shared.row.get (by decide +kernel), (Option.some_get _).symm,
    by decide +kernel, by decide +kernel⟩
  calls := by decide +kernel

end TransHub
