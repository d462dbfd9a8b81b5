import TransHub.Waybills.Attribution
import TransHub.Payments.Reconciliation

/-!
# Several payments of one charter or waybill

A customer may start any number of payments and pay one of them.

* `payment_attributed`: what is told and stored of it from then on.
* `payment_overwritten`: two payments are started, and the first is paid.
-/

namespace TransHub

/-- **Which payments are attributed.**  From the moment at which a payment that was
started succeeds, no callback of it reports a failure or misses the charter or waybill,
and once that is paid it names the payment, provided its reference is the stored one,
nothing that was under way takes its place, and the price of a charter, scaled to a
significand, lies in the upper binade of its product with a hundred or near a multiple of a
hundred. -/
theorem payment_attributed {charterId : CharterId} {waybillId : WaybillId} {ref ref' : Ref}
    {quotedPrice : Kobo.Price} {fee : ℤ} {c : Config CharterDB CharterProc}
    {w : Config WaybillDB WaybillProc}
    {acts : List (Act CharterOp CharterInput CharterRequest)}
    {moves : List (Act WaybillOp WaybillInput (WaybillRequest × Time))}
    (hprice : ∃ k, Kobo.IsScale quotedPrice.hundredths k ∧ Kobo.Exact quotedPrice.hundredths k)
    (hc : CharterPaidAt charterId ref quotedPrice.hundredths c)
    (hcs : ∀ row, c.shared.row = some row → row.paymentRef = some ref)
    (hcp : (charters charterId).AllSteps
      (CharterPaidFor charterId ref quotedPrice.hundredths) c acts)
    (hck : (charters charterId).AllSteps (CharterRefKept ref) c acts)
    (hw : WaybillPaidAt waybillId ref' fee w)
    (hws : ∀ row, w.shared.row = some row → row.paymentRef = some ref')
    (hwp : (waybills waybillId).AllSteps (WaybillPaidFor waybillId ref' fee) w moves)
    (hwk : (waybills waybillId).AllSteps (WaybillRefKept ref') w moves) :
    (∀ m ∈ (charters charterId).trace c acts, CharterAttributed ref c m) ∧
    (∀ m ∈ (waybills waybillId).trace w moves, WaybillAttributed ref' w m) := by
  have hexact : Charters.amountKobo quotedPrice.hundredths = (quotedPrice.hundredths : ℤ) := by
    obtain ⟨k, hscale, hexact⟩ := hprice
    rw [Charters.amountKobo, Kobo.timesHundred_hundredths, (Kobo.kobo_eq_iff hscale).mpr hexact]
    rfl
  exact ⟨charter_attributed hc hexact hcs hcp hck, waybill_attributed hw hws hwp hwk⟩

/-! ## Sample payments -/

/-- The callback asks Paystack, and the webhook of `55` arrives; the callback is call
`i`. -/
def busSettles (i : ℕ) (answer : Option VerifiedTransaction) :
    List (Act CharterOp CharterInput CharterRequest) :=
  .spawn (.verifyPayment 7) ::
    List.replicate 2 (.run i { charterPlain with lookedUp := .ok answer }) ++
  .spawn (.webhook (busWebhook 55 250000)) :: List.replicate 3 (.run (i + 1) charterPlain)

/-- The callback of `66` asks Paystack, and its webhook arrives. -/
def parcelSettles (i : ℕ) : List (Act WaybillOp WaybillInput (WaybillRequest × Time)) :=
  .spawn (.verifyPayment 66 7) :: [.run i { waybillPlain with lookedUp := .ok none }] ++
    .spawn (.webhook (parcelWebhook 66 150000)) :: List.replicate 3 (.run (i + 1) waybillPlain)

/-- The price of the sample charter. -/
def busPrice : Kobo.Price where
  hundredths := 250000
  pos := by decide
  lt := by decide

/-- The answer of Paystack about a payment of the sample charter. -/
def busPaidInFull : Option VerifiedTransaction := some ⟨.success, 250000⟩

theorem payment_attributed_samples :
    (∀ m ∈ (charters 1).trace busDue (busSettles 3 busPaidInFull),
      CharterAttributed 55 busDue m) ∧
    (∀ m ∈ (waybills 1).trace parcelDue (parcelSettles 2), WaybillAttributed 66 parcelDue m) :=
  have hprice : ∃ k, Kobo.IsScale busPrice.hundredths k ∧ Kobo.Exact busPrice.hundredths k :=
    ⟨41, ⟨by decide, by decide⟩, Or.inr (Or.inl (by decide))⟩
  payment_attributed hprice
    busDue_paidAt (by decide +kernel) (by decide +kernel) (by decide +kernel)
    parcelDue_paidAt (by decide +kernel) (by decide +kernel) (by decide +kernel)

theorem busSettles_runs :
    ((charters 1).run busDueTwice (busSettles 4 none)).isSome = true := by
  decide +kernel

/-- Payment `55` has confirmed the charter. -/
def busMisnamed : Config CharterDB CharterProc :=
  ((charters 1).run busDueTwice (busSettles 4 none)).get busSettles_runs

theorem parcelSettles_runs :
    ((waybills 1).run parcelDueTwice (parcelSettles 3)).isSome = true := by
  decide +kernel

/-- Payment `66` has confirmed the waybill. -/
def parcelMisnamed : Config WaybillDB WaybillProc :=
  ((waybills 1).run parcelDueTwice (parcelSettles 3)).get parcelSettles_runs

theorem busMisnamed_row :
    busMisnamed.shared.row.map (fun row => (row.paidAt.isSome, row.paymentRef)) =
      some (true, some 56) := by
  decide +kernel

theorem parcelMisnamed_call :
    parcelMisnamed.procs[3]?.map (fun l => (l.op, l.pc)) =
      some (.verifyPayment 66 7, .done (.thrown Waybills.waybillNotFound)) := by
  decide +kernel

/-- **A second payment hides the first.**  The charter is paid with `55` and names `56`,
and the callback of the waybill's `66` finds no waybill.  And the only payment of a charter of
1.10 naira is answered as failed. -/
theorem payment_overwritten :
    (¬ ∀ charterId ref price c acts, CharterPaidAt charterId ref price c →
      (charters charterId).AllSteps (CharterPaidFor charterId ref price) c acts →
      ∀ m ∈ (charters charterId).trace c acts, CharterAttributed ref c m) ∧
    (¬ ∀ waybillId ref fee w moves, WaybillPaidAt waybillId ref fee w →
      (waybills waybillId).AllSteps (WaybillPaidFor waybillId ref fee) w moves →
      ∀ m ∈ (waybills waybillId).trace w moves, WaybillAttributed ref w m) ∧
    (¬ ∀ charterId ref price c acts, CharterPaidAt charterId ref price c →
      (∀ row, c.shared.row = some row → row.paymentRef = some ref) →
      (charters charterId).AllSteps (CharterPaidFor charterId ref price) c acts →
      (charters charterId).AllSteps (CharterRefKept ref) c acts →
      ∀ m ∈ (charters charterId).trace c acts, CharterAttributed ref c m) := by
  refine ⟨?_, ?_, charter_inexact⟩
  · intro h
    have hatt := h 1 55 250000 busDueTwice (busSettles 4 none) busDueTwice_paidAt
      (by decide +kernel) busMisnamed (System.mem_trace_of_run (Option.some_get _).symm)
    obtain ⟨row, hrow, heq⟩ := Option.map_eq_some_iff.mp busMisnamed_row
    obtain ⟨hpaid, href⟩ := Prod.mk.inj heq
    have hname := (hatt.names row hrow (Option.isSome_iff_ne_none.mp hpaid)).1
    rw [href] at hname
    exact absurd hname (by decide)
  · intro h
    have hatt := h 1 66 150000 parcelDueTwice (parcelSettles 3) parcelDueTwice_paidAt
      (by decide +kernel) parcelMisnamed (System.mem_trace_of_run (Option.some_get _).symm)
    obtain ⟨l, hl, heq⟩ := Option.map_eq_some_iff.mp parcelMisnamed_call
    obtain ⟨hop, hpc⟩ := Prod.mk.inj heq
    rcases hatt.answers 3 l _ 7 hl hpc hop with hold | hfair
    · have hnone : parcelDueTwice.procs[3]? = none := by decide +kernel
      rw [hnone] at hold
      exact absurd hold (by simp)
    · exact hfair.1 _ rfl rfl

end TransHub
