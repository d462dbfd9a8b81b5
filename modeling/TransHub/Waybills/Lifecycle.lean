import TransHub.Waybills.Process
import TransHub.Foundation.Lifecycle

/-!
# The lifecycle of a waybill

`sendQuote` and `updateWaybillStatus` check a transition from the status they have read
and then write the row by its id, so another operation may step in between.

* `WaybillInTime`: the writes of a run come in time.
* `WaybillFlow`: the stored statuses follow `VALID_TRANSITIONS`.
* `waybill_flow_iff`: the two are the same.
* `cancel_overwrites_shipment`: a run in which they fail.
-/

namespace TransHub

variable {waybillId : WaybillId} {c c' : Config WaybillDB WaybillProc}

/-- The stored status. -/
def waybillStatus (c : Config WaybillDB WaybillProc) : Option WaybillStatus :=
  c.shared.row.map Waybill.status

/-- What a step may make of it. -/
def WaybillMoves (c c' : Config WaybillDB WaybillProc) : Prop :=
  Moves (fun s t => t ∈ s.validTransitions) .pending (waybillStatus c) (waybillStatus c')

namespace WaybillStatus

/-- The statuses of a parcel that has been handed over. -/
def shipped : List WaybillStatus := [droppedOff, pickedUp, inTransit, arrivedAtHub, completed]

/-- The statuses that may be cancelled. -/
def cancellable : List WaybillStatus := [pending, quoteSent, paid]

theorem cancelled_mem_validTransitions :
    ∀ s : WaybillStatus, cancelled ∈ s.validTransitions ↔ s ∈ cancellable := by
  decide

/-- Only cancelled waybills come from several statuses. -/
theorem validTransitions_unique : ∀ s s' t : WaybillStatus, t ∈ s.validTransitions →
    t ∈ s'.validTransitions → s = s' ∨ t = cancelled := by
  decide

/-- A parcel that has been handed over stays so. -/
theorem validTransitions_shipped : ∀ s t : WaybillStatus, t ∈ s.validTransitions →
    s ∈ shipped → t ∈ shipped := by
  decide

/-- No transition makes a paid waybill an unpaid one. -/
theorem validTransitions_paid : ∀ s t : WaybillStatus, t ∈ s.validTransitions →
    s ∉ [pending, quoteSent] → t ∉ [pending, quoteSent] := by
  decide

end WaybillStatus

/-- **The stored statuses follow `VALID_TRANSITIONS`.**  Consecutive statuses are joined
by a transition; a waybill that is cancelled or completed stays so; a shipped parcel is
never cancelled; and a paid waybill is never waiting for a quote or its payment. -/
structure WaybillFlow (waybillId : WaybillId) (c : Config WaybillDB WaybillProc)
    (acts : List (Act WaybillOp WaybillInput (WaybillRequest × Time))) : Prop where
  path : ((waybills waybillId).trace c acts).IsChain WaybillMoves
  terminal : ∀ l₁ l₂ m m' s, acts = l₁ ++ l₂ → (waybills waybillId).run c l₁ = some m →
    (waybills waybillId).run m l₂ = some m' → waybillStatus m = some s →
    s = .cancelled ∨ s = .completed → waybillStatus m' = some s
  shipped : ∀ l₁ l₂ m m' s, acts = l₁ ++ l₂ → (waybills waybillId).run c l₁ = some m →
    (waybills waybillId).run m l₂ = some m' → waybillStatus m = some s →
    s ∈ WaybillStatus.shipped → waybillStatus m' ≠ some .cancelled
  paid : ∀ m ∈ (waybills waybillId).trace c acts, ∀ row, m.shared.row = some row →
    row.paidAt ≠ none → row.status ≠ .pending ∧ row.status ≠ .quoteSent

/-- When an operation writes a status by id, the stored one is still the status that it
has read, or is already the one it writes, or it cancels a waybill that can still be
cancelled. -/
def WaybillInTime (c : Config WaybillDB WaybillProc)
    (a : Act WaybillOp WaybillInput (WaybillRequest × Time)) : Prop :=
  ∀ (i : ℕ) (x : WaybillInput) (l : WaybillProc) (o : WaybillWrite) (waybill row : Waybill),
    a = .run i x → x.fault = false → c.procs[i]? = some l → l.pc = .write o waybill →
    c.shared.row = some row →
    row.status = waybill.status ∨ row.status = o.target ∨
      (o.target = .cancelled ∧ row.status ∈ WaybillStatus.cancellable)

/-! ## The steps in time -/

/-- An operation that is about to write has read a row from whose status it may. -/
def WaybillProc.Checked (l : WaybillProc) : Prop :=
  ∀ o waybill, l.pc = .write o waybill → o.target ∈ waybill.status.validTransitions

theorem WaybillEffect.checked {i : ℕ} {l l' : WaybillProc} {r r' : WaybillDB} {x : WaybillInput}
    (he : WaybillEffect i l r x l' r') : l'.Checked := by
  intro o waybill hpc
  cases he with
  | quiet _ _ _ _ _ _ hwrite => exact (hwrite o waybill hpc).2
  | write => exact absurd hpc (by simp [WaybillProc.goto])
  | setPaymentRef => exact absurd hpc (by simp [WaybillProc.finish])
  | confirm => exact absurd hpc (by simp)

theorem waybill_checked (h : (waybills waybillId).Reachable c) {i : ℕ} {l : WaybillProc}
    (hi : c.procs[i]? = some l) : l.Checked :=
  Machine.local_invariant (M := waybillMachine waybillId) (P := WaybillProc.Checked)
    (fun _ _ _ hpc => absurd hpc (by simp [waybillMachine]))
    (fun _ _ _ _ _ _ _ hs => (WaybillProc.step_effect hs).checked) h hi

theorem waybill_env {r r' : WaybillDB} {data : WaybillRequest × Time}
    (h : (waybillMachine waybillId).env r data = some r') :
    r.row = none ∧ r' = { r with
      row := some (Waybills.create waybillId data.1)
      events := r.events ++ [Waybills.createdEvent data.2] } := by
  unfold waybillMachine at h
  dsimp only at h
  split at h
  · next hrow =>
    cases h
    exact ⟨hrow, rfl⟩
  · exact absurd h (by simp)

/-- The step of a write by id. -/
theorem WaybillProc.step_write {i : ℕ} {l : WaybillProc} {r : WaybillDB} {x : WaybillInput}
    {o : WaybillWrite} {waybill row : Waybill} (hpc : l.pc = .write o waybill)
    (hfault : x.fault = false) (hrow : r.row = some row) :
    WaybillProc.step waybillId i l r x = some (l.goto (.written o),
      { r with
        row := some (o.write x.now row)
        events := r.events ++ [o.event x.now] }) := by
  rw [WaybillProc.step, hpc]
  dsimp only
  rw [hfault, hrow]
  rfl

/-- What a step other than a write by id makes of the status. -/
theorem WaybillEffect.moves {i : ℕ} {l l' : WaybillProc} {r r' : WaybillDB} {x : WaybillInput}
    (he : WaybillEffect i l r x l' r') :
    Moves (fun s t => t ∈ s.validTransitions) .pending (r.row.map Waybill.status)
      (r'.row.map Waybill.status) ∨
    ∃ o waybill row, l.pc = .write o waybill ∧ x.fault = false ∧ r.row = some row ∧
      r'.row = some (o.write x.now row) := by
  cases he with
  | quiet _ _ hrow =>
    rw [hrow]
    exact Or.inl (.refl _ _ _)
  | write o waybill w hpc hfault hrow => exact Or.inr ⟨o, waybill, w, hpc, hfault, hrow, rfl⟩
  | setPaymentRef waybill reference w hpc hrow =>
    rw [hrow]
    exact Or.inl (.refl _ _ _)
  | confirm d waybill caller w hpc hrow hpaid hst =>
    rw [hrow, Option.map_some, hst]
    exact Or.inl (Or.inr List.mem_cons_self)

/-- **A write in time is a write along a transition.** -/
theorem WaybillWrite.in_time_iff {o : WaybillWrite} {s stored : WaybillStatus}
    (hs : o.target ∈ s.validTransitions) :
    (stored = s ∨ stored = o.target ∨
      (o.target = .cancelled ∧ stored ∈ WaybillStatus.cancellable)) ↔
      (o.target = stored ∨ o.target ∈ stored.validTransitions) := by
  rw [← WaybillStatus.cancelled_mem_validTransitions]
  exact late_write_iff WaybillStatus.validTransitions_unique hs

/-- **The steps in time are those that follow the transitions.** -/
theorem waybill_in_time_iff (h : (waybills waybillId).Reachable c)
    (a : Act WaybillOp WaybillInput (WaybillRequest × Time)) :
    WaybillInTime c a ↔ ∀ c', (waybills waybillId).step c a = some c' → WaybillMoves c c' := by
  constructor
  · intro htime c' hs
    rcases Machine.next_cases hs with ⟨op, -, rfl⟩ | ⟨i, x, l, l', r', rfl, hi, hstep, rfl⟩ |
      ⟨data, r', -, henv, rfl⟩
    · exact .refl _ _ _
    · rcases (WaybillProc.step_effect hstep).moves with hmove |
        ⟨o, waybill, row, hpc, hfault, hrow, hrow'⟩
      · exact hmove
      · rw [WaybillMoves, waybillStatus, waybillStatus, hrow, hrow', Option.map_some,
          Option.map_some, WaybillWrite.write_status]
        exact (WaybillWrite.in_time_iff (waybill_checked h hi o waybill hpc)).mp
          (htime i x l o waybill row rfl hfault hi hpc hrow)
    · obtain ⟨hrow, rfl⟩ := waybill_env henv
      rw [WaybillMoves, waybillStatus, hrow]
      rfl
  · rintro hmove i x l o waybill row rfl hfault hi hpc hrow
    have hs := hmove _ (Machine.next_run.mpr
      ⟨l, _, _, hi, WaybillProc.step_write hpc hfault hrow, rfl⟩)
    rw [WaybillMoves, waybillStatus, waybillStatus, hrow, Option.map_some, Option.map_some,
      WaybillWrite.write_status] at hs
    exact (WaybillWrite.in_time_iff (waybill_checked h hi o waybill hpc)).mpr hs

/-! ## Paid waybills -/

/-- The waybill has been paid. -/
def WaybillIsPaid (c : Config WaybillDB WaybillProc) : Prop :=
  ∃ row, c.shared.row = some row ∧ row.paidAt ≠ none

/-- A waybill is marked as paid when it becomes so. -/
theorem waybillIsPaid_step {a : Act WaybillOp WaybillInput (WaybillRequest × Time)}
    (hs : (waybills waybillId).step c a = some c') (hpaid : WaybillIsPaid c') :
    WaybillIsPaid c ∨ ∃ s, waybillStatus c' = some s ∧ s ∉ [.pending, .quoteSent] := by
  obtain ⟨row', hrow', hpaid⟩ := hpaid
  rcases Machine.next_cases hs with ⟨op, -, rfl⟩ | ⟨i, x, l, l', r', -, hi, hstep, rfl⟩ |
    ⟨data, r', -, henv, rfl⟩
  · exact Or.inl ⟨row', hrow', hpaid⟩
  · cases WaybillProc.step_effect hstep with
    | quiet _ _ hrow => exact Or.inl ⟨row', hrow.symm.trans hrow', hpaid⟩
    | write o waybill row hpc hfault hrow =>
      cases hrow'
      exact Or.inl ⟨row, hrow, by simpa using hpaid⟩
    | setPaymentRef waybill reference row hpc hrow =>
      cases hrow'
      exact Or.inl ⟨row, hrow, hpaid⟩
    | confirm => exact Or.inr ⟨.paid, rfl, by decide⟩
  · obtain ⟨-, rfl⟩ := waybill_env henv
    cases hrow'
    exact absurd rfl hpaid

/-! ## All runs -/

/-- **The lifecycle of a waybill.**  The stored statuses of a run follow
`VALID_TRANSITIONS`, and with that cancelled and completed waybills are final, shipped
parcels are never cancelled and paid ones never unpaid, exactly when every write of the
run comes in time. -/
theorem waybill_flow_iff (h : (waybills waybillId).init c)
    (acts : List (Act WaybillOp WaybillInput (WaybillRequest × Time))) :
    (waybills waybillId).AllSteps WaybillInTime c acts ↔ WaybillFlow waybillId c acts := by
  have hiff := System.allSteps_iff (l := acts) (.of_init h)
    fun m a hm => waybill_in_time_iff (c := m) hm a
  rw [hiff]
  constructor
  · intro hall
    refine ⟨System.isChain_trace_iff.mpr hall, ?_, ?_, ?_⟩
    · rintro l₁ l₂ m m' s rfl hm hm' hs hterm
      refine (hall.drop hm).terminal_stays hm' ?_ hs
      intro t ht
      rcases hterm with rfl | rfl <;> exact absurd ht List.not_mem_nil
    · rintro l₁ l₂ m m' s rfl hm hm' hs hship hcancel
      obtain ⟨t, ht, hmem⟩ := (hall.drop hm).status_stays hm'
        WaybillStatus.validTransitions_shipped ⟨s, hs, hship⟩
      rw [hcancel, Option.some.injEq] at ht
      rw [← ht] at hmem
      exact absurd hmem (by decide)
    · intro m hm row hrow hpaid
      obtain ⟨s, hs, hnot⟩ := hall.marked WaybillStatus.validTransitions_paid
        (fun r a r' hs hr' => waybillIsPaid_step hs hr')
        (fun hstart => by
          obtain ⟨row₀, hrow₀, -⟩ := hstart
          rw [h.1] at hrow₀
          exact absurd hrow₀ (by simp)) hm ⟨row, hrow, hpaid⟩
      rw [waybillStatus, hrow, Option.map_some, Option.some.injEq] at hs
      rw [hs]
      simpa using hnot
  · exact fun hflow => System.isChain_trace_iff.mp hflow.path

/-! ## One run -/

/-- What the customer of the sample runs submits. -/
def parcelToAbuja : WaybillRequest where
  waybillNo := 1
  userId := 7
  senderName := "Ada"
  senderPhone := "08030000001"
  recipientName := "Obi"
  recipientPhone := "08030000002"
  fromLocation := "Lagos"
  toLocation := "Abuja"

/-- A quote of 1500 naira by company `3`. -/
def parcelQuote : WaybillQuote := ⟨3, 1500, none⟩

def parcelCancel : UpdateStatusInput := ⟨.cancelled, none, none, by decide⟩

def parcelDropOff : UpdateStatusInput := ⟨.droppedOff, none, none, by decide⟩

/-- A step in which nothing fails; Paystack starts payment `66` and knows of no charge. -/
def waybillPlain : WaybillInput := ⟨false, 900, "", .ok 66, .ok none⟩

/-- The webhook of a charge for waybill `1`. -/
def parcelWebhook (reference : Ref) (amount : ℚ) : WebhookBody where
  event := "charge.success"
  reference := reference
  status := "success"
  amount := amount
  metadata := some ⟨some "waybill", none, some 1, none, none, none⟩

/-- A waybill is submitted, quoted and paid. -/
def parcelPaid : List (Act WaybillOp WaybillInput (WaybillRequest × Time)) :=
  [.env (parcelToAbuja, 100), .spawn (.write (.sendQuote parcelQuote)), .run 0 waybillPlain,
    .run 0 waybillPlain, .spawn (.webhook (parcelWebhook 66 150000)), .run 1 waybillPlain,
    .run 1 waybillPlain, .run 1 waybillPlain]

/-- An admin's cancellation reads the paid waybill, the carrier takes the parcel, and the
cancellation is written. -/
def parcelCancelled : List (Act WaybillOp WaybillInput (WaybillRequest × Time)) :=
  parcelPaid ++
    [.spawn (.write (.updateWaybillStatus ⟨.admin, none⟩ parcelCancel)), .run 2 waybillPlain,
      .spawn (.write (.updateWaybillStatus ⟨.operator, some 3⟩ parcelDropOff)),
      .run 3 waybillPlain, .run 3 waybillPlain]

/-- No waybill and no call. -/
def waybillStart : Config WaybillDB WaybillProc := ⟨⟨none, [], [], none⟩, []⟩

theorem waybill_flow_iff_paid : (waybills 1).init waybillStart ∧
    ((waybills 1).AllSteps WaybillInTime waybillStart parcelPaid ↔
      WaybillFlow 1 waybillStart parcelPaid) :=
  ⟨⟨rfl, rfl⟩, waybill_flow_iff ⟨rfl, rfl⟩ parcelPaid⟩

theorem parcelCancelled_runs : ((waybills 1).run waybillStart parcelCancelled).isSome = true := by
  decide +kernel

/-- The parcel is dropped off, and the cancellation about to be written. -/
def parcelShipped : Config WaybillDB WaybillProc :=
  ((waybills 1).run waybillStart parcelCancelled).get parcelCancelled_runs

theorem parcelLost_runs : ((waybills 1).run parcelShipped [.run 2 waybillPlain]).isSome = true := by
  decide +kernel

/-- The cancellation is written. -/
def parcelLost : Config WaybillDB WaybillProc :=
  ((waybills 1).run parcelShipped [.run 2 waybillPlain]).get parcelLost_runs

/-- **A cancellation overwrites a shipment.** -/
theorem cancel_overwrites_shipment :
    ¬ ∀ waybillId c acts, (waybills waybillId).init c → WaybillFlow waybillId c acts := by
  intro h
  have hflow := h 1 waybillStart (parcelCancelled ++ [.run 2 waybillPlain]) ⟨rfl, rfl⟩
  have hshipped : waybillStatus parcelShipped = some .droppedOff := by decide +kernel
  have hlost : waybillStatus parcelLost = some .cancelled := by decide +kernel
  exact hflow.shipped parcelCancelled [.run 2 waybillPlain] parcelShipped parcelLost .droppedOff
    rfl (Option.some_get _).symm (Option.some_get _).symm hshipped (by decide) hlost

end TransHub
