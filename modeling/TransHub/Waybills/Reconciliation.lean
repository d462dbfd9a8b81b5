import TransHub.Waybills.Lifecycle
import TransHub.Foundation.Custody

/-!
# What becomes of the charges of a waybill

As for charters, a webhook is acknowledged before `handlePaymentConfirmed` has run.

* `WaybillProc.captured`: the charge that a call is the webhook of.
* `WaybillProc.Accounted`: the charge has confirmed the payment, repeats the one that
  has, or has been reported.
* `WaybillProc.Unhindered`: the condition on a step.
* `waybillCustody`: the condition decides.
-/

namespace TransHub

variable {waybillId : WaybillId} {i : ℕ} {l l' : WaybillProc} {r r' : WaybillDB}
  {x : WaybillInput} {c c' : Config WaybillDB WaybillProc} {reference : Ref}

/-- The call is over. -/
def WaybillProc.IsDone (l : WaybillProc) : Prop := ∃ o, l.pc = .done o

namespace WaybillProc

/-- The reference of the captured charge that a call is the webhook of: one for this
waybill, or one that names no waybill. -/
def captured (waybillId : WaybillId) (l : WaybillProc) : Option Ref :=
  match l.op with
  | .webhook body => match routeWebhook body with
      | .waybill id _ => if id = waybillId then some body.reference else none
      | .waybillWithoutId => some body.reference
      | _ => none
  | _ => none

/-- The call has confirmed the payment, or has reported it.  The event carries no reference,
so a report names that of the row. -/
def Answered (l : WaybillProc) (_ : Ref) : Prop := l.flipped = true ∨ l.issues ≠ []

/-- The captured charge is the one that has settled the waybill, or the call has confirmed
the payment, or has reported it. -/
def Accounted (waybillId : WaybillId) (l : WaybillProc) (r : WaybillDB) : Prop :=
  ∀ reference, l.captured waybillId = some reference →
    (∃ j, r.settledBy = some (j, some reference)) ∨ l.Answered reference

/-- What makes the listener drop a charge: a webhook that names no waybill, a statement that
fails, a waybill that is unknown or paid when it is read, or one that cannot be paid when it
is updated. -/
def Hindered (l : WaybillProc) (r : WaybillDB) (x : WaybillInput) : Prop :=
  match l.pc with
  | .start => ∃ body, l.op = .webhook body ∧ routeWebhook body = .waybillWithoutId
  | .find _ _ => x.fault = true ∨ ∀ w, r.row = some w → w.paidAt ≠ none
  | .confirm _ _ _ => x.fault = true ∨ ∀ w, r.row = some w → Waybills.payable w = false
  | _ => False

/-- The charge has settled the waybill already, or nothing hinders the step. -/
def Unhindered (waybillId : WaybillId) (l : WaybillProc) (r : WaybillDB) (x : WaybillInput) :
    Prop :=
  ∀ reference, l.captured waybillId = some reference →
    (∃ j, r.settledBy = some (j, some reference)) ∨ ¬ l.Hindered r x

/-! ## The listener -/

/-- Where the call of a captured charge can stand. -/
def Listening (l : WaybillProc) : Prop :=
  match l.pc with
  | .start => l.flipped = false ∧ l.issues = []
  | .find _ caller | .confirm _ _ caller => caller = none ∧ l.flipped = false ∧ l.issues = []
  | .confirmed _ caller | .track _ caller | .notify _ caller => caller = none ∧ l.flipped = true
  | .done _ => True
  | _ => False

theorem captured_congr (h : l'.op = l.op) : l'.captured waybillId = l.captured waybillId := by
  rw [captured, captured, h]

/-- What the listener does with a captured charge. -/
theorem route_captured {body : WebhookBody} (now : Time) (hop : l.op = .webhook body)
    (hcap : l.captured waybillId = some reference) :
    (routeWebhook body = .waybillWithoutId ∧
      l.route waybillId now body = l.finish .acknowledged) ∨
    ∃ d : WaybillCharge, l.route waybillId now body =
      { l with charge := some d, reference := some reference, pc := .find d none } := by
  rw [captured, hop] at hcap
  dsimp only at hcap
  unfold route
  split at hcap
  · next id amount hroute =>
    split at hcap <;> cases hcap
    next hid =>
      refine Or.inr ⟨⟨now, amount⟩, ?_⟩
      rw [hroute]
      exact if_pos hid
  · next hroute =>
    rw [hroute]
    exact Or.inl ⟨rfl, rfl⟩
  · exact absurd hcap (by simp)

/-- Without an unpaid waybill `handlePaymentConfirmed` skips the charge. -/
theorem checkCharge_skips {d : WaybillCharge} {row : Option Waybill}
    (h : ∀ waybill, row = some waybill → waybill.paidAt ≠ none) :
    l.checkCharge d none row = l.finish .acknowledged := by
  unfold checkCharge
  cases row with
  | none => rfl
  | some waybill => exact if_pos (h waybill rfl)

/-- With one, it goes on to the update or reports the charge. -/
theorem checkCharge_unpaid (d : WaybillCharge) {row : Option Waybill}
    (h : ¬ ∀ waybill, row = some waybill → waybill.paidAt ≠ none) :
    (∃ waybill, l.checkCharge d none row = l.goto (.confirm d waybill none)) ∨
    ∃ issue, l.checkCharge d none row = (l.reportPaymentIssue issue).finish .acknowledged := by
  unfold checkCharge
  split
  · exact absurd (fun _ hw => absurd hw (by simp)) h
  · next waybill =>
    split
    · next hpaid =>
      refine absurd ?_ h
      intro waybill' hw
      cases hw
      exact hpaid
    · dsimp only
      split
      · exact Or.inr ⟨_, rfl⟩
      · exact Or.inl ⟨_, rfl⟩

theorem confirmPayment_eq_none {paidAt : Time} {row : Option Waybill} :
    Waybills.confirmPayment paidAt row = none ↔
      ∀ w, row = some w → Waybills.payable w = false := by
  cases row with
  | none => simp [Waybills.confirmPayment]
  | some w => simp [Waybills.confirmPayment]

/-- **What hinders the listener makes it drop the charge.** -/
theorem Hindered.step (hh : l.Hindered r x) (hl : l.Listening) :
    ∃ o, WaybillProc.step waybillId i l r x = some (l.finish o, r) := by
  unfold Hindered at hh
  unfold Listening at hl
  unfold WaybillProc.step
  split at hh
  · next hpc =>
    obtain ⟨body, hop, hroute⟩ := hh
    rw [hpc, hop]
    refine ⟨.acknowledged, ?_⟩
    dsimp only
    rw [route, hroute]
  · next d caller hpc =>
    rw [hpc] at hl ⊢
    obtain ⟨rfl, -⟩ := hl
    cases hfault : x.fault with
    | true => exact ⟨.logged dbFailed, rfl⟩
    | false =>
      rw [hfault] at hh
      refine ⟨.acknowledged, ?_⟩
      dsimp only
      rw [checkCharge_skips (hh.resolve_left Bool.false_ne_true)]
      rfl
  · next d waybill caller hpc =>
    rw [hpc] at hl ⊢
    obtain ⟨rfl, -⟩ := hl
    cases hfault : x.fault with
    | true => exact ⟨.logged dbFailed, rfl⟩
    | false =>
      rw [hfault] at hh
      refine ⟨.acknowledged, ?_⟩
      dsimp only
      rw [confirmPayment_eq_none.mpr (hh.resolve_left Bool.false_ne_true)]
      rfl
  · exact hh.elim

/-- Until then the call has neither confirmed nor reported anything. -/
theorem Hindered.silent (hh : l.Hindered r x) (hl : l.Listening) :
    l.flipped = false ∧ l.issues = [] := by
  unfold Hindered at hh
  unfold Listening at hl
  split at hh
  · next hpc =>
    rw [hpc] at hl
    exact hl
  · next hpc =>
    rw [hpc] at hl
    exact hl.2
  · next hpc =>
    rw [hpc] at hl
    exact hl.2
  · exact hh.elim

/-- **A step of the listener that nothing hinders.**  The call goes on, or ends when it has
confirmed the payment or reported it. -/
theorem Listening.step (hl : l.Listening) (hh : ¬ l.Hindered r x)
    (hcap : l.captured waybillId = some reference)
    (h : WaybillProc.step waybillId i l r x = some (l', r')) :
    l'.Listening ∧ (l'.IsDone → l'.Answered reference) := by
  unfold Hindered at hh
  unfold Listening at hl
  unfold WaybillProc.step at h
  split at hl
  · next hpc =>
    rw [hpc] at hh h
    dsimp only at hh h
    split at h
    · next body hop =>
      cases h
      rcases route_captured x.now hop hcap with ⟨hroute, -⟩ | ⟨d, heq⟩
      · exact absurd ⟨body, hop, hroute⟩ hh
      · rw [heq]
        exact ⟨⟨rfl, hl⟩, fun hdone => absurd hdone (by simp [IsDone])⟩
    all_goals
      next hop =>
      rw [captured, hop] at hcap
      exact absurd hcap (by simp)
  · next d caller hpc =>
    rw [hpc] at hh h
    obtain ⟨rfl, hsilent⟩ := hl
    obtain ⟨hfault, hrow⟩ := not_or.mp hh
    dsimp only at h
    rw [if_neg hfault] at h
    cases h
    rcases checkCharge_unpaid (l := l) d hrow with ⟨waybill, heq⟩ | ⟨issue, heq⟩
    · rw [heq]
      exact ⟨⟨rfl, hsilent⟩, fun hdone => absurd hdone (by simp [IsDone, goto])⟩
    · rw [heq]
      have hne : l.issues ++ [issue] ≠ [] := by simp
      exact ⟨trivial, fun _ => Or.inr hne⟩
  · next d waybill caller hpc =>
    rw [hpc] at hh h
    obtain ⟨rfl, -⟩ := hl
    obtain ⟨hfault, hrow⟩ := not_or.mp hh
    dsimp only at h
    rw [if_neg hfault] at h
    split at h
    · next hnone => exact absurd (confirmPayment_eq_none.mp hnone) hrow
    · cases h
      exact ⟨⟨rfl, rfl⟩, fun hdone => absurd hdone (by simp [IsDone])⟩
  · next waybill caller hpc =>
    rw [hpc] at h
    obtain ⟨rfl, hflip⟩ := hl
    dsimp only at h
    split at h <;> cases h
    · exact ⟨trivial, fun _ => Or.inl hflip⟩
    · exact ⟨⟨rfl, hflip⟩, fun hdone => absurd hdone (by simp [IsDone, goto])⟩
  · next waybill caller hpc =>
    rw [hpc] at h
    obtain ⟨rfl, hflip⟩ := hl
    dsimp only at h
    split at h <;> cases h
    · exact ⟨trivial, fun _ => Or.inl hflip⟩
    · exact ⟨⟨rfl, hflip⟩, fun hdone => absurd hdone (by simp [IsDone, goto])⟩
  · next waybill caller hpc =>
    rw [hpc] at h
    obtain ⟨rfl, hflip⟩ := hl
    cases h
    exact ⟨trivial, fun _ => Or.inl hflip⟩
  · next hpc =>
    rw [hpc] at h
    exact absurd h (by simp)
  · exact hl.elim

end WaybillProc

/-! ## All runs -/

/-- A waybill is paid once its payment has been confirmed. -/
theorem waybillIsPaid_of_settledBy (h : (waybills waybillId).Reachable c) :
    ∀ p, c.shared.settledBy = some p → WaybillIsPaid c := by
  refine h.invariant (P := fun m => ∀ p, m.shared.settledBy = some p → WaybillIsPaid m) ?_ ?_
  · intro m hm p hp
    rw [hm.1] at hp
    exact absurd hp (by simp)
  · intro m a m' hm hs p hp
    rcases Machine.next_cases hs with ⟨op, -, rfl⟩ | ⟨i, x, l, l', r', -, hi, hstep, rfl⟩ |
      ⟨data, r', -, henv, rfl⟩
    · exact hm p hp
    · cases WaybillProc.step_effect hstep with
      | quiet _ _ hrow hsettled =>
        obtain ⟨w, hw, hpaid⟩ := hm p (hsettled.symm.trans hp)
        exact ⟨w, hrow.trans hw, hpaid⟩
      | write o waybill w _ _ hrow =>
        obtain ⟨w', hw', hpaid⟩ := hm p hp
        rw [hrow, Option.some.injEq] at hw'
        subst hw'
        exact ⟨_, rfl, by simpa using hpaid⟩
      | setPaymentRef waybill ref w _ hrow =>
        obtain ⟨w', hw', hpaid⟩ := hm p hp
        rw [hrow, Option.some.injEq] at hw'
        subst hw'
        exact ⟨_, rfl, hpaid⟩
      | confirm => exact ⟨_, rfl, by simp⟩
    · obtain ⟨hrow, rfl⟩ := waybill_env henv
      obtain ⟨w, hw, -⟩ := hm p hp
      rw [hrow] at hw
      exact absurd hw (by simp)

/-- Once a call has confirmed the payment, no other does. -/
theorem waybill_settledBy_stays {a : Act WaybillOp WaybillInput (WaybillRequest × Time)}
    (h : (waybills waybillId).Reachable c) (hs : (waybills waybillId).step c a = some c')
    {p : ℕ × Option Ref} (hp : c.shared.settledBy = some p) : c'.shared.settledBy = some p := by
  rcases Machine.next_cases hs with ⟨o, -, rfl⟩ | ⟨i, x, l, l', r', -, hi, hstep, rfl⟩ |
    ⟨data, r', -, henv, rfl⟩
  · exact hp
  · cases WaybillProc.step_effect hstep with
    | quiet _ _ _ hsettled => exact hsettled.trans hp
    | confirm d waybill caller w _ hrow hpaid =>
      obtain ⟨w', hw', hpaid'⟩ := waybillIsPaid_of_settledBy h p hp
      rw [hrow, Option.some.injEq] at hw'
      subst hw'
      exact absurd hpaid hpaid'
    | _ => exact hp
  · obtain ⟨-, rfl⟩ := waybill_env henv
    exact hp

/-- The listener, as a process with an errand. -/
theorem waybillErrand (waybillId : WaybillId) :
    (waybillMachine waybillId).Errand (WaybillProc.captured waybillId) WaybillProc.Answered
      (fun reference r => ∃ j, r.settledBy = some (j, some reference)) WaybillProc.Hindered
      (fun r => r = ⟨none, [], [], none⟩) WaybillProc.IsDone WaybillProc.Listening where
  start op := fun ⟨_, ho⟩ => absurd ho (by simp [waybillMachine])
  fit_start _ _ _ := ⟨rfl, rfl⟩
  given_step _ _ _ _ _ _ hs := WaybillProc.captured_congr (WaybillProc.step_op hs)
  stays c a c' reference hr hs := fun ⟨j, hj⟩ => ⟨j, waybill_settledBy_stays hr hs hj⟩
  drops i l r x reference _ hl hh := by
    obtain ⟨o, hs⟩ := hh.step hl
    obtain ⟨hflip, hissues⟩ := hh.silent hl
    refine ⟨_, hs, trivial, ⟨o, rfl⟩, ?_⟩
    rintro (hflip' | hissue)
    · exact absurd (hflip.symm.trans hflip') Bool.false_ne_true
    · exact hissue hissues
  goes _ _ _ _ _ _ _ hcap hl hh hs := hl.step hh hcap hs

/-- **Which charges of a waybill are accounted for.** -/
theorem waybillCustody (waybillId : WaybillId) :
    (waybillMachine waybillId).Custody (fun r => r = ⟨none, [], [], none⟩) WaybillProc.IsDone
      (WaybillProc.Accounted waybillId) (WaybillProc.Unhindered waybillId) :=
  (waybillErrand waybillId).custody

end TransHub
