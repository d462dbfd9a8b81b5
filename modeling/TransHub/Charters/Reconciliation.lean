import TransHub.Charters.Payment
import TransHub.Foundation.Custody

/-!
# What becomes of the charges of a charter

A webhook of a captured charge is acknowledged before `processWebhookPayment` has run,
and what that throws is only logged.

* `CharterProc.captured`: the charge that a call is the webhook of.
* `CharterProc.Accounted`: the charge has confirmed the charter, repeats the one that
  has, or has been reported.
* `CharterProc.Unhindered`: the condition on a step.
* `charterCustody`: the condition decides.
-/

namespace TransHub

variable {charterId : CharterId} {i : ℕ} {l l' : CharterProc} {r r' : CharterDB}
  {x : CharterInput} {c c' : Config CharterDB CharterProc} {reference : Ref}

/-- The call is over. -/
def CharterProc.IsDone (l : CharterProc) : Prop := ∃ o, l.pc = .done o

namespace CharterProc

/-- The reference of the captured charge that a call is the webhook of: one for this
charter, or one that names no charter. -/
def captured (charterId : CharterId) (l : CharterProc) : Option Ref :=
  match l.op with
  | .webhook body => match routeWebhook body with
      | .charter id reference _ => if id = charterId then some reference else none
      | .charterWithoutId => some body.reference
      | _ => none
  | _ => none

/-- The call has confirmed the charter, or has reported the charge. -/
def Answered (l : CharterProc) (reference : Ref) : Prop :=
  l.flipped = true ∨ ∃ issue ∈ l.issues, issue.reference = some reference

/-- The captured charge is the one that has settled the charter, or the call has confirmed
it, or has reported the charge. -/
def Accounted (charterId : CharterId) (l : CharterProc) (r : CharterDB) : Prop :=
  ∀ reference, l.captured charterId = some reference →
    (∃ j, r.settledBy = some (j, reference)) ∨ l.Answered reference

/-- What makes the listener drop a charge: a webhook that names no charter, a statement that
fails, a charter that is unknown or settled when it is read, or one that cannot be paid when
it is updated. -/
def Hindered (l : CharterProc) (r : CharterDB) (x : CharterInput) : Prop :=
  match l.pc with
  | .start => ∃ body, l.op = .webhook body ∧ routeWebhook body = .charterWithoutId
  | .find _ _ => x.fault = true ∨ ∀ c, r.row = some c → Charters.settled c = true
  | .confirm _ _ _ _ => x.fault = true ∨ ∀ c, r.row = some c → Charters.payable c = false
  | _ => False

/-- The charge has settled the charter already, or nothing hinders the step. -/
def Unhindered (charterId : CharterId) (l : CharterProc) (r : CharterDB) (x : CharterInput) :
    Prop :=
  ∀ reference, l.captured charterId = some reference →
    (∃ j, r.settledBy = some (j, reference)) ∨ ¬ l.Hindered r x

/-! ## The listener -/

/-- Where the call of a captured charge can stand. -/
def Listening (charterId : CharterId) (l : CharterProc) : Prop :=
  match l.pc with
  | .start => l.flipped = false ∧ l.issues = []
  | .find d caller | .confirm d _ _ caller => caller = none ∧ l.flipped = false ∧ l.issues = [] ∧
      l.captured charterId = some d.reference
  | .notify _ _ caller => caller = none ∧ l.flipped = true
  | .done _ => True
  | _ => False

theorem captured_congr (h : l'.op = l.op) : l'.captured charterId = l.captured charterId := by
  rw [captured, captured, h]

/-- What the listener does with a captured charge. -/
theorem route_captured {body : WebhookBody} (now : Time) (hop : l.op = .webhook body)
    (hcap : l.captured charterId = some reference) :
    (routeWebhook body = .charterWithoutId ∧
      l.route charterId now body = l.finish .acknowledged) ∨
    ∃ d : CharterCharge, d.reference = reference ∧
      l.route charterId now body = { l with charge := some d, pc := .find d none } := by
  rw [captured, hop] at hcap
  dsimp only at hcap
  unfold route
  split at hcap
  · next id ref amount hroute =>
    split at hcap <;> cases hcap
    next hid =>
      refine Or.inr ⟨⟨reference, now, amount⟩, rfl, ?_⟩
      rw [hroute]
      exact if_pos hid
  · next hroute =>
    rw [hroute]
    exact Or.inl ⟨rfl, rfl⟩
  · exact absurd hcap (by simp)

/-- Without an unsettled charter `processWebhookPayment` skips the charge. -/
theorem checkCharge_skips {d : CharterCharge} {row : Option Charter}
    (h : ∀ charter, row = some charter → Charters.settled charter = true) :
    l.checkCharge d none row = l.finish .acknowledged := by
  unfold checkCharge
  cases row with
  | none => rfl
  | some charter => exact if_pos (h charter rfl)

/-- With one, it goes on to the update or reports the charge. -/
theorem checkCharge_unsettled (d : CharterCharge) {row : Option Charter}
    (h : ¬ ∀ charter, row = some charter → Charters.settled charter = true) :
    (∃ charter price, l.checkCharge d none row = l.goto (.confirm d charter price none)) ∨
    ∃ issue, issue.reference = some d.reference ∧
      l.checkCharge d none row = (l.reportPaymentIssue issue).finish .acknowledged := by
  unfold checkCharge
  split
  · exact absurd (fun _ hc => absurd hc (by simp)) h
  · next charter =>
    split
    · next hset =>
      refine absurd ?_ h
      intro charter' hc
      cases hc
      exact hset
    · split
      · exact Or.inr ⟨_, rfl, rfl⟩
      · dsimp only
        split
        · exact Or.inr ⟨_, rfl, rfl⟩
        · exact Or.inl ⟨_, _, rfl⟩

theorem confirmPayment_eq_none {paidAt : Time} {paidAmount : ℤ} {row : Option Charter} :
    Charters.confirmPayment paidAt paidAmount row = none ↔
      ∀ c, row = some c → Charters.payable c = false := by
  cases row with
  | none => simp [Charters.confirmPayment]
  | some c => simp [Charters.confirmPayment]

/-- **What hinders the listener makes it drop the charge.** -/
theorem Hindered.step (hh : l.Hindered r x) (hl : l.Listening charterId) :
    ∃ o, CharterProc.step charterId i l r x = some (l.finish o, r) := by
  unfold Hindered at hh
  unfold Listening at hl
  unfold CharterProc.step
  split at hh
  · next hpc =>
    obtain ⟨body, hop, hroute⟩ := hh
    rw [hpc, hop]
    refine ⟨.acknowledged, ?_⟩
    dsimp only
    rw [route, hroute]
  · next d caller hpc =>
    rw [hpc] at hl ⊢
    obtain ⟨rfl, -⟩ := hl
    cases hfault : x.fault with
    | true => exact ⟨.logged dbFailed, rfl⟩
    | false =>
      rw [hfault] at hh
      refine ⟨.acknowledged, ?_⟩
      dsimp only
      rw [checkCharge_skips (hh.resolve_left Bool.false_ne_true)]
      rfl
  · next d charter price caller hpc =>
    rw [hpc] at hl ⊢
    obtain ⟨rfl, -⟩ := hl
    cases hfault : x.fault with
    | true => exact ⟨.logged dbFailed, rfl⟩
    | false =>
      rw [hfault] at hh
      refine ⟨.acknowledged, ?_⟩
      dsimp only
      rw [confirmPayment_eq_none.mpr (hh.resolve_left Bool.false_ne_true)]
      rfl
  · exact hh.elim

/-- Until then the call has neither confirmed nor reported anything. -/
theorem Hindered.silent (hh : l.Hindered r x) (hl : l.Listening charterId) :
    l.flipped = false ∧ l.issues = [] := by
  unfold Hindered at hh
  unfold Listening at hl
  split at hh
  · next hpc =>
    rw [hpc] at hl
    exact hl
  · next hpc =>
    rw [hpc] at hl
    exact ⟨hl.2.1, hl.2.2.1⟩
  · next hpc =>
    rw [hpc] at hl
    exact ⟨hl.2.1, hl.2.2.1⟩
  · exact hh.elim

/-- **A step of the listener that nothing hinders.**  The call goes on, or ends when it has
confirmed the charter or reported the charge. -/
theorem Listening.step (hl : l.Listening charterId) (hh : ¬ l.Hindered r x)
    (hcap : l.captured charterId = some reference)
    (h : CharterProc.step charterId i l r x = some (l', r')) :
    l'.Listening charterId ∧ (l'.IsDone → l'.Answered reference) := by
  unfold Hindered at hh
  unfold Listening at hl
  unfold CharterProc.step at h
  split at hl
  · next hpc =>
    rw [hpc] at hh h
    dsimp only at hh h
    split at h
    · next body hop =>
      cases h
      rcases route_captured x.now hop hcap with ⟨hroute, -⟩ | ⟨d, rfl, heq⟩
      · exact absurd ⟨body, hop, hroute⟩ hh
      · rw [heq]
        exact ⟨⟨rfl, hl.1, hl.2, hcap⟩, fun hdone => absurd hdone (by simp [IsDone])⟩
    all_goals
      next hop =>
      rw [captured, hop] at hcap
      exact absurd hcap (by simp)
  · next d caller hpc =>
    rw [hpc] at hh h
    obtain ⟨rfl, hflip, hissues, hd⟩ := hl
    obtain ⟨hfault, hrow⟩ := not_or.mp hh
    rw [hcap, Option.some.injEq] at hd
    subst hd
    dsimp only at h
    rw [if_neg hfault] at h
    cases h
    rcases checkCharge_unsettled (l := l) d hrow with ⟨charter, price, heq⟩ | ⟨issue, hissue, heq⟩
    · rw [heq]
      exact ⟨⟨rfl, hflip, hissues, hcap⟩, fun hdone => absurd hdone (by simp [IsDone, goto])⟩
    · rw [heq]
      have hmem : issue ∈ l.issues ++ [issue] :=
        List.mem_append_right _ (List.mem_singleton_self issue)
      exact ⟨trivial, fun _ => Or.inr ⟨issue, hmem, hissue⟩⟩
  · next d charter price caller hpc =>
    rw [hpc] at hh h
    obtain ⟨rfl, -⟩ := hl
    obtain ⟨hfault, hrow⟩ := not_or.mp hh
    dsimp only at h
    rw [if_neg hfault] at h
    split at h
    · next hnone => exact absurd (confirmPayment_eq_none.mp hnone) hrow
    · cases h
      exact ⟨⟨rfl, rfl⟩, fun hdone => absurd hdone (by simp [IsDone])⟩
  · next charter price caller hpc =>
    rw [hpc] at h
    obtain ⟨rfl, hflip⟩ := hl
    cases h
    exact ⟨trivial, fun _ => Or.inl hflip⟩
  · next hpc =>
    rw [hpc] at h
    exact absurd h (by simp)
  · exact hl.elim

end CharterProc

/-! ## All runs -/

/-- Once a call has confirmed the charter, no other does. -/
theorem settledBy_stays {a : Act CharterOp CharterInput CharterRequest}
    (h : (charters charterId).Reachable c) (hs : (charters charterId).step c a = some c')
    {p : ℕ × Ref} (hp : c.shared.settledBy = some p) : c'.shared.settledBy = some p := by
  rcases Machine.next_cases hs with ⟨o, -, rfl⟩ | ⟨i, x, l, l', r', -, hi, hstep, rfl⟩ |
    ⟨data, r', -, henv, rfl⟩
  · exact hp
  · cases CharterProc.step_effect hstep with
    | confirm d charter price caller row hpc hrow hpaid hst =>
      rw [(charter_asserts h).1.settledBy_eq_none hrow hpaid] at hp
      exact absurd hp (by simp)
    | _ => exact hp
  · obtain ⟨-, rfl⟩ := charter_env henv
    exact hp

/-- The listener, as a process with an errand. -/
theorem charterErrand (charterId : CharterId) :
    (charterMachine charterId).Errand (CharterProc.captured charterId) CharterProc.Answered
      (fun reference r => ∃ j, r.settledBy = some (j, reference)) CharterProc.Hindered
      (fun r => r = ⟨none, [], none⟩) CharterProc.IsDone (CharterProc.Listening charterId) where
  start op := fun ⟨_, ho⟩ => absurd ho (by simp [charterMachine])
  fit_start _ _ _ := ⟨rfl, rfl⟩
  given_step _ _ _ _ _ _ hs := CharterProc.captured_congr (CharterProc.step_op hs)
  stays c a c' reference hr hs := fun ⟨j, hj⟩ => ⟨j, settledBy_stays hr hs hj⟩
  drops i l r x reference _ hl hh := by
    obtain ⟨o, hs⟩ := hh.step hl
    obtain ⟨hflip, hissues⟩ := hh.silent hl
    refine ⟨_, hs, trivial, ⟨o, rfl⟩, ?_⟩
    rintro (hflip' | ⟨issue, hissue, -⟩)
    · exact absurd (hflip.symm.trans hflip') Bool.false_ne_true
    · have hissue : issue ∈ l.issues := hissue
      rw [hissues] at hissue
      exact absurd hissue List.not_mem_nil
  goes _ _ _ _ _ _ _ hcap hl hh hs := hl.step hh hcap hs

/-- **Which charges of a charter are accounted for.** -/
theorem charterCustody (charterId : CharterId) :
    (charterMachine charterId).Custody (fun r => r = ⟨none, [], none⟩) CharterProc.IsDone
      (CharterProc.Accounted charterId) (CharterProc.Unhindered charterId) :=
  (charterErrand charterId).custody

end TransHub
