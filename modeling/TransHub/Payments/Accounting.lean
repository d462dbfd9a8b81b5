import TransHub.Payments.Confirmation

/-!
# Every booking charge is accounted for

Deliveries of any charges, whatever fails.

* `stepsLeft`, `stepsLeft_step`: a delivery ends after a bounded number of its steps.
* `Settling.Returned`, `Reported`, `Propagates`: the three ways to account for a charge.
* `charge_accounted_for`: a finished delivery has returned a confirmed booking, or has
  changed nothing and reported or thrown.
* `confirm_exception_reported_and_thrown`: reporting and throwing do not exclude each
  other.
-/

namespace TransHub

open Bookings (BookingDTO ConfirmInput Uuids)

variable {F : Prop} {Same : Charge → Prop} {i : ℕ} {l l' : Settling} {r r' : PayDB}
  {x : SettleInput} {c c' : Config PayDB Settling}

/-! ## Deliveries end -/

/-- An upper bound on the steps a delivery has left. -/
def stepsLeft (l : Settling) : ℕ :=
  match l.pc with
  | .done _ => 0
  | .notify _ _ _ | .recheck _ _ => 1
  | .book _ _ _ => 2
  | .locking _ _ todo _ => todo.length + 3
  | .select _ _ => l.charge.seatIds.length + 4
  | .confirmPrice _ => l.charge.seatIds.length + 5
  | .confirm _ => l.charge.seatIds.length + 6
  | .price _ _ _ => l.charge.seatIds.length + 7
  | .settle => l.charge.seatIds.length + 8
  | .verify _ => l.charge.seatIds.length + 9

theorem stepsLeft_finish (l : Settling) (o : SettleOutcome) : stepsLeft (l.finish o) = 0 := rfl

theorem stepsLeft_confirmThrows (l : Settling) (q : ConfirmCall) (e : Thrown) :
    stepsLeft (l.confirmThrows q e) = 0 := by
  unfold Settling.confirmThrows
  split <;> rfl

theorem stepsLeft_txThrows (l : Settling) (q : ConfirmCall) (e : Thrown) :
    stepsLeft (l.txThrows q e) ≤ 1 := by
  unfold Settling.txThrows
  dsimp only
  split
  · exact le_refl 1
  · rw [stepsLeft_confirmThrows]
    exact Nat.zero_le 1

theorem stepsLeft_checkAmount (l : Settling) (tripId : TripId) (seatIds : List SeatId)
    (userId : UserId) (passengers : Option (List PassengerInfoInput)) (price : Option ℤ) :
    stepsLeft (l.checkAmount tripId seatIds userId passengers price)
      ≤ l.charge.seatIds.length + 6 := by
  unfold Settling.checkAmount
  split
  · exact Nat.zero_le _
  · dsimp only
    split
    · exact Nat.zero_le _
    · exact le_refl _

theorem stepsLeft_checkMeta (l : Settling) :
    stepsLeft l.checkMeta ≤ l.charge.seatIds.length + 7 := by
  unfold Settling.checkMeta
  split
  · exact le_refl _
  · exact Nat.zero_le _

theorem stepsLeft_checkCaller (l : Settling) (caller : UserId) :
    stepsLeft (l.checkCaller caller) ≤ l.charge.seatIds.length + 8 := by
  unfold Settling.checkCaller
  split
  · exact Nat.zero_le _
  · exact le_refl _

/-- The rows that `lockAndMarkBooked` waits for are at most the wanted ones. -/
theorem length_lockRows_le (h : LedgerInv r.db) (tripId : TripId) (seatIds : List SeatId)
    (userId : UserId) :
    (Inventory.lockRows tripId seatIds userId r.db.seats).length ≤ seatIds.length := by
  have hnodup := Table.nodup_map_filter h.nodup_seatIds
    (Inventory.bookable tripId seatIds userId)
  refine (List.subperm_of_subset hnodup ?_).length_le
  intro y hy
  obtain ⟨s, -, -, -, hmem, -⟩ := Inventory.mem_lockRows.mp hy
  exact hmem

/-- Before the call of `confirm` there is more than that left. -/
theorem stepsLeft_early (h : l.pc.early = true) : l.charge.seatIds.length + 7 ≤ stepsLeft l := by
  unfold stepsLeft
  cases hpc : l.pc with
  | verify caller => exact Nat.add_le_add_left (by decide) _
  | settle => exact Nat.le_succ _
  | price tripId seatIds userId => exact le_refl _
  | _ => simp [SettlePc.early, hpc] at h

/-- How many steps a delivery has left depends on where it stands. -/
theorem stepsLeft_of_pc {pc : SettlePc} (hpc : l.pc = pc) :
    stepsLeft l = stepsLeft (l.goto pc) := by
  subst hpc
  rfl

/-- **Each step of a delivery brings it closer to its end.** -/
theorem stepsLeft_step (h : PayInv Same r) (hl : Holds F Same i l r)
    (hs : Settling.step i l r x = some (l', r')) : stepsLeft l' < stepsLeft l := by
  have hat := hl.at_pc
  unfold At at hat
  cases Settling.step_move hs with
  | fault hpc | settled booking hpc hfind =>
    have hearly := stepsLeft_early hpc
    rw [stepsLeft_finish]
    omega
  | forbidden caller hpc =>
    rw [stepsLeft_finish, stepsLeft_of_pc hpc]
    exact Nat.succ_pos _
  | checkCaller caller hpc =>
    rw [stepsLeft_of_pc hpc]
    exact Nat.lt_succ_of_le (stepsLeft_checkCaller l caller)
  | checkMeta hpc =>
    rw [stepsLeft_of_pc hpc]
    exact Nat.lt_succ_of_le (stepsLeft_checkMeta l)
  | checkAmount tripId seatIds userId hpc =>
    rw [stepsLeft_of_pc hpc]
    exact Nat.lt_succ_of_le (stepsLeft_checkAmount l tripId seatIds userId x.passengers
      (Bookings.findTripPrice tripId r.db))
  | throws q e hpc he =>
    rw [stepsLeft_confirmThrows]
    rcases hpc with hpc | hpc
    · rw [stepsLeft_of_pc hpc]
      exact Nat.succ_pos _
    · rw [stepsLeft_of_pc hpc]
      exact Nat.succ_pos _
  | present q booking hpc hfind =>
    rw [stepsLeft_finish, stepsLeft_of_pc hpc]
    exact Nat.succ_pos _
  | absent q hpc | priced q price hpc hprice | locked q totalAmount got hpc
  | commit q totalAmount got booking db hpc hfault hlen hfresh hok =>
    rw [stepsLeft_of_pc hpc]
    exact Nat.lt_succ_self _
  | select q totalAmount hpc =>
    rw [hpc] at hat
    have hrows := (length_lockRows_le h.ledger q.input.tripId q.input.seatIds
      q.userId).trans_eq (congrArg List.length hat.2.seatIds)
    rw [stepsLeft_of_pc hpc]
    exact Nat.add_lt_add_of_le_of_lt hrows (Nat.lt_succ_self 3)
  | selectFault q totalAmount hpc hfault | lockFault q totalAmount todo got hpc hfault
  | bookFault q totalAmount got hpc hfault =>
    rw [stepsLeft_of_pc hpc]
    exact (stepsLeft_txThrows l q Settling.dbFailed).trans_lt
      (Nat.succ_lt_succ (Nat.succ_pos _))
  | short q totalAmount got hpc =>
    rw [stepsLeft_of_pc hpc]
    exact (stepsLeft_txThrows l q Settling.seatsGone).trans_lt Nat.one_lt_two
  | refused q totalAmount got e hpc hlen hfresh herr =>
    rw [stepsLeft_of_pc hpc]
    exact (stepsLeft_txThrows l q e).trans_lt Nat.one_lt_two
  | lock q totalAmount y todo got hpc hfree hmem | skip q totalAmount y todo got hpc =>
    rw [stepsLeft_of_pc hpc]
    exact Nat.add_lt_add_right (Nat.lt_succ_self _) 3
  | recheckFault q e hpc hfault | conflict q e hpc hnone =>
    rw [stepsLeft_confirmThrows, stepsLeft_of_pc hpc]
    exact Nat.one_pos
  | raced q e booking hpc hfind | notify q totalAmount booking hpc =>
    rw [stepsLeft_finish, stepsLeft_of_pc hpc]
    exact Nat.one_pos

/-- A delivery that has not ended can go on: a statement that waits for a row may fail. -/
theorem can_step (hdone : ∀ o, l.pc ≠ .done o) :
    ∃ x l' r', Settling.step i l r x = some (l', r') := by
  refine ⟨⟨true, none, ⟨0, fun _ => 0, fun _ => 0⟩⟩, ?_⟩
  cases hpc : l.pc with
  | done o => exact absurd hpc (hdone o)
  | _ =>
    rw [Settling.step, hpc]
    exact ⟨_, _, rfl⟩

/-! ## How they end -/

namespace Settling

/-- A confirmed booking of the reference exists and is returned. -/
def Returned (l : Settling) (r : PayDB) : Prop :=
  ∃ booking, l.pc = .done (.returned booking) ∧ ∃ b ∈ r.db.bookings,
    b.paymentRef = some l.charge.reference ∧ b.status = .confirmed ∧
      booking = Bookings.toDTO r.db b

/-- `reportPaymentIssue` was called for the reference, with a code or an exception. -/
def Reported (l : Settling) : Prop :=
  ∃ issue ∈ l.issues, issue.reference = some l.charge.reference ∧
    ((∃ code : SettleCode, issue.context.code = some code.text) ∨ ∃ e, issue.error = some e)

/-- An error propagates, so that the webhook is not acknowledged. -/
def Propagates (l : Settling) : Prop := ∃ e, l.pc = .done (.thrown e)

/-- The delivery is inside `bookingsService.confirm`. -/
def insideConfirm (l : Settling) : Bool :=
  match l.pc with
  | .confirm _ | .confirmPrice _ | .select _ _ | .locking _ _ _ _ | .book _ _ _
  | .recheck _ _ | .notify _ _ _ => true
  | .verify _ | .settle | .price _ _ _ | .done _ => false

end Settling

/-- **The ways a delivery ends.** -/
theorem ended_cases (h : PayInv Same r) (hl : Holds F Same i l r) {o : SettleOutcome}
    (hpc : l.pc = .done o) :
    (l.Returned r ∧ ¬ l.Reported ∧ ¬ l.Propagates) ∨
    (¬ l.Returned r ∧ (l.Reported ∨ l.Propagates) ∧ l.issues.length ≤ 1 ∧ NotWon i r) := by
  have hat := hl.at_pc
  rw [At, hpc] at hat
  cases hat with
  | returned booking hissues hf =>
    obtain ⟨b, hb, href, rfl⟩ := hf
    refine Or.inl ⟨⟨_, hpc, b, hb, href, h.ledger.confirmed b hb, rfl⟩, ?_, ?_⟩
    · rintro ⟨issue, hmem, -⟩
      rw [hissues] at hmem
      exact absurd hmem (by simp)
    · rintro ⟨e, he⟩
      exact absurd (hpc.symm.trans he) (by simp)
  | failed reason code issue hwon hissues href hcode _ =>
    refine Or.inr ⟨?_, Or.inl ⟨issue, by simp [hissues], href, Or.inl ⟨code, hcode⟩⟩,
      by simp [hissues], hwon⟩
    rintro ⟨booking, hb, -⟩
    exact absurd (hpc.symm.trans hb) (by simp)
  | thrown e hwon hissues _ =>
    refine Or.inr ⟨?_, Or.inr ⟨e, hpc⟩, ?_, hwon⟩
    · rintro ⟨booking, hb, -⟩
      exact absurd (hpc.symm.trans hb) (by simp)
    · rcases hissues with hnil | ⟨issue, hone, -⟩
      · simp [hnil]
      · simp [hone]

/-- A step that changes a table makes its delivery a winner. -/
theorem step_db_won (hs : Settling.step i l r x = some (l', r')) :
    r'.db = r.db ∨ ∃ w ∈ r'.winners, w.1 = i := by
  cases (Settling.step_effect hs).2 with
  | none => exact Or.inl rfl
  | lock => exact Or.inl rfl
  | unlock => exact Or.inl rfl
  | commit => exact Or.inr ⟨_, List.mem_cons_self, rfl⟩
  | emit => exact Or.inl rfl

/-- Who has won stays a winner. -/
theorem winners_leads (h : payments.Reachable c) (hl : payments.Leads c c')
    {w : ℕ × Charge} (hw : w ∈ c.shared.winners) : w ∈ c'.shared.winners := by
  refine hl.stable (P := fun m => w ∈ m.shared.winners) h ?_ hw
  intro m a m' hm hP hs
  obtain ⟨hinv, hall⟩ := pay_asserts_any hm
  rcases Machine.next_cases hs with ⟨d, rfl, rfl⟩ | ⟨j, x, l, l', r', rfl, hj, hstep, rfl⟩ |
    ⟨a, r', rfl, henv, rfl⟩
  · exact hP
  · exact (rely_of_effect hinv (hall j l hj) (Settling.step_effect hstep).2
      (Nat.succ_ne_self j)).winners w hP
  · exact (rely_of_env hinv henv 0).winners w hP

/-- **A delivery that returns nothing has changed nothing.** -/
theorem unwon_step (h : payments.Reachable c) {c'' : Config PayDB Settling}
    (hs : payments.step c (.run i x) = some c') (hl : payments.Leads c' c'')
    (hwon : NotWon i c''.shared) : c'.shared.db = c.shared.db := by
  have hreach := h.step hs
  obtain ⟨l, l', r', hi, hstep, rfl⟩ := Machine.next_run.mp hs
  refine (step_db_won hstep).resolve_right fun ⟨w, hw, hwi⟩ => ?_
  exact hwon w (winners_leads hreach hl hw) hwi

namespace Settling

theorem reported_confirmThrows (l : Settling) (q : ConfirmCall) (e : Thrown) :
    (l.confirmThrows q e).Reported := by
  unfold confirmThrows
  split
  · exact ⟨_, List.mem_append_right _ (List.mem_singleton.mpr rfl), rfl, Or.inl ⟨.seatsGone, rfl⟩⟩
  · exact ⟨_, List.mem_append_right _ (List.mem_singleton.mpr rfl), rfl, Or.inr ⟨e, rfl⟩⟩

theorem reported_txThrows {l : Settling} {q : ConfirmCall} {e : Thrown} {o : SettleOutcome}
    (h : (l.txThrows q e).pc = .done o) : (l.txThrows q e).Reported := by
  unfold txThrows at h ⊢
  dsimp only at h ⊢
  split at h
  · exact absurd h (by simp [goto])
  · next hconf =>
    rw [if_neg hconf]
    exact reported_confirmThrows _ _ _

theorem not_reported (h : l.issues = []) : ¬ l.Reported := by
  rintro ⟨issue, hmem, -⟩
  rw [h] at hmem
  exact absurd hmem (by simp)

/-- Only `verify` throws before `confirm`, apart from statements that fail. -/
theorem thrown_checkCaller {l : Settling} {caller : UserId} {e : Thrown}
    (h : (l.checkCaller caller).pc = .done (.thrown e)) :
    (l.checkCaller caller).issues = l.issues := by
  unfold checkCaller at h ⊢
  split at h
  · next hother => rw [if_pos hother]; rfl
  · exact absurd h (by simp [goto])

theorem checkMeta_pc_ne (l : Settling) (e : Thrown) : l.checkMeta.pc ≠ .done (.thrown e) := by
  unfold checkMeta
  split
  · simp [goto]
  · simp [failMeta, fail, finish]

theorem checkAmount_pc_ne (l : Settling) (tripId : TripId) (seatIds : List SeatId)
    (userId : UserId) (passengers : Option (List PassengerInfoInput)) (price : Option ℤ)
    (e : Thrown) :
    (l.checkAmount tripId seatIds userId passengers price).pc ≠ .done (.thrown e) := by
  unfold checkAmount
  split
  · simp [failTrip, fail, finish]
  · dsimp only
    split
    · simp [failAmount, fail, finish]
    · simp [goto]

end Settling

theorem insideConfirm_of_early (h : l.pc.early = true) : l.insideConfirm = false := by
  unfold Settling.insideConfirm
  cases hpc : l.pc with
  | verify | settle | price => rfl
  | _ => simp [SettlePc.early, hpc] at h

/-- A delivery that goes on stands before the call of `confirm` or in it. -/
theorem early_or_insideConfirm (hs : Settling.step i l r x = some (l', r')) :
    l.pc.early = true ∨ l.insideConfirm = true := by
  unfold Settling.insideConfirm
  cases hpc : l.pc with
  | verify | settle | price => exact Or.inl rfl
  | done o =>
    rw [Settling.step, hpc] at hs
    cases hs
  | _ => exact Or.inr rfl

/-- Before the call of `confirm` an exception comes from a statement or from `verify`, and
nothing is reported. -/
theorem thrown_outside (hl : Holds F Same i l r)
    (hs : Settling.step i l r x = some (l', r')) {e : Thrown} (hpc : l'.pc = .done (.thrown e))
    (hearly : l.pc.early = true) : l'.issues = [] := by
  have hissues := (hl.fresh hearly).issues
  cases Settling.step_move hs with
  | fault | forbidden | settled => exact hissues
  | checkCaller caller => exact (Settling.thrown_checkCaller hpc).trans hissues
  | checkMeta => exact absurd hpc (Settling.checkMeta_pc_ne l e)
  | checkAmount => exact absurd hpc (Settling.checkAmount_pc_ne l _ _ _ _ _ e)
  | throws q e' hpc' => rcases hpc' with hpc' | hpc' <;> simp [hpc', SettlePc.early] at hearly
  | _ => simp_all [SettlePc.early]

/-- An exception that leaves the call of `confirm` is reported. -/
theorem thrown_inside (hs : Settling.step i l r x = some (l', r')) {e : Thrown}
    (hpc : l'.pc = .done (.thrown e)) (hin : l.insideConfirm = true) : l'.Reported := by
  have hlate : ¬ l.pc.early = true := fun hearly => by
    rw [insideConfirm_of_early hearly] at hin
    exact absurd hin (by simp)
  cases Settling.step_move hs with
  | fault hpc' => exact absurd hpc' hlate
  | forbidden caller hpc' => exact absurd (by rw [hpc']; rfl) hlate
  | checkCaller caller hpc' => exact absurd (by rw [hpc']; rfl) hlate
  | checkMeta hpc' => exact absurd (by rw [hpc']; rfl) hlate
  | checkAmount tripId seatIds userId hpc' => exact absurd (by rw [hpc']; rfl) hlate
  | throws | recheckFault | conflict => exact Settling.reported_confirmThrows _ _ _
  | selectFault | lockFault | bookFault | short | refused =>
    exact Settling.reported_txThrows hpc
  | _ => cases hpc

/-- **An exception is reported exactly when it leaves `bookingsService.confirm`.** -/
theorem thrown_reported (hl : Holds F Same i l r)
    (hs : Settling.step i l r x = some (l', r')) {e : Thrown} (hpc : l'.pc = .done (.thrown e)) :
    l'.Reported ↔ l.insideConfirm = true := by
  by_cases hin : l.insideConfirm = true
  · exact iff_of_true (thrown_inside hs hpc hin) hin
  · have hearly : l.pc.early = true := by
      rcases early_or_insideConfirm hs with hearly | hinside
      · exact hearly
      · exact absurd hinside hin
    exact iff_of_false (Settling.not_reported (thrown_outside hl hs hpc hearly)) hin

/-! ## All runs -/

/-- **Every booking charge is accounted for.**  A delivery that has not ended can go on,
and it ends after at most `stepsLeft` of its steps.  Once it has ended, either it has
returned a confirmed booking of its reference and reported and thrown nothing; or it has
returned none and has reported an issue, once, or thrown, and none of its steps has
changed a table.  It has done both exactly when an exception left
`bookingsService.confirm`. -/
theorem charge_accounted_for (h : payments.Reachable c) (hi : c.procs[i]? = some l) :
    ((∀ o, l.pc ≠ .done o) → ∃ x c', payments.step c (.run i x) = some c') ∧
    (∀ acts c', payments.run c acts = some c' →
      acts.countP (Machine.isRunOf i) ≤ stepsLeft l) ∧
    (∀ o, l.pc = .done o →
      (l.Returned c.shared ∧ ¬ l.Reported ∧ ¬ l.Propagates) ∨
      (¬ l.Returned c.shared ∧ (l.Reported ∨ l.Propagates) ∧ l.issues.length ≤ 1 ∧
        ∀ c₀ x c₁, payments.Reachable c₀ → payments.step c₀ (.run i x) = some c₁ →
          payments.Leads c₁ c → c₁.shared.db = c₀.shared.db)) ∧
    (∀ x c' l' e, payments.step c (.run i x) = some c' → c'.procs[i]? = some l' →
      l'.pc = .done (.thrown e) → (l'.Reported ↔ l.insideConfirm = true)) := by
  obtain ⟨hinv, hall⟩ := pay_asserts_any h
  have hl := hall i l hi
  refine ⟨?_, ?_, ?_, ?_⟩
  · intro hdone
    obtain ⟨x, l', r', hs⟩ : ∃ x l' r', Settling.step i l c.shared x = some (l', r') :=
      can_step hdone
    exact ⟨x, _, Machine.next_run.mpr ⟨l, l', r', hi, hs, rfl⟩⟩
  · intro acts c' hrun
    obtain ⟨l', -, hle⟩ := Machine.countP_isRunOf_le (μ := stepsLeft)
      (fun m j k x k' r' hm hj hs =>
        stepsLeft_step (pay_asserts_any hm).1 ((pay_asserts_any hm).2 j k hj) hs) h hi hrun
    exact Nat.le_of_add_right_le hle
  · intro o hpc
    exact (ended_cases hinv hl hpc).imp_right fun ⟨hret, hacc, hlen, hwon⟩ =>
      ⟨hret, hacc, hlen, fun c₀ x c₁ h₀ hs hleads => unwon_step h₀ hs hleads hwon⟩
  · intro x c' l' e hs hi' hpc
    obtain ⟨k', r', hlocal, rfl, hself⟩ := Machine.step_of_next_run hi hs
    obtain rfl := Option.some.inj (hself.symm.trans hi')
    exact thrown_reported hl hlocal hpc

/-! ## One run -/

/-- One delivery, in whose transaction a statement fails. -/
def faultRun : List (Act Charge SettleInput Attempt) :=
  [.env ⟨.createTrip 1 (fun i => 10 + i) twoSeats 3, false⟩, .spawn (raceCharge 99)] ++
  List.replicate 5 (.run 0 plain) ++ [.run 0 { plain with fault := true }]

theorem faultRun_runs : (payments.run raceStart faultRun).isSome = true := by
  decide +kernel

/-- Where it ends. -/
def faultEnd : Config PayDB Settling := (payments.run raceStart faultRun).get faultRun_runs

theorem faultEnd_reachable : payments.Reachable faultEnd :=
  ⟨raceStart, ⟨⟨[7, 8], rfl⟩, rfl⟩, faultRun, (Option.some_get _).symm⟩

/-- The delivery of `faultRun` at its end. -/
def faulted : Settling where
  charge := raceCharge 99
  pc := .done (.thrown Settling.dbFailed)
  issues := [{
    type := .booking
    stage := .webhook
    reference := some 99
    userId := some 7
    error := some Settling.dbFailed
    context := { tripId := some 1 } }]
  rolledBack := some Settling.dbFailed

theorem faultEnd_procs : faultEnd.procs[0]? = some faulted := by
  decide +kernel

theorem charge_accounted_for_fault : faulted.pc = .done (.thrown Settling.dbFailed) ∧
    (faulted.Reported ∨ faulted.Propagates) :=
  ⟨rfl, ((charge_accounted_for faultEnd_reachable faultEnd_procs).2.2.1 _ rfl).elim
    (fun h => absurd ⟨_, rfl⟩ h.2.2) fun h => h.2.1⟩

/-- **Reporting and throwing do not exclude each other.** -/
theorem confirm_exception_reported_and_thrown :
    ¬ ∀ (c : Config PayDB Settling) (i : ℕ) (l : Settling) (o : SettleOutcome),
      payments.Reachable c → c.procs[i]? = some l → l.pc = .done o →
      (l.Returned c.shared ∧ ¬ l.Reported ∧ ¬ l.Propagates) ∨
      (¬ l.Returned c.shared ∧ l.Reported ∧ ¬ l.Propagates) ∨
      (¬ l.Returned c.shared ∧ ¬ l.Reported ∧ l.Propagates) := by
  intro h
  have hrep : faulted.Reported := ⟨_, List.mem_cons_self, rfl, Or.inr ⟨_, rfl⟩⟩
  have hprop : faulted.Propagates := ⟨_, rfl⟩
  rcases h faultEnd 0 faulted _ faultEnd_reachable faultEnd_procs rfl with h | h | h
  · exact h.2.2 hprop
  · exact h.2.2 hprop
  · exact h.2.1 hrep

end TransHub
