import TransHub.Waybills.Lifecycle

/-!
# No parcel moves unpaid

What every interleaving of calls on one waybill keeps.

* `WaybillInv`: the row is paid exactly when one call has confirmed it, a waybill that is
  on its way is paid, and `waybill.paid` is emitted at most once.
* `WaybillProc.Holds`: what each call may rely on where it stands; a status update that
  has read a paid waybill finds it paid when it writes.
* `waybillOutline`: the outline.
* `WaybillDelivered`: a success event, as the moves of a run have brought it; `WaybillRead`:
  the rows that such an event has been compared with.
* `waybill_moves_paid`: the statement over all runs.
-/

namespace TransHub

variable {waybillId : WaybillId} {i : ℕ} {l l' : WaybillProc} {r r' : WaybillDB}
  {x : WaybillInput} {c c' c₀ : Config WaybillDB WaybillProc}

/-- The statuses of a waybill that counts as paid. -/
def WaybillStatus.moving : List WaybillStatus := paid :: shipped

/-- The transitions of the operations lead there only from there. -/
theorem WaybillWrite.moving_of_target {o : WaybillWrite} {s : WaybillStatus}
    (ht : o.target ∈ s.validTransitions) (hmove : o.target ∈ WaybillStatus.moving) :
    s ∈ WaybillStatus.moving := by
  have hback : ∀ s t : WaybillStatus, t ∈ s.validTransitions → t ∈ WaybillStatus.moving →
      t = .paid ∨ s ∈ WaybillStatus.moving := by
    decide
  rcases hback s o.target ht hmove with hpaid | hs
  · -- no operation writes `paid` by id
    cases o with
    | sendQuote data => cases hpaid
    | updateWaybillStatus requester data =>
      have hmem := data.status_mem
      have hst : data.status = .paid := hpaid
      rw [hst] at hmem
      exact absurd hmem (by decide)
  · exact hs

/-! ## Assertions -/

/-- The stored row is a paid one. -/
def WaybillDB.Paid (r : WaybillDB) : Prop := ∃ w, r.row = some w ∧ w.paidAt.isSome = true

/-- A paid row stays, with the same `paidAt`. -/
def WaybillDB.KeepsPayment (r r' : WaybillDB) : Prop :=
  ∀ w, r.row = some w → w.paidAt.isSome = true →
    ∃ w', r'.row = some w' ∧ w'.paidAt = w.paidAt

/-- The `waybill.paid` events so far. -/
def WaybillDB.announced (r : WaybillDB) : List WaybillNotice :=
  r.emitted.filter WaybillNotice.isPaid

/-- The assertion on the row and its history. -/
structure WaybillInv (r : WaybillDB) : Prop where
  unpaid : r.settledBy = none → ∀ w, r.row = some w → w.paidAt = none
  paid : ∀ p, r.settledBy = some p → r.Paid
  moving : ∀ w, r.row = some w → w.status ∈ WaybillStatus.moving → w.paidAt.isSome = true
  silent : r.settledBy = none → r.announced = []
  announced : r.announced.length ≤ 1

namespace WaybillProc

/-- What holds at each place a call can stand at. -/
def At (l : WaybillProc) (r : WaybillDB) : Prop :=
  match l.pc with
  | .start | .lookup _ _ | .confirm _ _ _ => l.flipped = false
  | .write o waybill => o.target ∈ waybill.status.validTransitions ∧
      (waybill.status ∈ WaybillStatus.moving → r.Paid)
  | .find d _ => l.flipped = false ∧ l.charge = some d
  | .confirmed _ _ | .track _ _ | .notify _ _ => l.flipped = true ∧ r.announced = []
  | .written _ | .initializeFn _ | .setPaymentRef _ _ | .reread _ | .done _ => True

/-- The assertion on the `i`-th call. -/
structure Holds (i : ℕ) (l : WaybillProc) (r : WaybillDB) : Prop where
  at_pc : l.At r
  flipped : l.flipped = true ↔ ∃ ref, r.settledBy = some (i, ref)

end WaybillProc

/-! ## Preservation -/

/-- A change of the row that leaves a set `paidAt` as it is keeps the payment. -/
theorem WaybillDB.keepsPayment_of_row {w w' : Waybill} (hrow : r.row = some w)
    (hrow' : r'.row = some w') (hpaid : w'.paidAt = w.paidAt) : r.KeepsPayment r' := by
  intro w₀ hw₀ _
  rw [hrow, Option.some.injEq] at hw₀
  subst hw₀
  exact ⟨w', hrow', hpaid⟩

theorem WaybillDB.keepsPayment_of_eq (hrow : r'.row = r.row) : r.KeepsPayment r' :=
  fun w hw _ => ⟨w, hrow.trans hw, rfl⟩

theorem WaybillDB.Paid.keeps (h : r.Paid) (hk : r.KeepsPayment r') : r'.Paid := by
  obtain ⟨w, hw, hpaid⟩ := h
  obtain ⟨w', hw', hpaid'⟩ := hk w hw hpaid
  refine ⟨w', hw', ?_⟩
  rw [hpaid']
  exact hpaid

/-- **A step keeps a payment.** -/
theorem WaybillMove.keepsPayment (hm : WaybillMove waybillId i l r x l' r') :
    r.KeepsPayment r' := by
  cases hm with
  | idle => exact WaybillDB.keepsPayment_of_eq rfl
  | check => exact WaybillDB.keepsPayment_of_eq rfl
  | ask => exact WaybillDB.keepsPayment_of_eq rfl
  | arrive => exact WaybillDB.keepsPayment_of_eq rfl
  | agree => exact WaybillDB.keepsPayment_of_eq rfl
  | write o waybill w hpc hfault hrow => exact WaybillDB.keepsPayment_of_row hrow rfl (by simp)
  | setPaymentRef waybill reference w hpc hrow => exact WaybillDB.keepsPayment_of_row hrow rfl rfl
  | confirm d waybill caller w hpc hrow hpaid hst =>
    intro w₀ hw₀ hsome
    rw [hrow, Option.some.injEq] at hw₀
    rw [← hw₀, hpaid] at hsome
    exact absurd hsome (by simp)
  | record => exact WaybillDB.keepsPayment_of_eq rfl
  | track => exact WaybillDB.keepsPayment_of_eq rfl
  | notify => exact WaybillDB.keepsPayment_of_eq rfl

/-- The assertion on the row speaks of no more than these. -/
theorem WaybillInv.of_eq (h : WaybillInv r) (hrow : r'.row = r.row)
    (hsettled : r'.settledBy = r.settledBy) (hann : r'.announced = r.announced) :
    WaybillInv r' where
  unpaid hnone w hw := h.unpaid (hsettled ▸ hnone) w (hrow ▸ hw)
  paid p hp := (h.paid p (hsettled ▸ hp)).keeps (WaybillDB.keepsPayment_of_eq hrow)
  moving w hw := h.moving w (hrow ▸ hw)
  silent hnone := hann.trans (h.silent (hsettled ▸ hnone))
  announced := hann ▸ h.announced

/-- A write that leaves `paidAt` and the history alone, and makes no unpaid waybill a
moving one. -/
theorem WaybillInv.of_row (h : WaybillInv r) {w w' : Waybill} (hrow : r.row = some w)
    (hrow' : r'.row = some w') (hpaid : w'.paidAt = w.paidAt)
    (hmove : w'.status ∈ WaybillStatus.moving → w.paidAt.isSome = true)
    (hsettled : r'.settledBy = r.settledBy) (hann : r'.announced = r.announced) :
    WaybillInv r' where
  unpaid hnone w₀ hw₀ := by
    rw [hrow', Option.some.injEq] at hw₀
    rw [← hw₀, hpaid]
    exact h.unpaid (hsettled ▸ hnone) w hrow
  paid p hp := (h.paid p (hsettled ▸ hp)).keeps (WaybillDB.keepsPayment_of_row hrow hrow' hpaid)
  moving w₀ hw₀ hst := by
    rw [hrow', Option.some.injEq] at hw₀
    subst hw₀
    rw [hpaid]
    exact hmove hst
  silent hnone := hann.trans (h.silent (hsettled ▸ hnone))
  announced := hann ▸ h.announced

/-- Nobody has confirmed a waybill whose row is unpaid. -/
theorem WaybillInv.settledBy_eq_none (h : WaybillInv r) {w : Waybill} (hrow : r.row = some w)
    (hpaid : w.paidAt = none) : r.settledBy = none := by
  cases hs : r.settledBy with
  | none => rfl
  | some p =>
    obtain ⟨w₀, hrow₀, hpaid₀⟩ := h.paid p hs
    rw [hrow, Option.some.injEq] at hrow₀
    rw [← hrow₀, hpaid] at hpaid₀
    exact absurd hpaid₀ (by simp)

/-- **A step keeps the assertion on the row.** -/
theorem WaybillInv.move (h : WaybillInv r) (hl : l.Holds i r)
    (hm : WaybillMove waybillId i l r x l' r') : WaybillInv r' := by
  have hat := hl.at_pc
  unfold WaybillProc.At at hat
  cases hm with
  | idle _ _ hemitted => exact h.of_eq rfl rfl hemitted
  | check => exact h
  | ask => exact h
  | arrive => exact h
  | agree => exact h
  | write o waybill w hpc hfault hrow =>
    rw [hpc] at hat
    refine h.of_row hrow rfl (by simp) ?_ rfl rfl
    intro hmove
    rw [WaybillWrite.write_status] at hmove
    have hread := WaybillWrite.moving_of_target hat.1 hmove
    obtain ⟨w₀, hw₀, hpaid⟩ := hat.2 hread
    rw [hrow, Option.some.injEq] at hw₀
    rw [hw₀]
    exact hpaid
  | setPaymentRef waybill reference w hpc hrow =>
    exact h.of_row hrow rfl rfl (fun hmove => h.moving w hrow hmove) rfl rfl
  | confirm d waybill caller w hpc hrow hpaid hst =>
    refine ⟨fun hnone => absurd hnone (by simp), fun p _ => ⟨_, rfl, rfl⟩, ?_,
      fun hnone => absurd hnone (by simp), h.announced⟩
    intro w₀ hw₀ _
    cases hw₀
    rfl
  | record => exact h.of_eq rfl rfl rfl
  | track _ _ _ hemitted => exact h.of_eq rfl rfl hemitted
  | notify waybill caller hpc =>
    rw [hpc] at hat
    obtain ⟨hflip, hnone⟩ := hat
    obtain ⟨ref, hsettled⟩ := hl.flipped.mp hflip
    have hone : ({ r with emitted := r.emitted ++ [.paid waybill x.email] } :
        WaybillDB).announced.length = 1 := by
      have hfilter : r.emitted.filter WaybillNotice.isPaid = [] := hnone
      rw [WaybillDB.announced, List.filter_append, hfilter]
      rfl
    refine ⟨h.unpaid, h.paid, h.moving, ?_, hone.le⟩
    intro hnone'
    have hnone' : r.settledBy = none := hnone'
    rw [hsettled] at hnone'
    exact absurd hnone' (by simp)

namespace WaybillProc

theorem At.of_idle (h : l.pc.idle = true) : l.At r := by
  unfold At
  split
  all_goals first
    | trivial
    | next hpc =>
      rw [hpc] at h
      exact absurd h Bool.false_ne_true

theorem returns_idle (l : WaybillProc) (caller : Option Waybill) :
    (l.returns caller).pc.idle = true := by
  cases caller <;> rfl

@[simp] theorem returns_flipped (l : WaybillProc) (caller : Option Waybill) :
    (l.returns caller).flipped = l.flipped := by
  cases caller <;> rfl

@[simp] theorem returns_charge (l : WaybillProc) (caller : Option Waybill) :
    (l.returns caller).charge = l.charge := by
  cases caller <;> rfl

@[simp] theorem returns_op (l : WaybillProc) (caller : Option Waybill) :
    (l.returns caller).op = l.op := by
  cases caller <;> rfl

/-- A call goes to an idle place, while nothing that its history speaks of changes. -/
theorem Holds.idle (hl : l.Holds i r) (hflip : l'.flipped = l.flipped)
    (hidle : l'.pc.idle = true) : l'.Holds i r where
  at_pc := .of_idle hidle
  flipped := by rw [hflip]; exact hl.flipped

/-- A call that goes on and keeps its history needs to check its new place only. -/
theorem Holds.goto (hl : l.Holds i r) {pc : WaybillPc} (hat : (l.goto pc).At r) :
    (l.goto pc).Holds i r :=
  ⟨hat, hl.flipped⟩

/-- A call may stay where it is while no payment is lost and, once it has confirmed the
waybill, nothing more is announced. -/
theorem At.congr (hat : l.At r) (hpaid : r.Paid → r'.Paid)
    (hann : l.flipped = true → r'.announced = r.announced) : l.At r' := by
  unfold At at hat ⊢
  split
  · next hpc => rw [hpc] at hat; exact hat
  · next hpc => rw [hpc] at hat; exact hat
  · next hpc => rw [hpc] at hat; exact hat
  · next hpc => rw [hpc] at hat; exact ⟨hat.1, fun hmove => hpaid (hat.2 hmove)⟩
  · next hpc => rw [hpc] at hat; exact hat
  · next hpc => rw [hpc] at hat; exact ⟨hat.1, (hann hat.1).trans hat.2⟩
  · next hpc => rw [hpc] at hat; exact ⟨hat.1, (hann hat.1).trans hat.2⟩
  · next hpc => rw [hpc] at hat; exact ⟨hat.1, (hann hat.1).trans hat.2⟩
  all_goals trivial

/-- The assertion outlives a change that keeps payments and the history. -/
theorem Holds.congr (hl : l.Holds i r) (hrow : r.KeepsPayment r')
    (hsettled : r'.settledBy = r.settledBy) (hann : r'.announced = r.announced) :
    l.Holds i r' where
  at_pc := hl.at_pc.congr (fun hpaid => hpaid.keeps hrow) fun _ => hann
  flipped := by rw [hsettled]; exact hl.flipped

end WaybillProc

/-- **A step keeps the assertion of the call that takes it.** -/
theorem WaybillProc.Holds.step (hl : l.Holds i r) (hinv : WaybillInv r)
    (hm : WaybillMove waybillId i l r x l' r') : l'.Holds i r' := by
  have hkeeps := hm.keepsPayment
  have hat := hl.at_pc
  unfold WaybillProc.At at hat
  cases hm with
  | idle _ _ hemitted hop hcharge hflip hidle =>
    exact (hl.idle hflip hidle).congr hkeeps rfl hemitted
  | check o waybill hpc hop hrow htarget =>
    exact hl.goto ⟨htarget, fun hmove => ⟨waybill, hrow, hinv.moving waybill hrow hmove⟩⟩
  | ask waybill reference userId hpc =>
    rw [hpc] at hat
    exact hl.goto hat
  | arrive d reference caller hfrom =>
    have hflip : l.flipped = false := by
      rcases hfrom with ⟨hpc, -⟩ | ⟨w, hpc, -⟩ <;> rw [hpc] at hat <;> exact hat
    exact ⟨⟨hflip, rfl⟩, hl.flipped⟩
  | agree d waybill caller hpc hrow hpaid hamount =>
    rw [hpc] at hat
    exact hl.goto hat.1
  | write o waybill w hpc hfault hrow =>
    have hl' : (l.goto (.written o)).Holds i r := hl.idle rfl rfl
    exact hl'.congr hkeeps rfl rfl
  | setPaymentRef waybill reference w hpc hrow =>
    have hl' : (l.finish (.payment reference)).Holds i r := hl.idle rfl rfl
    exact hl'.congr hkeeps rfl rfl
  | confirm d waybill caller w hpc hrow hpaid hst =>
    have hsilent := hinv.silent (hinv.settledBy_eq_none hrow hpaid)
    exact ⟨⟨rfl, hsilent⟩, iff_of_true rfl ⟨l.reference, rfl⟩⟩
  | record waybill caller hpc hfault =>
    rw [hpc] at hat
    have hl' : (l.goto (.track waybill caller)).Holds i r := hl.goto hat
    exact hl'.congr hkeeps rfl rfl
  | track waybill caller emitted hemitted hpc =>
    rw [hpc] at hat
    have hl' : (l.goto (.notify waybill caller)).Holds i r := hl.goto hat
    exact hl'.congr hkeeps rfl hemitted
  | notify waybill caller hpc =>
    have hidle := WaybillProc.returns_idle l caller
    have hl' : (l.returns caller).Holds i r := hl.idle (by simp) hidle
    exact ⟨.of_idle hidle, hl'.flipped⟩

/-- **The other calls may go on as they were.** -/
theorem WaybillProc.Holds.other (hl : l.Holds i r) (hinv : WaybillInv r)
    (hm : WaybillMove waybillId i l r x l' r') {j : ℕ} {k : WaybillProc}
    (hk : k.Holds j r) (hne : j ≠ i) : k.Holds j r' := by
  have hkeeps := hm.keepsPayment
  have hat := hl.at_pc
  unfold WaybillProc.At at hat
  cases hm with
  | idle _ _ hemitted => exact hk.congr hkeeps rfl hemitted
  | check => exact hk
  | ask => exact hk
  | arrive => exact hk
  | agree => exact hk
  | write => exact hk.congr hkeeps rfl rfl
  | setPaymentRef => exact hk.congr hkeeps rfl rfl
  | record => exact hk.congr hkeeps rfl rfl
  | track _ _ _ hemitted => exact hk.congr hkeeps rfl hemitted
  | confirm d waybill caller w hpc hrow hpaid hst =>
    have hnone := hinv.settledBy_eq_none hrow hpaid
    have hflip : ¬ k.flipped = true := by
      intro hflip
      obtain ⟨ref, href⟩ := hk.flipped.mp hflip
      rw [hnone] at href
      exact absurd href (by simp)
    refine ⟨hk.at_pc.congr (fun _ => ⟨_, rfl, rfl⟩) (fun hflip' => absurd hflip' hflip),
      iff_of_false hflip ?_⟩
    rintro ⟨ref, href⟩
    cases href
    exact hne rfl
  | notify waybill caller hpc =>
    rw [hpc] at hat
    obtain ⟨ref, href⟩ := hl.flipped.mp hat.1
    have hflip : ¬ k.flipped = true := by
      -- two calls at the event would both have confirmed the waybill
      intro hflip
      obtain ⟨ref', href'⟩ := hk.flipped.mp hflip
      rw [href, Option.some.injEq, Prod.mk.injEq] at href'
      exact hne href'.1.symm
    exact ⟨hk.at_pc.congr (fun hpaid => hpaid.keeps hkeeps) (fun hflip' => absurd hflip' hflip),
      hk.flipped⟩

/-! ## The outline -/

theorem WaybillInv.env (h : WaybillInv r) {data : WaybillRequest × Time}
    (he : (waybillMachine waybillId).env r data = some r') : WaybillInv r' := by
  obtain ⟨hrow, rfl⟩ := waybill_env he
  refine ⟨?_, ?_, ?_, h.silent, h.announced⟩
  · intro _ w hw
    cases hw
    rfl
  · intro p hp
    obtain ⟨w, hw, -⟩ := h.paid p hp
    rw [hrow] at hw
    exact absurd hw (by simp)
  · intro w hw hmove
    cases hw
    have hpending : (Waybills.create waybillId data.1).status = .pending := rfl
    rw [hpending] at hmove
    exact absurd hmove (by decide)

theorem WaybillDB.keepsPayment_env {data : WaybillRequest × Time}
    (he : (waybillMachine waybillId).env r data = some r') : r.KeepsPayment r' := by
  obtain ⟨hrow, -⟩ := waybill_env he
  intro w hw
  rw [hrow] at hw
  exact absurd hw (by simp)

theorem WaybillProc.Holds.start (op : WaybillOp) (hnot : ∀ ref, r.settledBy ≠ some (i, ref)) :
    ((waybillMachine waybillId).start op).Holds i r where
  at_pc := rfl
  flipped := iff_of_false Bool.false_ne_true fun ⟨ref, href⟩ => hnot ref href

/-- **The proof outline of the calls on a waybill.** -/
theorem waybillOutline (waybillId : WaybillId) :
    (waybillMachine waybillId).Outline (fun _ => True) (fun r => r = ⟨none, [], [], none⟩)
      (fun n r => WaybillInv r ∧ ∀ p, r.settledBy = some p → p.1 < n)
      WaybillProc.Holds where
  init := by
    rintro _ rfl
    exact ⟨⟨fun _ w hw => absurd hw (by simp), fun p hp => absurd hp (by simp),
      fun w hw => absurd hw (by simp), fun _ => rfl, Nat.zero_le 1⟩, fun p hp =>
      absurd hp (by simp)⟩
  spawn n op r _ hG := ⟨hG.1, fun p hp => Nat.lt_succ_of_lt (hG.2 p hp)⟩
  start n op r _ hG := .start op fun ref href => Nat.lt_irrefl n (hG.2 _ href)
  shared n i x l r l' r' _ hi hG hL hs := by
    have hm := WaybillProc.step_move hs
    refine ⟨hG.1.move hL hm, ?_⟩
    intro p hp
    cases hm with
    | confirm =>
      cases hp
      exact hi
    | _ => exact hG.2 p hp
  self n i x l r l' r' _ _ hG hL hs := hL.step hG.1 (WaybillProc.step_move hs)
  other n i x l r l' r' j k _ _ hne hG hL hk hs :=
    hL.other hG.1 (WaybillProc.step_move hs) hk hne
  env_shared n data r r' _ hG hs := by
    refine ⟨hG.1.env hs, ?_⟩
    obtain ⟨-, rfl⟩ := waybill_env hs
    exact hG.2
  env_other n data r r' j k _ hG hk hs := by
    have hkeeps := WaybillDB.keepsPayment_env hs
    obtain ⟨-, rfl⟩ := waybill_env hs
    exact hk.congr hkeeps rfl rfl

/-- What holds in every configuration that calls on a waybill reach. -/
theorem waybill_asserts (h : (waybills waybillId).Reachable c) :
    WaybillInv c.shared ∧ (∀ p, c.shared.settledBy = some p → p.1 < c.procs.length) ∧
      ∀ (i : ℕ) (l : WaybillProc), c.procs[i]? = some l → l.Holds i c.shared := by
  obtain ⟨⟨hinv, hlt⟩, hall⟩ := (waybillOutline waybillId).invariant h.by_any
  exact ⟨hinv, hlt, hall⟩

/-- A payment, once made, stays as it is. -/
theorem waybill_payment_stays (h : (waybills waybillId).Reachable c)
    (hl : (waybills waybillId).Leads c c') : c.shared.KeepsPayment c'.shared := by
  refine hl.rel (R := fun m m' => m.shared.KeepsPayment m'.shared) h
    (fun m row hrow _ => ⟨row, hrow, rfl⟩) ?_ ?_
  · intro a b d hab hbd row hrow hpaid
    obtain ⟨row', hrow', hpaid'⟩ := hab row hrow hpaid
    have hsome : row'.paidAt.isSome = true := by
      rw [hpaid']
      exact hpaid
    obtain ⟨row'', hrow'', hpaid''⟩ := hbd row' hrow' hsome
    exact ⟨row'', hrow'', hpaid''.trans hpaid'⟩
  · intro m a m' hm hs
    rcases Machine.next_cases hs with ⟨o, rfl, rfl⟩ | ⟨i, x, l, l', r', rfl, hi, hstep, rfl⟩ |
      ⟨data, r', rfl, henv, rfl⟩
    · exact fun row hrow _ => ⟨row, hrow, rfl⟩
    · exact (WaybillProc.step_move hstep).keepsPayment
    · exact WaybillDB.keepsPayment_env henv

/-! ## Success events -/

/-- In the course of the run Paystack has answered a verify callback that the payment it asked
about, of this amount, has succeeded: the payment that the stored row named when the callback
read it. -/
def WaybillVerified (waybillId : WaybillId) (c : Config WaybillDB WaybillProc)
    (acts : List (Act WaybillOp WaybillInput (WaybillRequest × Time))) (amount : ℚ) : Prop :=
  ∃ i l x userId waybill reference, Machine.Took (waybills waybillId) c acts i l x ∧
    l.op = .verifyPayment reference userId ∧ l.pc = .lookup waybill reference ∧
    waybill.paymentRef = some reference ∧
    (∃ m ∈ (waybills waybillId).trace c acts, m.shared.row = some waybill) ∧
    x.lookedUp = .ok (some ⟨.success, amount⟩)

/-- In the course of the run a success event for the waybill with this amount has been
delivered: by a webhook, or by Paystack's answer to a verify callback. -/
def WaybillDelivered (waybillId : WaybillId) (c : Config WaybillDB WaybillProc)
    (acts : List (Act WaybillOp WaybillInput (WaybillRequest × Time))) (amount : ℚ) : Prop :=
  (∃ body, .spawn (.webhook body) ∈ acts ∧ routeWebhook body = .waybill waybillId amount) ∨
  WaybillVerified waybillId c acts amount

section History

variable {acts : List (Act WaybillOp WaybillInput (WaybillRequest × Time))} {amount : ℚ}

theorem WaybillDelivered.snoc (h : WaybillDelivered waybillId c acts amount)
    (a : Act WaybillOp WaybillInput (WaybillRequest × Time)) :
    WaybillDelivered waybillId c (acts ++ [a]) amount := by
  rcases h with ⟨body, hmem, hroute⟩ | ⟨i, l, x, userId, waybill, reference, htook, hop, hpc,
    href, ⟨m, hm, hrow⟩, hanswer⟩
  · exact Or.inl ⟨body, List.mem_append_left _ hmem, hroute⟩
  · exact Or.inr ⟨i, l, x, userId, waybill, reference, htook.snoc a, hop, hpc, href,
      ⟨m, System.mem_trace_append hm, hrow⟩, hanswer⟩

/-- What the run so far has brought a call: the row that a callback asks about was stored, and
the charge that has reached a call was delivered. -/
structure WaybillProc.Brought (waybillId : WaybillId) (c : Config WaybillDB WaybillProc)
    (acts : List (Act WaybillOp WaybillInput (WaybillRequest × Time))) (l : WaybillProc) :
    Prop where
  spawned : .spawn l.op ∈ acts
  asked : ∀ waybill reference, l.pc = .lookup waybill reference →
    (∃ userId, l.op = .verifyPayment reference userId) ∧ waybill.paymentRef = some reference ∧
      ∃ m ∈ (waybills waybillId).trace c acts, m.shared.row = some waybill
  delivered : ∀ d, l.charge = some d → WaybillDelivered waybillId c acts d.webhookAmountKobo

theorem WaybillProc.Brought.snoc (h : l.Brought waybillId c acts)
    (a : Act WaybillOp WaybillInput (WaybillRequest × Time)) :
    l.Brought waybillId c (acts ++ [a]) where
  spawned := List.mem_append_left _ h.spawned
  asked waybill reference hpc := by
    obtain ⟨huser, href, m, hm, hrow⟩ := h.asked waybill reference hpc
    exact ⟨huser, href, m, System.mem_trace_append hm, hrow⟩
  delivered d hd := (h.delivered d hd).snoc a

/-- A call that asks nobody keeps what it has been brought. -/
theorem WaybillProc.Brought.keep (h : l.Brought waybillId c acts) (hop : l'.op = l.op)
    (hcharge : l'.charge = l.charge) (hpc : ∀ w p, l'.pc ≠ .lookup w p) :
    l'.Brought waybillId c acts where
  spawned := by rw [hop]; exact h.spawned
  asked w p heq := absurd heq (hpc w p)
  delivered := by rw [hcharge]; exact h.delivered

theorem WaybillPc.ne_lookup_of_idle {pc : WaybillPc} (h : pc.idle = true) (w : Waybill)
    (p : Ref) : pc ≠ .lookup w p := by
  rintro rfl
  exact Bool.false_ne_true h

/-- **A step brings a call its charge.** -/
theorem WaybillProc.Brought.step {m : Config WaybillDB WaybillProc}
    (h : l.Brought waybillId c acts) (hrun : (waybills waybillId).run c acts = some m)
    (hi : m.procs[i]? = some l) (hm : WaybillMove waybillId i l m.shared x l' r') :
    l'.Brought waybillId c (acts ++ [.run i x]) := by
  have hnext := h.snoc (.run i x)
  cases hm with
  | idle _ _ _ hop hcharge _ hidle =>
    exact hnext.keep hop hcharge (WaybillPc.ne_lookup_of_idle hidle)
  | check => exact hnext.keep rfl rfl (by simp [WaybillProc.goto])
  | ask waybill reference userId hpc hop hrow href =>
    refine ⟨hnext.spawned, ?_, hnext.delivered⟩
    rintro _ _ ⟨⟩
    exact ⟨⟨userId, hop⟩, href, m, System.mem_trace_append (System.mem_trace_of_run hrun), hrow⟩
  | arrive d reference caller hfrom =>
    refine ⟨hnext.spawned, fun w p heq => absurd heq (by simp), ?_⟩
    rintro _ ⟨⟩
    rcases hfrom with ⟨-, body, hop, hroute⟩ | ⟨waybill, hpc, hanswer⟩
    · have hspawned := hnext.spawned
      rw [hop] at hspawned
      exact Or.inl ⟨body, hspawned, hroute⟩
    · obtain ⟨⟨userId, hop⟩, href, hstored⟩ := hnext.asked waybill reference hpc
      exact Or.inr ⟨i, l, x, userId, waybill, reference, Machine.took_last hrun hi x, hop, hpc,
        href, hstored, hanswer⟩
  | agree => exact hnext.keep rfl rfl (by simp [WaybillProc.goto])
  | write => exact hnext.keep rfl rfl (by simp [WaybillProc.goto])
  | setPaymentRef => exact hnext.keep rfl rfl (by simp [WaybillProc.finish])
  | confirm => exact hnext.keep rfl rfl (by simp)
  | record => exact hnext.keep rfl rfl (by simp [WaybillProc.goto])
  | track => exact hnext.keep rfl rfl (by simp [WaybillProc.goto])
  | notify waybill caller =>
    exact hnext.keep (by simp) (by simp)
      (WaybillPc.ne_lookup_of_idle (WaybillProc.returns_idle l caller))

/-- **Whatever charge has reached a call was delivered.** -/
theorem waybill_brought (h : (waybills waybillId).init c₀)
    (hrun : (waybills waybillId).run c₀ acts = some c) (hi : c.procs[i]? = some l) :
    l.Brought waybillId c₀ acts := by
  refine Machine.local_history (H := fun acts l => l.Brought waybillId c₀ acts)
    (fun acts a l hl => hl.snoc a) ?_ ?_ h hrun hi
  · intro acts op
    exact ⟨List.mem_append_right _ (List.mem_singleton_self _),
      fun w p hpc => absurd hpc (by simp [waybillMachine]),
      fun d hd => absurd hd (by simp [waybillMachine])⟩
  · intro acts m i x l l' r' hm hi hl hs
    exact hl.step hm hi (WaybillProc.step_move hs)

end History

/-! ## The rows that charges were compared with -/

/-- In the course of the run `acts` the stored row was this unpaid one, and a success
event of the amount of its fee had been delivered. -/
def WaybillRead (waybillId : WaybillId) (c : Config WaybillDB WaybillProc)
    (acts : List (Act WaybillOp WaybillInput (WaybillRequest × Time))) (waybill : Waybill) : Prop :=
  ∃ l₁ l₂ m, acts = l₁ ++ l₂ ∧ (waybills waybillId).run c l₁ = some m ∧
    m.shared.row = some waybill ∧ waybill.paidAt = none ∧
    WaybillDelivered waybillId c l₁ waybill.fee

theorem WaybillRead.snoc {acts : List (Act WaybillOp WaybillInput (WaybillRequest × Time))}
    {waybill : Waybill} (h : WaybillRead waybillId c acts waybill)
    (a : Act WaybillOp WaybillInput (WaybillRequest × Time)) :
    WaybillRead waybillId c (acts ++ [a]) waybill := by
  obtain ⟨l₁, l₂, m, rfl, hm, hread⟩ := h
  exact ⟨l₁, l₂ ++ [a], m, by simp, hm, hread⟩

/-- The row whose fee the charge has matched. -/
def WaybillPc.agreed : WaybillPc → Option Waybill
  | confirm _ waybill _ | confirmed waybill _ | track waybill _ | notify waybill _ => some waybill
  | start | write _ _ | written _ | initializeFn _ | setPaymentRef _ _ | lookup _ _ | find _ _
  | reread _ | done _ => none

theorem WaybillPc.agreed_of_idle {pc : WaybillPc} (h : pc.idle = true) : pc.agreed = none := by
  cases pc <;> first | rfl | exact absurd h Bool.false_ne_true

/-- What a step adds to the rows that charges have matched, and to those announced. -/
theorem WaybillMove.agreed (hm : WaybillMove waybillId i l r x l' r') :
    (∀ waybill, l'.pc.agreed = some waybill → l.pc.agreed = some waybill ∨
      ∃ d caller, l.pc = .find d caller ∧ r.row = some waybill ∧ waybill.paidAt = none ∧
        d.webhookAmountKobo = waybill.fee) ∧
    ∀ waybill email, .paid waybill email ∈ r'.emitted → .paid waybill email ∈ r.emitted ∨
      l.pc.agreed = some waybill := by
  have hold : ∀ emitted : List WaybillNotice,
      emitted.filter WaybillNotice.isPaid = r.emitted.filter WaybillNotice.isPaid →
      ∀ waybill email, .paid waybill email ∈ emitted → .paid waybill email ∈ r.emitted ∨
        l.pc.agreed = some waybill := by
    intro emitted heq waybill email hmem
    have hfilter : .paid waybill email ∈ emitted.filter WaybillNotice.isPaid :=
      List.mem_filter.mpr ⟨hmem, rfl⟩
    rw [heq] at hfilter
    exact Or.inl (List.mem_of_mem_filter hfilter)
  cases hm with
  | idle l' emitted hemitted hop hcharge hflip hidle =>
    refine ⟨?_, hold _ hemitted⟩
    intro waybill hagreed
    rw [WaybillPc.agreed_of_idle hidle] at hagreed
    exact absurd hagreed (by simp)
  | check => exact ⟨fun _ hagreed => absurd hagreed (by simp [WaybillProc.goto, WaybillPc.agreed]),
      hold _ rfl⟩
  | ask => exact ⟨fun _ hagreed => absurd hagreed (by simp [WaybillProc.goto, WaybillPc.agreed]),
      hold _ rfl⟩
  | arrive => exact ⟨fun _ hagreed => absurd hagreed (by simp [WaybillPc.agreed]), hold _ rfl⟩
  | agree d w caller hpc hrow hpaid hamount =>
    refine ⟨?_, hold _ rfl⟩
    rintro _ ⟨⟩
    exact Or.inr ⟨d, caller, hpc, hrow, hpaid, hamount⟩
  | write => exact ⟨fun _ hagreed => absurd hagreed (by simp [WaybillProc.goto, WaybillPc.agreed]),
      hold _ rfl⟩
  | setPaymentRef =>
    exact ⟨fun _ hagreed => absurd hagreed (by simp [WaybillProc.finish, WaybillPc.agreed]),
      hold _ rfl⟩
  | confirm d w caller w₀ hpc =>
    refine ⟨fun _ hagreed => Or.inl ?_, hold _ rfl⟩
    rw [hpc]
    exact hagreed
  | record w caller hpc =>
    refine ⟨fun _ hagreed => Or.inl ?_, hold _ rfl⟩
    rw [hpc]
    exact hagreed
  | track w caller emitted hemitted hpc =>
    refine ⟨fun _ hagreed => Or.inl ?_, hold _ hemitted⟩
    rw [hpc]
    exact hagreed
  | notify w caller hpc =>
    refine ⟨?_, ?_⟩
    · intro waybill hagreed
      rw [WaybillPc.agreed_of_idle (WaybillProc.returns_idle l caller)] at hagreed
      exact absurd hagreed (by simp)
    · intro waybill email hmem
      rcases List.mem_append.mp hmem with hmem | hmem
      · exact Or.inl hmem
      · cases List.mem_singleton.mp hmem
        rw [hpc]
        exact Or.inr rfl

/-- Each charge that has matched a fee, and each `waybill.paid`, goes back to an unpaid row that
was stored when the charge had been delivered. -/
structure WaybillsRead (waybillId : WaybillId) (c₀ : Config WaybillDB WaybillProc)
    (acts : List (Act WaybillOp WaybillInput (WaybillRequest × Time)))
    (c : Config WaybillDB WaybillProc) : Prop where
  agreed : ∀ (i : ℕ) l waybill, c.procs[i]? = some l → l.pc.agreed = some waybill →
    WaybillRead waybillId c₀ acts waybill
  announced : ∀ waybill email, .paid waybill email ∈ c.shared.emitted →
    WaybillRead waybillId c₀ acts waybill

/-- A step of a call. -/
theorem WaybillsRead.run {acts : List (Act WaybillOp WaybillInput (WaybillRequest × Time))}
    (hread : WaybillsRead waybillId c₀ acts c) (h : (waybills waybillId).init c₀)
    (hrun : (waybills waybillId).run c₀ acts = some c) (hi : c.procs[i]? = some l)
    (hm : WaybillMove waybillId i l c.shared x l' r') :
    WaybillsRead waybillId c₀ (acts ++ [.run i x]) ⟨r', c.procs.set i l'⟩ := by
  obtain ⟨hagree, hann⟩ := hm.agreed
  refine ⟨?_, ?_⟩
  · intro j k waybill hj hagreed
    rcases Machine.getElem?_set_cases hi hj with ⟨-, rfl⟩ | ⟨-, hj⟩
    · rcases hagree waybill hagreed with hagreed | ⟨d, caller, hpc, hrow, hpaid, hamount⟩
      · exact (hread.agreed i l waybill hi hagreed).snoc _
      · -- the charge that it compares with the row has been delivered
        obtain ⟨-, -, hall⟩ := waybill_asserts ⟨c₀, h, acts, hrun⟩
        have hat := (hall i l hi).at_pc
        rw [WaybillProc.At, hpc] at hat
        have hdelivered := (waybill_brought h hrun hi).delivered d hat.2
        rw [hamount] at hdelivered
        exact ⟨acts, [_], c, rfl, hrun, hrow, hpaid, hdelivered⟩
    · exact (hread.agreed j k waybill hj hagreed).snoc _
  · intro waybill email hmem
    rcases hann waybill email hmem with hmem | hagreed
    · exact (hread.announced waybill email hmem).snoc _
    · exact (hread.agreed i l waybill hi hagreed).snoc _

/-- **Whatever is announced was read.** -/
theorem waybills_read (h : (waybills waybillId).init c₀)
    {acts : List (Act WaybillOp WaybillInput (WaybillRequest × Time))}
    (hrun : (waybills waybillId).run c₀ acts = some c) : WaybillsRead waybillId c₀ acts c := by
  refine System.run_rule (P := WaybillsRead waybillId c₀) hrun ?_ ?_
  · obtain ⟨hshared, hprocs⟩ := h
    refine ⟨?_, ?_⟩
    · intro i l waybill hi
      rw [hprocs] at hi
      exact absurd hi (by simp)
    · intro waybill email hmem
      have hnil : c₀.shared.emitted = [] := by
        rw [hshared]
      rw [hnil] at hmem
      exact absurd hmem (by simp)
  · intro acts m a m' hm hread hs
    rcases Machine.next_cases hs with ⟨op, rfl, rfl⟩ | ⟨i, x, l, l', r', rfl, hi, hstep, rfl⟩ |
      ⟨data, r', rfl, henv, rfl⟩
    · refine ⟨?_, fun waybill email hmem => (hread.announced waybill email hmem).snoc _⟩
      intro j k waybill hj hagreed
      rcases Machine.getElem?_snoc_cases hj with ⟨-, rfl⟩ | hj
      · exact absurd hagreed (by simp [waybillMachine, WaybillPc.agreed])
      · exact (hread.agreed j k waybill hj hagreed).snoc _
    · exact hread.run h hm hi (WaybillProc.step_move hstep)
    · obtain ⟨-, rfl⟩ := waybill_env henv
      exact ⟨fun j k waybill hj hagreed => (hread.agreed j k waybill hj hagreed).snoc _,
        fun waybill email hmem => (hread.announced waybill email hmem).snoc _⟩

/-! ## All runs -/

/-- **No parcel moves unpaid.**  A waybill that is paid, on its way or completed has
`paidAt`; at most one call writes it and it never changes; and `waybill.paid` is emitted
at most once, for a row that was stored, unpaid, when a success event of the amount of its
fee had been delivered. -/
theorem waybill_moves_paid (h : (waybills waybillId).init c₀)
    {acts : List (Act WaybillOp WaybillInput (WaybillRequest × Time))}
    (hrun : (waybills waybillId).run c₀ acts = some c) :
    (∀ row, c.shared.row = some row →
      row.status ∈ [.paid, .droppedOff, .pickedUp, .inTransit, .arrivedAtHub, .completed] →
      row.paidAt ≠ none) ∧
    (∀ (i j : ℕ) (l l' : WaybillProc), c.procs[i]? = some l → c.procs[j]? = some l' →
      l.flipped = true → l'.flipped = true → i = j) ∧
    (∀ c', (waybills waybillId).Leads c c' → ∀ row, c.shared.row = some row → row.paidAt ≠ none →
      ∃ row', c'.shared.row = some row' ∧ row'.paidAt = row.paidAt) ∧
    c.shared.emitted.countP WaybillNotice.isPaid ≤ 1 ∧
    (∀ waybill email, .paid waybill email ∈ c.shared.emitted →
      WaybillRead waybillId c₀ acts waybill) := by
  have hreach : (waybills waybillId).Reachable c := ⟨c₀, h, acts, hrun⟩
  obtain ⟨hinv, -, hall⟩ := waybill_asserts hreach
  refine ⟨?_, ?_, ?_, ?_, (waybills_read h hrun).announced⟩
  · intro row hrow hst
    exact Option.isSome_iff_ne_none.mp (hinv.moving row hrow hst)
  · intro i j l l' hi hj hf hf'
    obtain ⟨ref, href⟩ := (hall i l hi).flipped.mp hf
    obtain ⟨ref', href'⟩ := (hall j l' hj).flipped.mp hf'
    rw [href, Option.some.injEq, Prod.mk.injEq] at href'
    exact href'.1
  · intro c' hl row hrow hpaid
    exact waybill_payment_stays hreach hl row hrow (Option.isSome_iff_ne_none.mpr hpaid)
  · rw [List.countP_eq_length_filter]
    exact hinv.announced

/-! ## One run -/

/-- The webhook of the sample charge is delivered twice, and the deliveries run step by
step in turn. -/
def parcelPaidTwice : List (Act WaybillOp WaybillInput (WaybillRequest × Time)) :=
  [.env (parcelToAbuja, 100), .spawn (.write (.sendQuote parcelQuote)), .run 0 waybillPlain,
    .run 0 waybillPlain, .spawn (.webhook (parcelWebhook 66 150000)),
    .spawn (.webhook (parcelWebhook 66 150000))]
    ++ (List.replicate 3 [.run 1 waybillPlain, .run 2 waybillPlain]).flatten
    ++ List.replicate 3 (.run 1 waybillPlain)

theorem parcelPaidTwice_runs : ((waybills 1).run waybillStart parcelPaidTwice).isSome = true := by
  decide +kernel

/-- Where that run ends. -/
def parcelAnnounced : Config WaybillDB WaybillProc :=
  ((waybills 1).run waybillStart parcelPaidTwice).get parcelPaidTwice_runs

/-- Paystack reports payment `66` of the sample waybill as paid in full. -/
def parcelReported : WaybillInput :=
  { waybillPlain with lookedUp := .ok (some ⟨.success, 150000⟩) }

/-- The customer starts payment `66`, and a verify callback finds it paid. -/
def parcelVerifies : List (Act WaybillOp WaybillInput (WaybillRequest × Time)) :=
  [.env (parcelToAbuja, 100), .spawn (.write (.sendQuote parcelQuote))]
    ++ List.replicate 3 (.run 0 waybillPlain)
    ++ .spawn (.initiatePay 7) :: List.replicate 3 (.run 1 waybillPlain)
    ++ .spawn (.verifyPayment 66 7) :: List.replicate 8 (.run 2 parcelReported)

theorem parcelVerifies_runs : ((waybills 1).run waybillStart parcelVerifies).isSome = true := by
  decide +kernel

/-- Where that run ends. -/
def parcelVerified : Config WaybillDB WaybillProc :=
  ((waybills 1).run waybillStart parcelVerifies).get parcelVerifies_runs

theorem waybill_moves_paid_parcel :
    waybillStatus parcelAnnounced = some .paid ∧
    parcelAnnounced.procs.map WaybillProc.flipped = [false, true, false] ∧
    parcelAnnounced.shared.emitted.countP WaybillNotice.isPaid = 1 ∧
    parcelAnnounced.shared.emitted.countP WaybillNotice.isPaid ≤ 1 ∧
    ∃ waybill email, .paid waybill email ∈ parcelVerified.shared.emitted ∧
      WaybillRead 1 waybillStart parcelVerifies waybill := by
  refine ⟨by decide +kernel, by decide +kernel, by decide +kernel,
    (waybill_moves_paid ⟨rfl, rfl⟩ (Option.some_get parcelPaidTwice_runs).symm).2.2.2.1, ?_⟩
  have hpaid : parcelVerified.shared.emitted.any WaybillNotice.isPaid = true := by
    decide +kernel
  obtain ⟨n, hn, hpaid⟩ := List.any_eq_true.mp hpaid
  unfold WaybillNotice.isPaid at hpaid
  split at hpaid
  · next waybill email =>
    exact ⟨waybill, email, hn,
      (waybill_moves_paid ⟨rfl, rfl⟩ (Option.some_get parcelVerifies_runs).symm).2.2.2.2 waybill
        email hn⟩
  · exact absurd hpaid Bool.false_ne_true

end TransHub
