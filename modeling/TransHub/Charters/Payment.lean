import TransHub.Charters.Process

/-!
# A charter is paid once

What every interleaving of calls on one charter keeps.

* `CharterInv`: the row is paid exactly when one call has confirmed it, a confirmed or
  completed charter is paid, and `charter.confirmed` is emitted at most once.
* `CharterProc.Holds`: what each call may rely on where it stands; a call that is about
  to complete the charter has read a paid one, and paid charters stay paid.
* `charterOutline`: the outline.
* `CharterDelivered`: a success event, as the moves of a run have brought it.
* `charter_paid_once`: the statement over all runs.
-/

namespace TransHub

variable {charterId : CharterId} {i : ℕ} {l l' : CharterProc} {r r' : CharterDB}
  {x : CharterInput} {c c' c₀ : Config CharterDB CharterProc}

/-- The assertion on the row and its history. -/
structure CharterInv (r : CharterDB) : Prop where
  unpaid : r.settledBy = none → ∀ c, r.row = some c → c.paidAt = none ∧ c.paidAmount = none
  paid : ∀ p, r.settledBy = some p →
    ∃ c, r.row = some c ∧ c.paidAt.isSome = true ∧ c.paidAmount.isSome = true
  confirmed : ∀ c, r.row = some c → Charters.settled c = true → c.paidAt.isSome = true
  silent : r.settledBy = none → r.emitted.countP CharterEvent.isConfirmed = 0
  emitted : r.emitted.countP CharterEvent.isConfirmed ≤ 1

/-- The stored row is a paid one. -/
def CharterDB.Paid (r : CharterDB) : Prop := ∃ c, r.row = some c ∧ c.paidAt.isSome = true

/-- A paid row stays, with the same payment. -/
def CharterDB.KeepsPayment (r r' : CharterDB) : Prop :=
  ∀ c, r.row = some c → c.paidAt.isSome = true →
    ∃ c', r'.row = some c' ∧ c'.paidAt = c.paidAt ∧ c'.paidAmount = c.paidAmount

namespace CharterProc

/-- What holds at each place a call can stand at. -/
def At (l : CharterProc) (r : CharterDB) : Prop :=
  match l.pc with
  | .start | .lookup _ _ => l.flipped = false
  | .write w charter => charter.status ∈ w.accepts ∧ (charter.status = .confirmed → r.Paid)
  | .find d _ => l.flipped = false ∧ l.charge = some d
  | .confirm d _ price _ =>
      l.flipped = false ∧ l.charge = some d ∧ d.webhookAmountKobo = Charters.amountKobo price
  | .notify _ _ _ => l.flipped = true ∧ r.emitted.countP CharterEvent.isConfirmed = 0
  | .initializeFn _ | .setPaymentRef _ | .reread _ | .done _ => True

/-- The assertion on the `i`-th call. -/
structure Holds (i : ℕ) (l : CharterProc) (r : CharterDB) : Prop where
  at_pc : l.At r
  flipped : l.flipped = true ↔ ∃ ref, r.settledBy = some (i, ref)
  amount : ∀ ref, r.settledBy = some (i, ref) → ∃ d c price, l.charge = some d ∧
    d.reference = ref ∧ r.row = some c ∧ c.paidAmount = some price ∧
    d.webhookAmountKobo = Charters.amountKobo price

end CharterProc

/-! ## Preservation -/

/-- **A step keeps a payment.** -/
theorem CharterEffect.keepsPayment (he : CharterEffect charterId i l r x l' r') :
    r.KeepsPayment r' := by
  intro c hrow hpaid
  cases he with
  | idle => exact ⟨c, hrow, rfl, rfl⟩
  | check => exact ⟨c, hrow, rfl, rfl⟩
  | ask => exact ⟨c, hrow, rfl, rfl⟩
  | arrive => exact ⟨c, hrow, rfl, rfl⟩
  | agree => exact ⟨c, hrow, rfl, rfl⟩
  | write w charter c₀ _ _ hrow₀ =>
    rw [hrow, Option.some.injEq] at hrow₀
    subst hrow₀
    exact ⟨_, rfl, by simp, by simp⟩
  | setPaymentRef reference c₀ _ hrow₀ =>
    rw [hrow, Option.some.injEq] at hrow₀
    subst hrow₀
    exact ⟨_, rfl, rfl, rfl⟩
  | confirm d charter price caller c₀ _ hrow₀ hnone =>
    rw [hrow, Option.some.injEq] at hrow₀
    subst hrow₀
    rw [hnone] at hpaid
    exact absurd hpaid (by simp)
  | notify => exact ⟨c, hrow, rfl, rfl⟩

/-- Only the events of `notify` are confirmations. -/
theorem countP_events (w : CharterWrite) (c : Charter) :
    (w.events c).countP CharterEvent.isConfirmed = 0 := by
  cases w <;> rfl

/-- A write that makes a charter confirmed or completed is that of `completeCharter`. -/
theorem CharterWrite.settled_write {w : CharterWrite} {now : Time} {c charter : Charter}
    (hst : charter.status ∈ w.accepts) (h : Charters.settled (w.write now c) = true) :
    charter.status = .confirmed ∨ Charters.settled c = true := by
  cases w with
  | completeCharter => exact Or.inl (List.mem_singleton.mp hst)
  | adminConfirmBooking data => exact Or.inr h
  | sendQuote data => exact absurd h Bool.false_ne_true
  | acceptQuote passengerId => exact absurd h Bool.false_ne_true
  | rejectQuote passengerId => exact absurd h Bool.false_ne_true
  | cancelCharter requestingUserId role => exact absurd h Bool.false_ne_true

/-- **A step keeps the assertion on the row.** -/
theorem CharterInv.effect (h : CharterInv r) (hl : l.Holds i r)
    (he : CharterEffect charterId i l r x l' r') : CharterInv r' := by
  have hat := hl.at_pc
  unfold CharterProc.At at hat
  cases he with
  | idle => exact h
  | check => exact h
  | ask => exact h
  | arrive => exact h
  | agree => exact h
  | write w charter c hpc hfault hrow =>
    rw [hpc] at hat
    have hcount : (r.emitted ++ w.events (w.write x.now c)).countP CharterEvent.isConfirmed
        = r.emitted.countP CharterEvent.isConfirmed := by
      rw [List.countP_append, countP_events, Nat.add_zero]
    refine ⟨?_, ?_, ?_, ?_, ?_⟩
    · intro hnone c' hc'
      cases hc'
      simpa using h.unpaid hnone c hrow
    · intro p hp
      obtain ⟨c₀, hrow₀, hpaid, hamount⟩ := h.paid p hp
      rw [hrow, Option.some.injEq] at hrow₀
      subst hrow₀
      exact ⟨_, rfl, by simpa using hpaid, by simpa using hamount⟩
    · intro c' hc' hset
      cases hc'
      rw [CharterWrite.write_paidAt]
      rcases CharterWrite.settled_write hat.1 hset with hconf | hset
      · obtain ⟨c₀, hrow₀, hpaid⟩ := hat.2 hconf
        rw [hrow, Option.some.injEq] at hrow₀
        rw [hrow₀]
        exact hpaid
      · exact h.confirmed c hrow hset
    · intro hnone
      exact hcount.trans (h.silent hnone)
    · exact hcount.trans_le h.emitted
  | setPaymentRef reference c hpc hrow =>
    refine ⟨?_, ?_, ?_, h.silent, h.emitted⟩
    · intro hnone c' hc'
      cases hc'
      exact h.unpaid hnone c hrow
    · intro p hp
      obtain ⟨c₀, hrow₀, hpaid⟩ := h.paid p hp
      rw [hrow, Option.some.injEq] at hrow₀
      subst hrow₀
      exact ⟨_, rfl, hpaid⟩
    · intro c' hc' hset
      cases hc'
      exact h.confirmed c hrow hset
  | confirm d charter price caller c hpc hrow hpaid hst =>
    refine ⟨fun hnone => absurd hnone (by simp), fun p _ => ⟨_, rfl, rfl, rfl⟩,
      ?_, fun hnone => absurd hnone (by simp), h.emitted⟩
    intro c' hc' _
    cases hc'
    rfl
  | notify charter price caller hpc =>
    rw [hpc] at hat
    obtain ⟨ref, hsettled⟩ := hl.flipped.mp hat.1
    refine ⟨h.unpaid, h.paid, h.confirmed, ?_, ?_⟩
    · intro hnone
      have hnone' : r.settledBy = none := hnone
      rw [hsettled] at hnone'
      exact absurd hnone' (by simp)
    · have hcount : (r.emitted ++ [CharterEvent.confirmed charter.notice charter.vehicleType
          price]).countP CharterEvent.isConfirmed = 1 := by
        rw [List.countP_append, hat.2]
        rfl
      exact hcount.le

/-- Nobody has confirmed a charter whose row is unpaid. -/
theorem CharterInv.settledBy_eq_none (h : CharterInv r) {c : Charter} (hrow : r.row = some c)
    (hpaid : c.paidAt = none) : r.settledBy = none := by
  cases hs : r.settledBy with
  | none => rfl
  | some p =>
    obtain ⟨c₀, hrow₀, hpaid₀, -⟩ := h.paid p hs
    rw [hrow, Option.some.injEq] at hrow₀
    rw [← hrow₀, hpaid] at hpaid₀
    exact absurd hpaid₀ (by simp)

namespace CharterProc

theorem At.of_idle (h : l.pc.idle = true) : l.At r := by
  unfold At
  split
  all_goals first
    | trivial
    | next hpc =>
      rw [hpc] at h
      exact absurd h Bool.false_ne_true

theorem returns_idle (l : CharterProc) (caller : Option Charter) :
    (l.returns caller).pc.idle = true := by
  cases caller <;> rfl

@[simp] theorem returns_flipped (l : CharterProc) (caller : Option Charter) :
    (l.returns caller).flipped = l.flipped := by
  cases caller <;> rfl

@[simp] theorem returns_charge (l : CharterProc) (caller : Option Charter) :
    (l.returns caller).charge = l.charge := by
  cases caller <;> rfl

/-- A call goes to an idle place, while nothing that its history speaks of changes. -/
theorem Holds.idle (hl : l.Holds i r) (hcharge : l'.charge = l.charge)
    (hflip : l'.flipped = l.flipped) (hidle : l'.pc.idle = true) : l'.Holds i r where
  at_pc := .of_idle hidle
  flipped := by rw [hflip]; exact hl.flipped
  amount := by rw [hcharge]; exact hl.amount

/-- The assertion outlives a change of the row that keeps every payment. -/
theorem Holds.congr (hl : l.Holds i r) (hinv : CharterInv r)
    (hrow : r.KeepsPayment r') (hsettled : r'.settledBy = r.settledBy)
    (hemitted : ∀ b p k, l.pc = .notify b p k →
      r'.emitted.countP CharterEvent.isConfirmed = r.emitted.countP CharterEvent.isConfirmed) :
    l.Holds i r' where
  at_pc := by
    have hat := hl.at_pc
    unfold At at hat ⊢
    split
    · next hpc => rw [hpc] at hat; exact hat
    · next hpc => rw [hpc] at hat; exact hat
    · next hpc =>
      rw [hpc] at hat
      refine ⟨hat.1, ?_⟩
      intro hst
      obtain ⟨c, hc, hpaid⟩ := hat.2 hst
      obtain ⟨c', hc', hpaid', -⟩ := hrow c hc hpaid
      refine ⟨c', hc', ?_⟩
      rw [hpaid']
      exact hpaid
    · next hpc => rw [hpc] at hat; exact hat
    · next hpc => rw [hpc] at hat; exact hat
    · next hpc =>
      rw [hpc] at hat
      exact ⟨hat.1, (hemitted _ _ _ hpc).trans hat.2⟩
    all_goals trivial
  flipped := by rw [hsettled]; exact hl.flipped
  amount ref href := by
    rw [hsettled] at href
    obtain ⟨d, c, price, hcharge, hdref, hc, hprice, hamount⟩ := hl.amount ref href
    obtain ⟨c₀, hc₀, hpaid, -⟩ := hinv.paid _ href
    rw [hc, Option.some.injEq] at hc₀
    subst hc₀
    obtain ⟨c', hc', -, hprice'⟩ := hrow c hc hpaid
    exact ⟨d, c', price, hcharge, hdref, hc', hprice'.trans hprice, hamount⟩

end CharterProc

/-- **A step keeps the assertion of the call that takes it.** -/
theorem CharterProc.Holds.step (hl : l.Holds i r) (hinv : CharterInv r)
    (he : CharterEffect charterId i l r x l' r') : l'.Holds i r' := by
  have hkeeps := he.keepsPayment
  have hat := hl.at_pc
  unfold CharterProc.At at hat
  cases he with
  | idle _ hop hcharge hflip hidle => exact hl.idle hcharge hflip hidle
  | check w charter hpc hop hrow hst =>
    refine ⟨⟨hst, fun hconf => ⟨charter, hrow, hinv.confirmed charter hrow ?_⟩⟩, hl.flipped,
      hl.amount⟩
    simp [Charters.settled, hconf]
  | ask charter reference userId hpc =>
    rw [hpc] at hat
    exact ⟨hat, hl.flipped, hl.amount⟩
  | arrive d caller hfrom =>
    have hflip : l.flipped = false := by
      rcases hfrom with ⟨hpc, -⟩ | ⟨b, hpc, -⟩ <;> rw [hpc] at hat <;> exact hat
    have hnot : ∀ ref, r.settledBy ≠ some (i, ref) := by
      intro ref href
      rw [hl.flipped.mpr ⟨ref, href⟩] at hflip
      exact absurd hflip (by simp)
    exact ⟨⟨hflip, rfl⟩, hl.flipped, fun ref href => absurd href (hnot ref)⟩
  | agree d charter price caller hpc hrow hprice hamount =>
    rw [hpc] at hat
    exact ⟨⟨hat.1, hat.2, hamount⟩, hl.flipped, hl.amount⟩
  | write w charter c hpc hfault hrow =>
    have hl' := hl.congr hinv hkeeps rfl fun b p k hnot => absurd (hpc.symm.trans hnot) (by simp)
    exact hl'.idle rfl rfl rfl
  | setPaymentRef reference c hpc hrow =>
    have hl' := hl.congr hinv hkeeps rfl fun b p k hnot => absurd (hpc.symm.trans hnot) (by simp)
    exact hl'.idle rfl rfl rfl
  | confirm d charter price caller c hpc hrow hpaid hst =>
    rw [hpc] at hat
    obtain ⟨-, hcharge, hamount⟩ := hat
    refine ⟨⟨rfl, hinv.silent (hinv.settledBy_eq_none hrow hpaid)⟩,
      iff_of_true rfl ⟨d.reference, rfl⟩, ?_⟩
    intro ref href
    cases href
    exact ⟨d, _, price, hcharge, rfl, rfl, rfl, hamount⟩
  | notify charter price caller hpc =>
    have hidle := CharterProc.returns_idle l caller
    have hl' : (l.returns caller).Holds i r := hl.idle (by simp) (by simp) hidle
    refine hl'.congr hinv hkeeps rfl ?_
    intro b p k hnot
    rw [hnot] at hidle
    exact absurd hidle Bool.false_ne_true

/-- **The other calls may go on as they were.** -/
theorem CharterProc.Holds.other (hl : l.Holds i r) (hinv : CharterInv r)
    (he : CharterEffect charterId i l r x l' r') {j : ℕ} {m : CharterProc}
    (hm : m.Holds j r) (hne : j ≠ i) : m.Holds j r' := by
  have hkeeps := he.keepsPayment
  have hat := hl.at_pc
  unfold CharterProc.At at hat
  cases he with
  | idle => exact hm
  | check => exact hm
  | ask => exact hm
  | arrive => exact hm
  | agree => exact hm
  | write w charter c hpc hfault hrow =>
    refine hm.congr hinv hkeeps rfl ?_
    intro b p k _
    rw [List.countP_append, countP_events, Nat.add_zero]
  | setPaymentRef reference c hpc hrow => exact hm.congr hinv hkeeps rfl fun _ _ _ _ => rfl
  | confirm d charter price caller c hpc hrow hpaid hst =>
    have hnone := hinv.settledBy_eq_none hrow hpaid
    have hflip : m.flipped = false := by
      rw [Bool.eq_false_iff]
      intro hflip
      obtain ⟨ref, href⟩ := hm.flipped.mp hflip
      rw [hnone] at href
      exact absurd href (by simp)
    refine ⟨?_, ?_, ?_⟩
    · -- nothing was paid before, and no other call stands at the event
      have hatm := hm.at_pc
      unfold CharterProc.At at hatm ⊢
      split
      · next hpcm => rw [hpcm] at hatm; exact hatm
      · next hpcm => rw [hpcm] at hatm; exact hatm
      · next hpcm =>
        rw [hpcm] at hatm
        exact ⟨hatm.1, fun _ => ⟨_, rfl, rfl⟩⟩
      · next hpcm => rw [hpcm] at hatm; exact hatm
      · next hpcm => rw [hpcm] at hatm; exact hatm
      · next hpcm => rw [hpcm] at hatm; exact hatm
      all_goals trivial
    · rw [hflip]
      refine iff_of_false (by simp) ?_
      rintro ⟨ref, href⟩
      cases href
      exact hne rfl
    · intro ref href
      cases href
      exact absurd rfl hne
  | notify charter price caller hpc =>
    rw [hpc] at hat
    obtain ⟨ref, href⟩ := hl.flipped.mp hat.1
    refine hm.congr hinv hkeeps rfl ?_
    intro b p k hpcm
    -- two calls at the event would both have confirmed the charter
    have hatm := hm.at_pc
    rw [CharterProc.At, hpcm] at hatm
    obtain ⟨ref', href'⟩ := hm.flipped.mp hatm.1
    rw [href, Option.some.injEq, Prod.mk.injEq] at href'
    exact absurd href'.1.symm hne

/-! ## The outline -/

theorem charter_env {data : CharterRequest}
    (h : (charterMachine charterId).env r data = some r') :
    r.row = none ∧ r' = { r with row := some (Charters.create charterId data) } := by
  unfold charterMachine at h
  dsimp only at h
  split at h
  · next hrow =>
    cases h
    exact ⟨hrow, rfl⟩
  · exact absurd h (by simp)

theorem CharterInv.env (h : CharterInv r) {data : CharterRequest}
    (he : (charterMachine charterId).env r data = some r') : CharterInv r' := by
  obtain ⟨hrow, rfl⟩ := charter_env he
  refine ⟨?_, ?_, ?_, h.silent, h.emitted⟩
  · intro _ c hc
    cases hc
    exact ⟨rfl, rfl⟩
  · intro p hp
    obtain ⟨c, hc, -⟩ := h.paid p hp
    rw [hrow] at hc
    exact absurd hc (by simp)
  · intro c hc hset
    cases hc
    exact absurd hset Bool.false_ne_true

theorem keepsPayment_env {data : CharterRequest}
    (he : (charterMachine charterId).env r data = some r') : r.KeepsPayment r' := by
  obtain ⟨hrow, -⟩ := charter_env he
  intro c hc
  rw [hrow] at hc
  exact absurd hc (by simp)

theorem CharterProc.Holds.start (op : CharterOp) (hnot : ∀ ref, r.settledBy ≠ some (i, ref)) :
    ((charterMachine charterId).start op).Holds i r where
  at_pc := rfl
  flipped := iff_of_false Bool.false_ne_true fun ⟨ref, href⟩ => hnot ref href
  amount ref href := absurd href (hnot ref)

/-- **The proof outline of the calls on a charter.** -/
theorem charterOutline (charterId : CharterId) :
    (charterMachine charterId).Outline (fun _ => True) (fun r => r = ⟨none, [], none⟩)
      (fun n r => CharterInv r ∧ ∀ p, r.settledBy = some p → p.1 < n)
      CharterProc.Holds where
  init := by
    rintro _ rfl
    exact ⟨⟨fun _ c hc => absurd hc (by simp), fun p hp => absurd hp (by simp),
      fun c hc => absurd hc (by simp), fun _ => rfl, Nat.zero_le 1⟩, fun p hp =>
      absurd hp (by simp)⟩
  spawn n op r _ hG := ⟨hG.1, fun p hp => Nat.lt_succ_of_lt (hG.2 p hp)⟩
  start n op r _ hG := .start op fun ref href => Nat.lt_irrefl n (hG.2 _ href)
  shared n i x l r l' r' _ hi hG hL hs := by
    have he := CharterProc.step_effect hs
    refine ⟨hG.1.effect hL he, ?_⟩
    intro p hp
    cases he with
    | confirm =>
      cases hp
      exact hi
    | _ => exact hG.2 p hp
  self n i x l r l' r' _ _ hG hL hs := hL.step hG.1 (CharterProc.step_effect hs)
  other n i x l r l' r' j m _ _ hne hG hL hm hs :=
    hL.other hG.1 (CharterProc.step_effect hs) hm hne
  env_shared n data r r' _ hG hs := by
    refine ⟨hG.1.env hs, ?_⟩
    obtain ⟨-, rfl⟩ := charter_env hs
    exact hG.2
  env_other n data r r' j m _ hG hm hs := by
    have hkeeps := keepsPayment_env hs
    obtain ⟨-, rfl⟩ := charter_env hs
    exact hm.congr hG.1 hkeeps rfl fun _ _ _ _ => rfl

/-- What holds in every configuration that calls on a charter reach. -/
theorem charter_asserts (h : (charters charterId).Reachable c) :
    CharterInv c.shared ∧ (∀ p, c.shared.settledBy = some p → p.1 < c.procs.length) ∧
      ∀ (i : ℕ) (l : CharterProc), c.procs[i]? = some l → l.Holds i c.shared := by
  obtain ⟨⟨hinv, hlt⟩, hall⟩ := (charterOutline charterId).invariant h.by_any
  exact ⟨hinv, hlt, hall⟩

/-! ## All runs -/

/-- A payment, once made, stays as it is. -/
theorem payment_stays (h : (charters charterId).Reachable c)
    (hl : (charters charterId).Leads c c') : c.shared.KeepsPayment c'.shared := by
  refine hl.rel (R := fun m m' => m.shared.KeepsPayment m'.shared) h
    (fun m row hrow _ => ⟨row, hrow, rfl, rfl⟩) ?_ ?_
  · intro a b d hab hbd row hrow hpaid
    obtain ⟨row', hrow', hpaid', hamount'⟩ := hab row hrow hpaid
    have hsome : row'.paidAt.isSome = true := by
      rw [hpaid']
      exact hpaid
    obtain ⟨row'', hrow'', hpaid'', hamount''⟩ := hbd row' hrow' hsome
    exact ⟨row'', hrow'', hpaid''.trans hpaid', hamount''.trans hamount'⟩
  · intro m a m' hm hs
    rcases Machine.next_cases hs with ⟨o, rfl, rfl⟩ | ⟨i, x, l, l', r', rfl, hi, hstep, rfl⟩ |
      ⟨data, r', rfl, henv, rfl⟩
    · exact fun row hrow _ => ⟨row, hrow, rfl, rfl⟩
    · exact (CharterProc.step_effect hstep).keepsPayment
    · exact keepsPayment_env henv

/-! ## Success events -/

/-- In the course of the run Paystack has answered a verify callback that a payment of this
amount has succeeded: the payment that the stored row named when the callback read it. -/
def CharterVerified (charterId : CharterId) (c : Config CharterDB CharterProc)
    (acts : List (Act CharterOp CharterInput CharterRequest)) (amount : ℚ) : Prop :=
  ∃ i l x userId charter reference, Machine.Took (charters charterId) c acts i l x ∧
    l.op = .verifyPayment userId ∧ l.pc = .lookup charter reference ∧
    charter.paymentRef = some reference ∧
    (∃ m ∈ (charters charterId).trace c acts, m.shared.row = some charter) ∧
    x.lookedUp = .ok (some ⟨.success, amount⟩)

/-- In the course of the run a success event for the charter with this amount has been
delivered: by a webhook, or by Paystack's answer to a verify callback. -/
def CharterDelivered (charterId : CharterId) (c : Config CharterDB CharterProc)
    (acts : List (Act CharterOp CharterInput CharterRequest)) (amount : ℚ) : Prop :=
  (∃ body reference, .spawn (.webhook body) ∈ acts ∧
    routeWebhook body = .charter charterId reference amount) ∨
  CharterVerified charterId c acts amount

section History

variable {acts : List (Act CharterOp CharterInput CharterRequest)} {amount : ℚ}

theorem CharterDelivered.snoc (h : CharterDelivered charterId c acts amount)
    (a : Act CharterOp CharterInput CharterRequest) :
    CharterDelivered charterId c (acts ++ [a]) amount := by
  rcases h with ⟨body, reference, hmem, hroute⟩ | ⟨i, l, x, userId, charter, reference, htook,
    hop, hpc, href, ⟨m, hm, hrow⟩, hanswer⟩
  · exact Or.inl ⟨body, reference, List.mem_append_left _ hmem, hroute⟩
  · exact Or.inr ⟨i, l, x, userId, charter, reference, htook.snoc a, hop, hpc, href,
      ⟨m, System.mem_trace_append hm, hrow⟩, hanswer⟩

/-- What the run so far has brought a call: the row that a callback asks about was stored, and
the charge that has reached a call was delivered. -/
structure CharterProc.Brought (charterId : CharterId) (c : Config CharterDB CharterProc)
    (acts : List (Act CharterOp CharterInput CharterRequest)) (l : CharterProc) : Prop where
  spawned : .spawn l.op ∈ acts
  asked : ∀ charter reference, l.pc = .lookup charter reference →
    (∃ userId, l.op = .verifyPayment userId) ∧ charter.paymentRef = some reference ∧
      ∃ m ∈ (charters charterId).trace c acts, m.shared.row = some charter
  delivered : ∀ d, l.charge = some d → CharterDelivered charterId c acts d.webhookAmountKobo

theorem CharterProc.Brought.snoc (h : l.Brought charterId c acts)
    (a : Act CharterOp CharterInput CharterRequest) : l.Brought charterId c (acts ++ [a]) where
  spawned := List.mem_append_left _ h.spawned
  asked charter reference hpc := by
    obtain ⟨huser, href, m, hm, hrow⟩ := h.asked charter reference hpc
    exact ⟨huser, href, m, System.mem_trace_append hm, hrow⟩
  delivered d hd := (h.delivered d hd).snoc a

/-- A call that asks nobody keeps what it has been brought. -/
theorem CharterProc.Brought.keep (h : l.Brought charterId c acts) (hop : l'.op = l.op)
    (hcharge : l'.charge = l.charge) (hpc : ∀ b p, l'.pc ≠ .lookup b p) :
    l'.Brought charterId c acts where
  spawned := by rw [hop]; exact h.spawned
  asked b p heq := absurd heq (hpc b p)
  delivered := by rw [hcharge]; exact h.delivered

theorem CharterPc.ne_lookup_of_idle {pc : CharterPc} (h : pc.idle = true) (b : Charter) (p : Ref) :
    pc ≠ .lookup b p := by
  rintro rfl
  exact Bool.false_ne_true h

/-- **A step brings a call its charge.** -/
theorem CharterProc.Brought.step {m : Config CharterDB CharterProc}
    (h : l.Brought charterId c acts) (hrun : (charters charterId).run c acts = some m)
    (hi : m.procs[i]? = some l) (he : CharterEffect charterId i l m.shared x l' r') :
    l'.Brought charterId c (acts ++ [.run i x]) := by
  have hnext := h.snoc (.run i x)
  cases he with
  | idle _ hop hcharge _ hidle => exact hnext.keep hop hcharge (CharterPc.ne_lookup_of_idle hidle)
  | check => exact hnext.keep rfl rfl (by simp [CharterProc.goto])
  | ask charter reference userId hpc hop hrow href =>
    refine ⟨hnext.spawned, ?_, hnext.delivered⟩
    rintro _ _ ⟨⟩
    exact ⟨⟨userId, hop⟩, href, m, System.mem_trace_append (System.mem_trace_of_run hrun), hrow⟩
  | arrive d caller hfrom =>
    refine ⟨hnext.spawned, fun b p heq => absurd heq (by simp), ?_⟩
    rintro _ ⟨⟩
    rcases hfrom with ⟨-, body, hop, hroute⟩ | ⟨charter, hpc, hanswer⟩
    · have hspawned := hnext.spawned
      rw [hop] at hspawned
      exact Or.inl ⟨body, d.reference, hspawned, hroute⟩
    · obtain ⟨⟨userId, hop⟩, href, hstored⟩ := hnext.asked charter d.reference hpc
      exact Or.inr ⟨i, l, x, userId, charter, d.reference, Machine.took_last hrun hi x, hop, hpc,
        href, hstored, hanswer⟩
  | agree => exact hnext.keep rfl rfl (by simp [CharterProc.goto])
  | write => exact hnext.keep rfl rfl (by simp [CharterProc.finish])
  | setPaymentRef => exact hnext.keep rfl rfl (by simp [CharterProc.finish])
  | confirm => exact hnext.keep rfl rfl (by simp)
  | notify charter price caller =>
    exact hnext.keep (by simp) (by simp)
      (CharterPc.ne_lookup_of_idle (CharterProc.returns_idle l caller))

/-- **Whatever charge has reached a call was delivered.** -/
theorem charter_brought (h : (charters charterId).init c₀)
    (hrun : (charters charterId).run c₀ acts = some c) (hi : c.procs[i]? = some l) :
    l.Brought charterId c₀ acts := by
  refine Machine.local_history (H := fun acts l => l.Brought charterId c₀ acts)
    (fun acts a l hl => hl.snoc a) ?_ ?_ h hrun hi
  · intro acts op
    exact ⟨List.mem_append_right _ (List.mem_singleton_self _),
      fun b p hpc => absurd hpc (by simp [charterMachine]),
      fun d hd => absurd hd (by simp [charterMachine])⟩
  · intro acts m i x l l' r' hm hi hl hs
    exact hl.step hm hi (CharterProc.step_effect hs)

end History

/-- A settled charter has a payment, of the amount of a success event that was delivered. -/
theorem charter_settled_delivered (h : (charters charterId).init c₀)
    {acts : List (Act CharterOp CharterInput CharterRequest)}
    (hrun : (charters charterId).run c₀ acts = some c) {row : Charter}
    (hrow : c.shared.row = some row) (hset : Charters.settled row = true) :
    ∃ paidAt paidAmount, row.paidAt = some paidAt ∧ row.paidAmount = some paidAmount ∧
      CharterDelivered charterId c₀ acts (Charters.amountKobo paidAmount) := by
  obtain ⟨hinv, hlt, hall⟩ := charter_asserts ⟨c₀, h, acts, hrun⟩
  have hpaid := hinv.confirmed row hrow hset
  cases hs : c.shared.settledBy with
  | none =>
    rw [(hinv.unpaid hs row hrow).1] at hpaid
    exact absurd hpaid (by simp)
  | some p =>
    -- the call that has confirmed the charter still holds the charge it did so for
    obtain ⟨i, ref⟩ := p
    have hi := List.getElem?_eq_getElem (hlt _ hs)
    obtain ⟨d, row', price, hcharge, -, hrow', hprice, hamount⟩ := (hall i _ hi).amount ref hs
    obtain rfl : row = row' := Option.some.inj (hrow.symm.trans hrow')
    obtain ⟨t, ht⟩ := Option.isSome_iff_exists.mp hpaid
    have hdelivered := (charter_brought h hrun hi).delivered d hcharge
    rw [hamount] at hdelivered
    exact ⟨t, price, ht, hprice, hdelivered⟩

/-! ## The statement -/

/-- **A charter is paid once, and never without a payment.**  At most one call confirms
it and `charter.confirmed` is emitted at most once; its payment never changes; and a
confirmed or completed charter has one, of the amount of a success event that has been
delivered for it: `Number(paidAmount) * 100`, and so the amount paid wherever that product is
exact. -/
theorem charter_paid_once (h : (charters charterId).init c₀)
    {acts : List (Act CharterOp CharterInput CharterRequest)}
    (hrun : (charters charterId).run c₀ acts = some c) :
    (∀ (i j : ℕ) (l l' : CharterProc), c.procs[i]? = some l → c.procs[j]? = some l' →
      l.flipped = true → l'.flipped = true → i = j) ∧
    c.shared.emitted.countP CharterEvent.isConfirmed ≤ 1 ∧
    (∀ c', (charters charterId).Leads c c' → ∀ row, c.shared.row = some row →
      row.paidAt ≠ none ∨ row.paidAmount ≠ none →
      ∃ row', c'.shared.row = some row' ∧ row'.paidAt = row.paidAt ∧
        row'.paidAmount = row.paidAmount) ∧
    (∀ row, c.shared.row = some row → row.status = .confirmed ∨ row.status = .completed →
      ∃ paidAt paidAmount, row.paidAt = some paidAt ∧ row.paidAmount = some paidAmount ∧
        CharterDelivered charterId c₀ acts (Charters.amountKobo paidAmount) ∧
        (Charters.amountKobo paidAmount = paidAmount →
          CharterDelivered charterId c₀ acts paidAmount)) := by
  have hreach : (charters charterId).Reachable c := ⟨c₀, h, acts, hrun⟩
  obtain ⟨hinv, -, hall⟩ := charter_asserts hreach
  refine ⟨?_, hinv.emitted, ?_, ?_⟩
  · intro i j l l' hi hj hf hf'
    obtain ⟨ref, href⟩ := (hall i l hi).flipped.mp hf
    obtain ⟨ref', href'⟩ := (hall j l' hj).flipped.mp hf'
    rw [href, Option.some.injEq, Prod.mk.injEq] at href'
    exact href'.1
  · intro c' hl row hrow hpaid
    refine payment_stays hreach hl row hrow ?_
    cases hs : c.shared.settledBy with
    | none =>
      obtain ⟨hnone, hnone'⟩ := hinv.unpaid hs row hrow
      exact hpaid.elim (absurd hnone) (absurd hnone')
    | some p =>
      obtain ⟨row', hrow', hsome, -⟩ := hinv.paid p hs
      rw [hrow, Option.some.injEq] at hrow'
      rw [hrow']
      exact hsome
  · intro row hrow hst
    have hset : Charters.settled row = true := by
      rcases hst with hst | hst <;> simp [Charters.settled, hst]
    obtain ⟨t, price, ht, hprice, hdelivered⟩ := charter_settled_delivered h hrun hrow hset
    exact ⟨t, price, ht, hprice, hdelivered, fun hexact => hexact ▸ hdelivered⟩

/-! ## One run -/

/-- What the customer of the sample runs asks for. -/
def busToAbuja : CharterRequest where
  passengerId := 7
  passengerName := "Ada"
  passengerEmail := "ada@example.com"
  vehicleType := "coaster"
  fromLocation := "Lagos"
  toLocation := "Abuja"
  departureAt := 1000000

/-- A quote of 2500 naira. -/
def busQuote : CharterQuote := ⟨2500, "Transit", 2000, 500, none⟩

/-- A step in which nothing fails; Paystack starts payment `55` and knows of no charge. -/
def charterPlain : CharterInput := ⟨false, 900, .ok 55, .ok none⟩

/-- The webhook of a charge for charter `1`. -/
def busWebhook (reference : Ref) (amount : ℚ) : WebhookBody where
  event := "charge.success"
  reference := reference
  status := "success"
  amount := amount
  metadata := some ⟨some "charter", some 1, none, none, none, none⟩

/-- A charter is requested, quoted, accepted and about to be paid. -/
def busQuoted : List (Act CharterOp CharterInput CharterRequest) :=
  [.env busToAbuja, .spawn (.write (.sendQuote busQuote)), .run 0 charterPlain,
    .run 0 charterPlain, .spawn (.write (.acceptQuote 7)), .run 1 charterPlain,
    .run 1 charterPlain]

/-- Its webhook is delivered twice; the deliveries run step by step in turn. -/
def busPaidTwice : List (Act CharterOp CharterInput CharterRequest) :=
  busQuoted ++ [.spawn (.webhook (busWebhook 55 250000)), .spawn (.webhook (busWebhook 55 250000))]
    ++ (List.replicate 3 [.run 2 charterPlain, .run 3 charterPlain]).flatten
    ++ [.run 2 charterPlain]

/-- No charter and no call. -/
def charterStart : Config CharterDB CharterProc := ⟨⟨none, [], none⟩, []⟩

theorem busPaidTwice_runs : ((charters 1).run charterStart busPaidTwice).isSome = true := by
  decide +kernel

/-- Where that run ends. -/
def busPaid : Config CharterDB CharterProc :=
  ((charters 1).run charterStart busPaidTwice).get busPaidTwice_runs

/-- Paystack reports payment `55` of the sample charter as paid in full. -/
def busReported : CharterInput := { charterPlain with lookedUp := .ok (some ⟨.success, 250000⟩) }

/-- The passenger starts payment `55`, and a verify callback finds it paid. -/
def busVerifies : List (Act CharterOp CharterInput CharterRequest) :=
  busQuoted ++ .spawn (.initiatePayment 7) :: List.replicate 3 (.run 2 charterPlain) ++
    .spawn (.verifyPayment 7) :: List.replicate 6 (.run 3 busReported)

theorem busVerifies_runs : ((charters 1).run charterStart busVerifies).isSome = true := by
  decide +kernel

/-- Where that run ends. -/
def busVerified : Config CharterDB CharterProc :=
  ((charters 1).run charterStart busVerifies).get busVerifies_runs

theorem charter_paid_once_bus :
    busPaid.procs.map CharterProc.flipped = [false, false, true, false] ∧
    busPaid.shared.emitted.countP CharterEvent.isConfirmed ≤ 1 ∧
    busVerified.shared.row.map (fun row => (row.status, row.paidAmount)) =
      some (.confirmed, some 250000) ∧
    CharterDelivered 1 charterStart busVerifies 250000 := by
  have hend : busVerified.shared.row.map (fun row => (row.status, row.paidAmount)) =
      some (.confirmed, some 250000) := by
    decide +kernel
  refine ⟨by decide +kernel,
    (charter_paid_once ⟨rfl, rfl⟩ (Option.some_get busPaidTwice_runs).symm).2.1, hend, ?_⟩
  obtain ⟨row, hrow, heq⟩ := Option.map_eq_some_iff.mp hend
  obtain ⟨hst, hpaid⟩ := Prod.mk.inj heq
  obtain ⟨-, amount, -, hamount, -, hdelivered⟩ :=
    (charter_paid_once ⟨rfl, rfl⟩ (Option.some_get busVerifies_runs).symm).2.2.2 row hrow
      (Or.inl hst)
  obtain rfl : amount = 250000 := Option.some.inj (hamount.symm.trans hpaid)
  exact hdelivered (by decide +kernel)

end TransHub
