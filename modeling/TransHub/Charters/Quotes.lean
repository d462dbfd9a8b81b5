import TransHub.Charters.Payment
import TransHub.Payments.Decimal
import TransHub.Trips.Schema

/-!
# The quote of a charter

The price of a quote is checked by `sendQuoteSchema`, rounded by its column, announced as it
was sent, and read back by the guards of the payment and by the request to Paystack.

* `Charters.sendQuoteSchema`: what is accepted.
* `CharterQuotes`: runs whose quotes are of one price; `charterPriceOutline` is what they keep.
* `CharterPayable`: the quote can be paid as it was announced, said of the row, of the events
  and of the calls that have got to Paystack.
* `charterPayable_iff`: the prices at which this holds in every state of every run.
-/

namespace TransHub

open Words (trim)
open Trips (Check Issue issues utf16Length isWhiteSpace)

/-! ## The schema -/

/-- The checks of `sendQuoteSchema` of charters. -/
def Charters.sendQuoteChecks (body : CharterQuote) : List Check :=
  [⟨1 ≤ utf16Length (trim isWhiteSpace body.operatorName.toList), "operatorName",
      some "Operator name is required"⟩,
    ⟨utf16Length (trim isWhiteSpace body.operatorName.toList) ≤ 200, "operatorName", none⟩,
    ⟨0 < body.operatorCost, "operatorCost", some "Operator cost must be positive"⟩,
    ⟨0 ≤ body.serviceFee, "serviceFee", some "Service fee must be non-negative"⟩,
    ⟨0 < body.quotedPrice, "quotedPrice", some "Final customer price must be positive"⟩,
    ⟨body.adminNotes.all fun notes => utf16Length (trim isWhiteSpace notes.toList) ≤ 1000,
      "adminNotes", none⟩]

/-- `sendQuoteSchema` of charters. -/
def Charters.sendQuoteSchema (body : CharterQuote) : Except (List Issue) CharterQuote :=
  match issues (sendQuoteChecks body) with
  | [] => .ok { body with
      operatorName := String.ofList (trim isWhiteSpace body.operatorName.toList)
      adminNotes := body.adminNotes.map fun notes =>
        String.ofList (trim isWhiteSpace notes.toList) }
  | issue :: rest => .error (issue :: rest)

theorem Charters.sendQuoteSchema_pos {body data : CharterQuote}
    (h : sendQuoteSchema body = .ok data) : 0 < data.quotedPrice := by
  unfold sendQuoteSchema at h
  split at h
  · next hissues =>
    cases h
    have hchecks := Trips.issues_eq_nil.mp hissues
    simp only [sendQuoteChecks, List.forall_mem_cons] at hchecks
    exact of_decide_eq_true hchecks.2.2.2.2.1
  · cases h

/-! ## What a call asks Paystack for -/

/-- The row that a call asks Paystack for a payment of. -/
def CharterPc.paysFor : CharterPc → Option Charter
  | initializeFn charter => some charter
  | _ => none

namespace CharterProc

variable {charterId : CharterId} {i : ℕ} {l l' : CharterProc} {r r' : CharterDB}
  {x : CharterInput}

/-- The `amount` that `initializeCharterPayment` asks for, `Number(quotedPrice) * 100`, as an
exact product. -/
def amountKobo (charter : Charter) : ℤ := charter.quotedPrice.getD 0

/-- `initializeCharterPayment` on a row with a price that passes its guards. -/
theorem initializeCharterPayment_of_pos {charter : Charter} {kobo : ℤ}
    (h : charter.quotedPrice = some kobo) (hpos : 0 < kobo) (started : Except StartFailure Ref) :
    initializeCharterPayment charter started =
      started.mapError (StartFailure.error "charter payment") := by
  unfold initializeCharterPayment
  split
  · next hnone => exact absurd (hnone.symm.trans h) (by simp)
  · next hsome =>
    obtain rfl := Option.some.inj (hsome.symm.trans h)
    rw [if_neg (not_le.mpr (Charters.amountKobo_pos hpos))]
    cases started <;> rfl

/-- A row that passes `initiatePayment` awaits payment. -/
theorem checkInitiate_ok {passengerId : UserId} {row : Option Charter} {charter : Charter}
    (h : checkInitiate passengerId row = .ok charter) :
    row = some charter ∧ charter.status = .awaitingPayment := by
  obtain ⟨c, hrow, h⟩ := bind_eq_ok.mp h
  obtain ⟨_, -, h⟩ := bind_eq_ok.mp h
  obtain ⟨_, hst, h⟩ := bind_eq_ok.mp h
  obtain ⟨_, -, h⟩ := bind_eq_ok.mp h
  cases h
  exact ⟨orThrow_eq_ok.mp hrow, by simpa using ensure_eq_ok.mp hst⟩

theorem paysFor_returns (caller : Option Charter) : (l.returns caller).pc.paysFor = none := by
  cases caller <;> rfl

theorem paysFor_throws (caller : Option Charter) (e : Thrown) :
    (l.throws caller e).pc.paysFor = none := by
  cases caller <;> rfl

theorem paysFor_verifyStart (userId : UserId) (row : Option Charter) :
    (l.verifyStart userId row).pc.paysFor = none := by
  unfold verifyStart
  split
  · rfl
  · split
    · rfl
    · split
      · rfl
      · split
        · rfl
        · split <;> rfl

theorem paysFor_lookedUp (charter : Charter) (reference : Ref) (now : Time)
    (answer : Except ProviderFailure (Option VerifiedTransaction)) :
    (l.lookedUp charter reference now answer).pc.paysFor = none := by
  unfold lookedUp
  split
  · rfl
  · rfl
  · split <;> rfl

theorem paysFor_route (now : Time) (body : WebhookBody) :
    (l.route charterId now body).pc.paysFor = none := by
  unfold route
  split
  · split <;> rfl
  · rfl

theorem paysFor_checkCharge (d : CharterCharge) (caller row : Option Charter) :
    (l.checkCharge d caller row).pc.paysFor = none := by
  unfold checkCharge
  split
  · exact paysFor_returns caller
  · split
    · exact paysFor_returns caller
    · split
      · exact paysFor_returns caller
      · dsimp only
        split
        · exact paysFor_returns caller
        · rfl

/-- **A call gets to Paystack through the checks of `initiatePayment`.** -/
theorem step_paysFor (h : step charterId i l r x = some (l', r')) :
    l'.pc.paysFor = none ∨
      ∃ passengerId charter, checkInitiate passengerId r.row = .ok charter ∧
        l'.pc.paysFor = some charter := by
  cases step_cases h with
  | route => exact Or.inl (paysFor_route _ _)
  | check =>
    unfold after
    split <;> exact Or.inl rfl
  | initiate passengerId =>
    unfold after
    split
    · exact Or.inl rfl
    · next charter hcheck => exact Or.inr ⟨passengerId, charter, hcheck, rfl⟩
  | verify => exact Or.inl (paysFor_verifyStart _ _)
  | lookup => exact Or.inl (paysFor_lookedUp _ _ _ _)
  | throws => exact Or.inl (paysFor_throws _ _)
  | find => exact Or.inl (paysFor_checkCharge _ _ _)
  | late | notify => exact Or.inl (paysFor_returns _)
  | _ => exact Or.inl rfl

end CharterProc

/-! ## Runs of one price -/

/-- Every quote that is sent for the charter is of this price. -/
def CharterQuotes (q : ℚ) (a : Act CharterOp CharterInput CharterRequest) : Prop :=
  ∀ data, a = .spawn (.write (.sendQuote data)) → data.quotedPrice = q

/-- The row has the price that its column makes of the quote. -/
def CharterDB.Stores (r : CharterDB) (q : ℚ) : Prop :=
  ∃ charter, r.row = some charter ∧ charter.quotedPrice = some (decimal q)

/-- The assertion on the row and its events. -/
structure CharterPriced (q : ℚ) (r : CharterDB) : Prop where
  stored : ∀ charter, r.row = some charter →
    charter.status = .quoteSent ∨ charter.status = .awaitingPayment →
      charter.quotedPrice = some (decimal q)
  announced : ∀ n p, CharterEvent.quoted n p ∈ r.emitted → p = q

/-- The assertion on a call. -/
structure CharterProc.Priced (q : ℚ) (l : CharterProc) (r : CharterDB) : Prop where
  op : ∀ data, l.op = .write (.sendQuote data) → data.quotedPrice = q
  sends : ∀ data charter, l.pc = .write (.sendQuote data) charter → data.quotedPrice = q
  accepts : ∀ passengerId charter, l.pc = .write (.acceptQuote passengerId) charter → r.Stores q
  pays : ∀ charter, l.pc.paysFor = some charter → charter.quotedPrice = some (decimal q)

section Charters

variable {charterId : CharterId} {i : ℕ} {l l' : CharterProc} {r r' : CharterDB}
  {x : CharterInput} {q : ℚ}

/-- No step takes the price away. -/
theorem CharterEffect.stores (he : CharterEffect charterId i l r x l' r')
    (hsends : ∀ data charter, l.pc = .write (.sendQuote data) charter → data.quotedPrice = q)
    (h : r.Stores q) : r'.Stores q := by
  obtain ⟨charter, hrow, hprice⟩ := h
  cases he with
  | idle => exact ⟨charter, hrow, hprice⟩
  | check => exact ⟨charter, hrow, hprice⟩
  | ask => exact ⟨charter, hrow, hprice⟩
  | arrive => exact ⟨charter, hrow, hprice⟩
  | agree => exact ⟨charter, hrow, hprice⟩
  | write w read c hpc hfault hc =>
    obtain rfl := Option.some.inj (hc.symm.trans hrow)
    refine ⟨_, rfl, ?_⟩
    cases w with
    | sendQuote data => exact congrArg (fun p => some (decimal p)) (hsends data read hpc)
    | _ => exact hprice
  | setPaymentRef reference c hpc hc =>
    obtain rfl := Option.some.inj (hc.symm.trans hrow)
    exact ⟨_, rfl, hprice⟩
  | confirm d read price caller c hpc hc =>
    obtain rfl := Option.some.inj (hc.symm.trans hrow)
    exact ⟨_, rfl, hprice⟩
  | notify => exact ⟨charter, hrow, hprice⟩

/-- **A step keeps the assertion on the row.** -/
theorem CharterPriced.effect (h : CharterPriced q r) (hl : l.Priced q r)
    (he : CharterEffect charterId i l r x l' r') : CharterPriced q r' := by
  cases he with
  | idle => exact h
  | check => exact h
  | ask => exact h
  | arrive => exact h
  | agree => exact h
  | write w read c hpc hfault hc =>
    constructor
    · intro charter hrow hst
      obtain rfl := Option.some.inj hrow
      cases w with
      | sendQuote data => exact congrArg (fun p => some (decimal p)) (hl.sends data read hpc)
      | acceptQuote passengerId =>
        obtain ⟨c', hc', hprice⟩ := hl.accepts passengerId read hpc
        obtain rfl := Option.some.inj (hc.symm.trans hc')
        exact hprice
      | rejectQuote passengerId => rcases hst with hst | hst <;> cases hst
      | adminConfirmBooking data => exact h.stored c hc hst
      | completeCharter => rcases hst with hst | hst <;> cases hst
      | cancelCharter requestingUserId role => rcases hst with hst | hst <;> cases hst
    · intro n p hp
      rcases List.mem_append.mp hp with hp | hp
      · exact h.announced n p hp
      · cases w with
        | sendQuote data =>
          cases List.mem_singleton.mp hp
          exact hl.sends data read hpc
        | adminConfirmBooking data => cases List.mem_singleton.mp hp
        | completeCharter => cases List.mem_singleton.mp hp
        | _ => cases hp
  | setPaymentRef reference c hpc hc =>
    refine ⟨?_, h.announced⟩
    intro charter hrow hst
    obtain rfl := Option.some.inj hrow
    exact h.stored c hc hst
  | confirm d read price caller c hpc hc =>
    refine ⟨?_, h.announced⟩
    intro charter hrow hst
    obtain rfl := Option.some.inj hrow
    rcases hst with hst | hst <;> cases hst
  | notify read price caller hpc =>
    refine ⟨h.stored, ?_⟩
    intro n p hp
    rcases List.mem_append.mp hp with hp | hp
    · exact h.announced n p hp
    · cases List.mem_singleton.mp hp

/-- The write of a call is the one that its check has let through. -/
theorem CharterEffect.write_pc (he : CharterEffect charterId i l r x l' r') {w : CharterWrite}
    {charter : Charter} (hpc' : l'.pc = .write w charter) :
    l.op = .write w ∧ r'.row = some charter ∧ charter.status ∈ w.accepts := by
  cases he with
  | check w₀ read hpc hop hrow hst =>
    cases hpc'
    exact ⟨hop, hrow, hst⟩
  | idle _ _ _ _ hidle =>
    rw [hpc'] at hidle
    cases hidle
  | notify read price caller hpc => cases caller <;> cases hpc'
  | _ => cases hpc'

/-- **A step keeps the assertion on its call.** -/
theorem CharterProc.Priced.step (hl : l.Priced q r) (h : CharterPriced q r)
    (hs : CharterProc.step charterId i l r x = some (l', r')) : l'.Priced q r' := by
  have heff := CharterProc.step_effect hs
  have hop := CharterProc.step_op hs
  have h' := h.effect hl heff
  constructor
  · intro data hdata
    exact hl.op data (hop ▸ hdata)
  · intro data charter hpc
    exact hl.op data (heff.write_pc hpc).1
  · intro passengerId charter hpc
    obtain ⟨-, hrow, hst⟩ := heff.write_pc hpc
    exact ⟨charter, hrow, h'.stored charter hrow (Or.inl (List.mem_singleton.mp hst))⟩
  · intro charter hpays
    rcases CharterProc.step_paysFor hs with hnone | ⟨passengerId, c, hcheck, hsome⟩
    · exact absurd (hnone.symm.trans hpays) (by simp)
    · obtain rfl := Option.some.inj (hsome.symm.trans hpays)
      obtain ⟨hrow, hst⟩ := CharterProc.checkInitiate_ok hcheck
      exact h.stored c hrow (Or.inr hst)

end Charters

/-- **The proof outline of a charter whose quotes are of one price.** -/
theorem charterPriceOutline (charterId : CharterId) (q : ℚ) :
    (charterMachine charterId).Outline (CharterQuotes q) (fun r => r = ⟨none, [], none⟩)
      (fun _ r => CharterPriced q r) (fun _ l r => l.Priced q r) where
  init := by
    rintro r rfl
    exact ⟨fun charter hrow => absurd hrow (by simp), fun n p hp => absurd hp (by simp)⟩
  spawn n o r _ h := h
  start n o r ho _ := by
    refine ⟨?_, by rintro _ _ ⟨⟩, by rintro _ _ ⟨⟩, by rintro _ ⟨⟩⟩
    intro data hop
    exact ho data (congrArg Act.spawn hop)
  shared n i x l r l' r' _ _ h hl hs := h.effect hl (CharterProc.step_effect hs)
  self n i x l r l' r' _ _ h hl hs := hl.step h hs
  other n i x l r l' r' j m _ _ _ h hl hm hs :=
    { hm with
      accepts := fun passengerId charter hpc =>
        (CharterProc.step_effect hs).stores hl.sends (hm.accepts passengerId charter hpc) }
  env_shared n data r r' _ h he := by
    obtain ⟨hrow, rfl⟩ := charter_env he
    refine ⟨?_, h.announced⟩
    intro charter hcharter hst
    obtain rfl := Option.some.inj hcharter
    rcases hst with hst | hst <;> cases hst
  env_other n data r r' j m _ h hm he := by
    obtain ⟨hrow, rfl⟩ := charter_env he
    refine { hm with accepts := ?_ }
    intro passengerId charter hpc
    obtain ⟨c, hc, -⟩ := hm.accepts passengerId charter hpc
    exact absurd (hrow.symm.trans hc) (by simp)

/-! ## What can be paid as announced -/

/-- A quote of the charter can be paid as it was announced: while it stands its stored price
is positive, the customer may accept it and then start a payment, and a call that starts one
fails for no reason of its own and asks for the price that every event has announced. -/
structure CharterPayable (q : ℚ) (c : Config CharterDB CharterProc) : Prop where
  announced : ∀ n p, CharterEvent.quoted n p ∈ c.shared.emitted → p = q
  stored : ∀ charter, c.shared.row = some charter →
    charter.status = .quoteSent ∨ charter.status = .awaitingPayment →
      ∃ kobo, charter.quotedPrice = some kobo ∧ 0 < kobo
  accepted : ∀ charter, c.shared.row = some charter → charter.status = .quoteSent →
    (CharterWrite.acceptQuote charter.passengerId).check c.shared.row = .ok charter
  initiated : ∀ charter, c.shared.row = some charter → charter.status = .awaitingPayment →
    CharterProc.checkInitiate charter.passengerId c.shared.row = .ok charter
  started : ∀ (i : ℕ) l charter, c.procs[i]? = some l → l.pc = .initializeFn charter →
    ∀ answer, CharterProc.initializeCharterPayment charter answer =
      answer.mapError (StartFailure.error "charter payment")
  charged : ∀ (i : ℕ) l charter, c.procs[i]? = some l → l.pc = .initializeFn charter →
    (CharterProc.amountKobo charter : ℚ) = q * 100

/-- The guards of `initiatePayment` let the owner of a charter with a price through. -/
theorem CharterProc.checkInitiate_of {charter : Charter} {kobo : ℤ}
    (hst : charter.status = .awaitingPayment) (hprice : charter.quotedPrice = some kobo) :
    checkInitiate charter.passengerId (some charter) = .ok charter := by
  simp [checkInitiate, Charters.found, Charters.checkOwner, orThrow, ensure, hst, hprice, bind,
    Except.bind, pure, Except.pure]

theorem CharterWrite.check_acceptQuote {charter : Charter} (hst : charter.status = .quoteSent) :
    (acceptQuote charter.passengerId).check (some charter) = .ok charter := by
  simp [check, checkRequester, accepts, Charters.found, Charters.checkOwner, orThrow, ensure, hst,
    bind, Except.bind, pure, Except.pure]

/-- **Whole kobo can be paid as announced.**  In every run. -/
theorem charterPayable_of_wholeKobo {charterId : CharterId} {q : ℚ} (hq : 0 < q)
    (hwhole : WholeKobo q) {c : Config CharterDB CharterProc}
    (h : (charters charterId).ReachableBy (CharterQuotes q) c) : CharterPayable q c := by
  obtain ⟨hrow, hcalls⟩ := (charterPriceOutline charterId q).invariant h
  have hpos := hwhole.decimal_pos hq
  have hpays : ∀ (i : ℕ) l charter, c.procs[i]? = some l → l.pc = .initializeFn charter →
      charter.quotedPrice = some (decimal q) := by
    intro i l charter hi hpc
    exact (hcalls i l hi).pays charter (congrArg CharterPc.paysFor hpc)
  constructor
  · exact hrow.announced
  · intro charter hcharter hst
    exact ⟨decimal q, hrow.stored charter hcharter hst, hpos⟩
  · intro charter hcharter hst
    rw [hcharter]
    exact CharterWrite.check_acceptQuote hst
  · intro charter hcharter hst
    rw [hcharter]
    exact CharterProc.checkInitiate_of hst (hrow.stored charter hcharter (Or.inr hst))
  · intro i l charter hi hpc
    exact CharterProc.initializeCharterPayment_of_pos (hpays i l charter hi hpc) hpos
  · intro i l charter hi hpc
    rw [CharterProc.amountKobo, hpays i l charter hi hpc]
    exact (decimal_eq_iff hq.le).mpr hwhole

/-- A charter is requested, quoted and accepted, and its customer starts the payment. -/
def quotedCharter (data : CharterQuote) : List (Act CharterOp CharterInput CharterRequest) :=
  [.env busToAbuja, .spawn (.write (.sendQuote data)), .run 0 charterPlain, .run 0 charterPlain,
    .spawn (.write (.acceptQuote 7)), .run 1 charterPlain, .run 1 charterPlain,
    .spawn (.initiatePayment 7), .run 2 charterPlain]

/-- That run stands before the request to Paystack. -/
theorem quotedCharter_reaches (data : CharterQuote) : ∃ c charter l,
    (charters 1).ReachableBy (CharterQuotes data.quotedPrice) c ∧ c.procs[2]? = some l ∧
      l.pc = .initializeFn charter ∧ charter.quotedPrice = some (decimal data.quotedPrice) := by
  refine ⟨_, _, _, ⟨charterStart, quotedCharter data, ⟨rfl, rfl⟩, ?_, rfl⟩, rfl, rfl, rfl⟩
  intro a ha data' heq
  simp only [quotedCharter, heq, List.mem_cons, List.not_mem_nil, Act.spawn.injEq,
    CharterOp.write.injEq, CharterWrite.sendQuote.injEq, reduceCtorEq, false_or, or_false] at ha
  rw [ha]

/-- **The quotes of a charter that can be paid as announced are those of whole kobo.** -/
theorem charterPayable_iff {body data : CharterQuote}
    (haccepted : Charters.sendQuoteSchema body = .ok data) :
    (∀ charterId c, (charters charterId).ReachableBy (CharterQuotes data.quotedPrice) c →
      CharterPayable data.quotedPrice c) ↔ WholeKobo data.quotedPrice := by
  have hpos := Charters.sendQuoteSchema_pos haccepted
  constructor
  · intro h
    obtain ⟨c, charter, l, hreach, hi, hpc, hprice⟩ := quotedCharter_reaches data
    have hcharged := (h 1 c hreach).charged 2 l charter hi hpc
    rw [CharterProc.amountKobo, hprice] at hcharged
    exact (decimal_eq_iff hpos.le).mp hcharged
  · intro hwhole charterId c hreach
    exact charterPayable_of_wholeKobo hpos hwhole hreach

end TransHub
