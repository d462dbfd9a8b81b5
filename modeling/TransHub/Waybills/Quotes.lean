import TransHub.Waybills.Payment
import TransHub.Payments.Decimal
import TransHub.Trips.Schema

/-!
# The quote of a waybill

As for charters, but the payment follows the quote at once, and the amount is announced in a
step of its own after the write.

* `Waybills.sendQuoteSchema`: what is accepted.
* `WaybillQuotes`: runs whose quotes are of one amount; `waybillPriceOutline` is what they keep.
* `WaybillPayable`: the quote can be paid as it was announced.
* `waybillPayable_iff`: the amounts at which this holds in every state of every run.
-/

namespace TransHub

open Trips (Check Issue issues utf16Length)

/-! ## The schema -/

/-- The checks of `sendQuoteSchema` of waybills. -/
def Waybills.sendQuoteChecks (body : WaybillQuote) : List Check :=
  [⟨0 < body.quoteAmount, "quoteAmount", some "Quote amount must be positive"⟩,
    ⟨body.quoteNote.all fun note => utf16Length note.toList ≤ 500, "quoteNote", none⟩]

/-- `sendQuoteSchema` of waybills. -/
def Waybills.sendQuoteSchema (body : WaybillQuote) : Except (List Issue) WaybillQuote :=
  match issues (sendQuoteChecks body) with
  | [] => .ok body
  | issue :: rest => .error (issue :: rest)

theorem Waybills.sendQuoteSchema_pos {body data : WaybillQuote}
    (h : sendQuoteSchema body = .ok data) : 0 < data.quoteAmount := by
  unfold sendQuoteSchema at h
  split at h
  · next hissues =>
    cases h
    have hchecks := Trips.issues_eq_nil.mp hissues
    simp only [sendQuoteChecks, List.forall_mem_cons] at hchecks
    exact of_decide_eq_true hchecks.1
  · cases h

/-! ## What a call carries -/

/-- The call carries a quote, or a row to pay for. -/
def WaybillPc.carries : WaybillPc → Bool
  | write _ _ | written _ | initializeFn _ => true
  | _ => false

namespace WaybillProc

variable {waybillId : WaybillId} {i : ℕ} {l l' : WaybillProc} {r r' : WaybillDB}
  {x : WaybillInput}

/-- The `amount` that `initializeWaybillPayment` asks for, `Number(fee) * 100`, as an exact
product. -/
def amountKobo (waybill : Waybill) : ℤ := waybill.fee

/-- `initializeWaybillPayment` on a row with a fee that passes its guard. -/
theorem initializeWaybillPayment_of_pos {waybill : Waybill} (hpos : 0 < waybill.fee)
    (started : Except StartFailure Ref) :
    initializeWaybillPayment waybill started =
      started.mapError (StartFailure.error "waybill payment") := by
  unfold initializeWaybillPayment
  dsimp only
  rw [if_neg (not_le.mpr hpos)]
  cases started <;> rfl

/-- A row that passes `initiatePay` has a quote. -/
theorem checkInitiate_ok {userId : UserId} {row : Option Waybill} {waybill : Waybill}
    (h : checkInitiate userId row = .ok waybill) :
    row = some waybill ∧ waybill.status = .quoteSent := by
  obtain ⟨w, hrow, h⟩ := bind_eq_ok.mp h
  obtain ⟨_, -, h⟩ := bind_eq_ok.mp h
  obtain ⟨_, hst, h⟩ := bind_eq_ok.mp h
  obtain ⟨_, -, h⟩ := bind_eq_ok.mp h
  cases h
  exact ⟨orThrow_eq_ok.mp hrow, by simpa using ensure_eq_ok.mp hst⟩

theorem carries_returns (caller : Option Waybill) : (l.returns caller).pc.carries = false := by
  cases caller <;> rfl

theorem carries_throws (caller : Option Waybill) (e : Thrown) :
    (l.throws caller e).pc.carries = false := by
  cases caller <;> rfl

theorem carries_verifyStart (reference : Ref) (userId : UserId) (row : Option Waybill) :
    (l.verifyStart reference userId row).pc.carries = false := by
  unfold verifyStart
  split
  · rfl
  · split
    · rfl
    · split
      · rfl
      · split <;> rfl

theorem carries_lookedUp (waybill : Waybill) (reference : Ref) (now : Time)
    (answer : Except ProviderFailure (Option VerifiedTransaction)) :
    (l.lookedUp waybill reference now answer).pc.carries = false := by
  unfold lookedUp
  split
  · rfl
  · rfl
  · split <;> rfl

theorem carries_route (now : Time) (body : WebhookBody) :
    (l.route waybillId now body).pc.carries = false := by
  unfold route
  split
  · split <;> rfl
  · rfl

theorem carries_checkCharge (d : WaybillCharge) (caller row : Option Waybill) :
    (l.checkCharge d caller row).pc.carries = false := by
  unfold checkCharge
  split
  · exact carries_returns caller
  · split
    · exact carries_returns caller
    · dsimp only
      split
      · exact carries_returns caller
      · rfl

/-- **What a call carries.**  A quote comes from its own body, through the check of the row;
a row to pay for has passed the checks of `initiatePay`. -/
theorem step_carries (h : step waybillId i l r x = some (l', r')) :
    l'.pc.carries = false ∨ (∃ o w, l.op = .write o ∧ l'.pc = .write o w) ∨
      (∃ o w, l.pc = .write o w ∧ l'.pc = .written o) ∨
      ∃ userId w, checkInitiate userId r.row = .ok w ∧ l'.pc = .initializeFn w := by
  cases step_cases h with
  | route => exact Or.inl (carries_route _ _)
  | check o hpc hop =>
    unfold after
    split
    · exact Or.inl rfl
    · exact Or.inr (Or.inl ⟨o, _, hop, rfl⟩)
  | initiate userId =>
    unfold after
    split
    · exact Or.inl rfl
    · next w hcheck => exact Or.inr (Or.inr (Or.inr ⟨userId, w, hcheck, rfl⟩))
  | verify => exact Or.inl (carries_verifyStart _ _ _)
  | write o waybill w hpc => exact Or.inr (Or.inr (Or.inl ⟨o, waybill, hpc, rfl⟩))
  | lookup => exact Or.inl (carries_lookedUp _ _ _ _)
  | throws => exact Or.inl (carries_throws _ _)
  | find => exact Or.inl (carries_checkCharge _ _ _)
  | late | notify => exact Or.inl (carries_returns _)
  | _ => exact Or.inl rfl

/-- **An amount that is announced is the one of the quote.** -/
theorem step_quoteSent (h : step waybillId i l r x = some (l', r')) {w : Waybill} {email : String}
    {p : ℚ} (hp : WaybillNotice.quoteSent w email p ∈ r'.emitted) :
    WaybillNotice.quoteSent w email p ∈ r.emitted ∨
      ∃ data, l.pc = .written (.sendQuote data) ∧ p = data.quoteAmount := by
  cases step_cases h with
  | announce o updated hpc hrow =>
    rcases List.mem_append.mp hp with hp | hp
    · exact Or.inl hp
    · cases o with
      | sendQuote data =>
        refine Or.inr ⟨data, hpc, ?_⟩
        rcases List.mem_cons.mp hp with hp | hp
        · cases hp
        · cases List.mem_singleton.mp hp
          rfl
      | updateWaybillStatus requester data =>
        rcases List.mem_cons.mp hp with hp | hp
        · cases hp
        · split at hp
          · cases List.mem_singleton.mp hp
          · cases hp
  | track waybill caller =>
    rcases List.mem_append.mp hp with hp | hp
    · exact Or.inl hp
    · obtain ⟨_, -, heq⟩ := Option.map_eq_some_iff.mp (Option.mem_toList.mp hp)
      cases heq
  | notify waybill caller =>
    rcases List.mem_append.mp hp with hp | hp
    · exact Or.inl hp
    · cases List.mem_singleton.mp hp
  | _ => exact Or.inl hp

end WaybillProc

/-! ## Runs of one amount -/

/-- Every quote that is sent for the waybill is of this amount. -/
def WaybillQuotes (q : ℚ) (a : Act WaybillOp WaybillInput (WaybillRequest × Time)) : Prop :=
  ∀ data, a = .spawn (.write (.sendQuote data)) → data.quoteAmount = q

/-- The assertion on the row and what has been emitted. -/
structure WaybillPriced (q : ℚ) (r : WaybillDB) : Prop where
  stored : ∀ waybill, r.row = some waybill → waybill.status = .quoteSent →
    waybill.fee = decimal q
  announced : ∀ w email p, WaybillNotice.quoteSent w email p ∈ r.emitted → p = q

/-- The assertion on a call. -/
structure WaybillProc.Priced (q : ℚ) (l : WaybillProc) : Prop where
  op : ∀ data, l.op = .write (.sendQuote data) → data.quoteAmount = q
  write : ∀ o w, l.pc = .write o w → l.op = .write o
  written : ∀ o, l.pc = .written o → l.op = .write o
  pays : ∀ waybill, l.pc = .initializeFn waybill → waybill.fee = decimal q

section Waybills

variable {waybillId : WaybillId} {i : ℕ} {l l' : WaybillProc} {r r' : WaybillDB}
  {x : WaybillInput} {q : ℚ}

/-- **A step keeps the assertion on the row.** -/
theorem WaybillPriced.step (h : WaybillPriced q r) (hl : l.Priced q)
    (hs : WaybillProc.step waybillId i l r x = some (l', r')) : WaybillPriced q r' := by
  constructor
  · intro waybill hrow hst
    cases WaybillProc.step_effect hs with
    | quiet _ _ hsame => exact h.stored waybill (hsame ▸ hrow) hst
    | write o read w hpc hfault hw =>
      obtain rfl := Option.some.inj hrow
      cases o with
      | sendQuote data =>
        exact congrArg decimal (hl.op data (hl.write _ read hpc))
      | updateWaybillStatus requester data =>
        -- the schema lets no update through that would send a quote
        rw [WaybillWrite.write_status] at hst
        have hmem := data.status_mem
        rw [show data.status = .quoteSent from hst] at hmem
        exact absurd hmem (by decide)
    | setPaymentRef read reference w hpc hw =>
      obtain rfl := Option.some.inj hrow
      exact h.stored w hw hst
    | confirm d read caller w hpc hw hpaid hst' =>
      obtain rfl := Option.some.inj hrow
      cases hst
  · intro w email p hp
    rcases WaybillProc.step_quoteSent hs hp with hp | ⟨data, hpc, rfl⟩
    · exact h.announced w email p hp
    · exact hl.op data (hl.written _ hpc)

/-- **A step keeps the assertion on its call.** -/
theorem WaybillProc.Priced.step (hl : l.Priced q) (h : WaybillPriced q r)
    (hs : WaybillProc.step waybillId i l r x = some (l', r')) : l'.Priced q := by
  have hop := WaybillProc.step_op hs
  have hop' : ∀ data, l'.op = .write (.sendQuote data) → data.quoteAmount = q :=
    fun data hdata => hl.op data (hop ▸ hdata)
  rcases WaybillProc.step_carries hs with hno | ⟨o, w, ho, hpc'⟩ | ⟨o, w, hpc, hpc'⟩ |
    ⟨userId, w, hcheck, hpc'⟩
  · refine ⟨hop', ?_, ?_, ?_⟩
    · intro o w hpc'
      rw [hpc'] at hno
      cases hno
    · intro o hpc'
      rw [hpc'] at hno
      cases hno
    · intro waybill hpc'
      rw [hpc'] at hno
      cases hno
  · refine ⟨hop', ?_, ?_, ?_⟩
    · rintro o' w' h'
      cases hpc'.symm.trans h'
      exact hop.trans ho
    · intro o' h'
      cases hpc'.symm.trans h'
    · intro waybill h'
      cases hpc'.symm.trans h'
  · refine ⟨hop', ?_, ?_, ?_⟩
    · intro o' w' h'
      cases hpc'.symm.trans h'
    · intro o' h'
      cases hpc'.symm.trans h'
      exact hop.trans (hl.write o w hpc)
    · intro waybill h'
      cases hpc'.symm.trans h'
  · refine ⟨hop', ?_, ?_, ?_⟩
    · intro o' w' h'
      cases hpc'.symm.trans h'
    · intro o' h'
      cases hpc'.symm.trans h'
    · intro waybill h'
      cases hpc'.symm.trans h'
      obtain ⟨hrow, hst⟩ := WaybillProc.checkInitiate_ok hcheck
      exact h.stored w hrow hst

end Waybills

/-- **The proof outline of a waybill whose quotes are of one amount.** -/
theorem waybillPriceOutline (waybillId : WaybillId) (q : ℚ) :
    (waybillMachine waybillId).Outline (WaybillQuotes q) (fun r => r = ⟨none, [], [], none⟩)
      (fun _ r => WaybillPriced q r) (fun _ l _ => l.Priced q) where
  init := by
    rintro r rfl
    exact ⟨fun w hrow => absurd hrow (by simp), fun w email p hp => absurd hp (by simp)⟩
  spawn n o r _ h := h
  start n o r ho _ := by
    refine ⟨?_, by rintro _ _ ⟨⟩, by rintro _ ⟨⟩, by rintro _ ⟨⟩⟩
    intro data hop
    exact ho data (congrArg Act.spawn hop)
  shared n i x l r l' r' _ _ h hl hs := h.step hl hs
  self n i x l r l' r' _ _ h hl hs := hl.step h hs
  other n i x l r l' r' j m _ _ _ h hl hm hs := hm
  env_shared n data r r' _ h he := by
    obtain ⟨hrow, rfl⟩ := waybill_env he
    refine ⟨?_, h.announced⟩
    intro waybill hwaybill hst
    obtain rfl := Option.some.inj hwaybill
    cases hst
  env_other n data r r' j m _ h hm he := hm

/-! ## What can be paid as announced -/

/-- A quote of the waybill can be paid as it was announced. -/
structure WaybillPayable (q : ℚ) (c : Config WaybillDB WaybillProc) : Prop where
  announced : ∀ w email p, WaybillNotice.quoteSent w email p ∈ c.shared.emitted → p = q
  stored : ∀ waybill, c.shared.row = some waybill → waybill.status = .quoteSent →
    0 < waybill.fee
  initiated : ∀ waybill, c.shared.row = some waybill → waybill.status = .quoteSent →
    WaybillProc.checkInitiate waybill.userId c.shared.row = .ok waybill
  started : ∀ (i : ℕ) l waybill, c.procs[i]? = some l → l.pc = .initializeFn waybill →
    ∀ answer, WaybillProc.initializeWaybillPayment waybill answer =
      answer.mapError (StartFailure.error "waybill payment")
  charged : ∀ (i : ℕ) l waybill, c.procs[i]? = some l → l.pc = .initializeFn waybill →
    (WaybillProc.amountKobo waybill : ℚ) = q * 100

/-- The guards of `initiatePay` let the owner of a waybill with a fee through. -/
theorem WaybillProc.checkInitiate_of {waybill : Waybill} (hst : waybill.status = .quoteSent)
    (hpos : 0 < waybill.fee) : checkInitiate waybill.userId (some waybill) = .ok waybill := by
  simp [checkInitiate, Waybills.found, orThrow, ensure, hst, hpos, bind, Except.bind, pure,
    Except.pure]

/-- **Whole kobo can be paid as announced.**  In every run. -/
theorem waybillPayable_of_wholeKobo {waybillId : WaybillId} {q : ℚ} (hq : 0 < q)
    (hwhole : WholeKobo q) {c : Config WaybillDB WaybillProc}
    (h : (waybills waybillId).ReachableBy (WaybillQuotes q) c) : WaybillPayable q c := by
  obtain ⟨hrow, hcalls⟩ := (waybillPriceOutline waybillId q).invariant h
  have hpos := hwhole.decimal_pos hq
  constructor
  · exact hrow.announced
  · intro waybill hwaybill hst
    rw [hrow.stored waybill hwaybill hst]
    exact hpos
  · intro waybill hwaybill hst
    have hfee := hrow.stored waybill hwaybill hst
    rw [hwaybill]
    exact WaybillProc.checkInitiate_of hst (hfee ▸ hpos)
  · intro i l waybill hi hpc
    have hfee := (hcalls i l hi).pays waybill hpc
    exact WaybillProc.initializeWaybillPayment_of_pos (hfee ▸ hpos)
  · intro i l waybill hi hpc
    rw [WaybillProc.amountKobo, (hcalls i l hi).pays waybill hpc]
    exact (decimal_eq_iff hq.le).mpr hwhole

/-- A waybill is submitted and quoted, and its customer asks to pay. -/
def quotedWaybill (data : WaybillQuote) :
    List (Act WaybillOp WaybillInput (WaybillRequest × Time)) :=
  [.env (parcelToAbuja, 100), .spawn (.write (.sendQuote data)), .run 0 waybillPlain,
    .run 0 waybillPlain, .run 0 waybillPlain, .spawn (.initiatePay 7)]

/-- That run stands before the guards of `initiatePay`. -/
theorem quotedWaybill_reaches (data : WaybillQuote) : ∃ c waybill,
    (waybills 1).ReachableBy (WaybillQuotes data.quoteAmount) c ∧
      c.shared.row = some waybill ∧ waybill.status = .quoteSent ∧ waybill.userId = 7 ∧
      waybill.fee = decimal data.quoteAmount ∧ c.procs[1]? = some { op := .initiatePay 7 } := by
  refine ⟨_, _, ⟨waybillStart, quotedWaybill data, ⟨rfl, rfl⟩, ?_, rfl⟩, rfl, rfl, rfl, rfl, rfl⟩
  intro a ha data' heq
  simp only [quotedWaybill, heq, List.mem_cons, List.not_mem_nil, Act.spawn.injEq,
    WaybillOp.write.injEq, WaybillWrite.sendQuote.injEq, reduceCtorEq, false_or, or_false] at ha
  rw [ha]

/-- **The quotes of a waybill that can be paid as announced are those of whole kobo.** -/
theorem waybillPayable_iff {body data : WaybillQuote}
    (haccepted : Waybills.sendQuoteSchema body = .ok data) :
    (∀ waybillId c, (waybills waybillId).ReachableBy (WaybillQuotes data.quoteAmount) c →
      WaybillPayable data.quoteAmount c) ↔ WholeKobo data.quoteAmount := by
  have hpos := Waybills.sendQuoteSchema_pos haccepted
  constructor
  · intro h
    obtain ⟨c, waybill, hreach, hrow, hst, huser, hfee, hi⟩ := quotedWaybill_reaches data
    -- the fee is positive, so the call gets past its guards
    have hcheck := (h 1 c hreach).initiated waybill hrow hst
    rw [huser] at hcheck
    have hstep : WaybillProc.step 1 1 { op := .initiatePay 7 } c.shared waybillPlain =
        some ({ op := .initiatePay 7, pc := .initializeFn waybill }, c.shared) := by
      rw [WaybillProc.step]
      dsimp only
      rw [hcheck]
      rfl
    have hnext : (waybills 1).step c (.run 1 waybillPlain) = some ⟨c.shared, c.procs.set 1
        { op := .initiatePay 7, pc := .initializeFn waybill }⟩ :=
      Machine.next_run.mpr ⟨_, _, _, hi, hstep, rfl⟩
    obtain ⟨hlt, -⟩ := List.getElem?_eq_some_iff.mp hi
    have hcharged := (h 1 _ (hreach.step (by rintro _ ⟨⟩) hnext)).charged 1 _ waybill
      (List.getElem?_set_self hlt) rfl
    rw [WaybillProc.amountKobo, hfee] at hcharged
    exact (decimal_eq_iff hpos.le).mp hcharged
  · intro hwhole waybillId c hreach
    exact waybillPayable_of_wholeKobo hpos hwhole hreach

end TransHub
