import TransHub.Payments.Agreement
import TransHub.Trips.Schema

/-!
# A paid booking and its column

`bookings.totalAmount` is an `INTEGER`, and so is the price of a seat.

* `totalAmount_fits_iff`: the prices at which the total of every hold fits, and the numbers
  of seats for which a payment is not refused for its amount.
* `outOfRange_step`: an insert that is refused for its amount has one that does not fit.
* `TotalsInv`: in a run, such an amount is what the delivery captured.
-/

namespace TransHub

theorem fitsInt4_iff {x : ℤ} : fitsInt4 x = true ↔ -2147483648 ≤ x ∧ x ≤ 2147483647 := by
  rw [fitsInt4, Bool.and_eq_true, decide_eq_true_eq, decide_eq_true_eq]

/-- A total that is not negative fits exactly up to the largest value. -/
theorem fitsInt4_totalAmount {seats : ℕ} {price : ℤ} (hpos : 0 < price) :
    fitsInt4 (Bookings.totalAmount seats price) = true ↔ seats * price ≤ 2147483647 := by
  have hnonneg : 0 ≤ (seats : ℤ) * price := by positivity
  rw [fitsInt4_iff, Bookings.totalAmount]
  omega

/-- The total of every hold fits exactly at a price of at most a sixth of the largest value. -/
theorem forall_hold_fits_iff {price : ℤ} (hpos : 0 < price) :
    (∀ hold : Bookings.HoldInput,
      fitsInt4 (Bookings.totalAmount hold.quantity price) = true) ↔ price ≤ 357913941 := by
  constructor
  · intro h
    have hsix := (fitsInt4_totalAmount hpos).mp (h ⟨0, 6, by decide, by decide⟩)
    push_cast at hsix
    omega
  · intro hle hold
    have hmul : (hold.quantity : ℤ) * price ≤ 6 * 357913941 :=
      mul_le_mul (by exact_mod_cast hold.le_six) hle hpos.le (by norm_num)
    exact (fitsInt4_totalAmount hpos).mpr (by omega)

/-! ## Inserts that are refused -/

/-- An insert that is refused for its amount has one that does not fit. -/
theorem createBookingRecord_outOfRange {uuids : Bookings.Uuids} {tripId : TripId}
    {seatIds : List SeatId} {bookingData : Bookings.BookingData} {db : DB}
    (h : Bookings.createBookingRecord uuids tripId seatIds bookingData db
      = .error (.db .valueOutOfRange)) : fitsInt4 bookingData.totalAmount = false := by
  rcases bind_eq_error.mp h with h | ⟨_, -, h⟩
  · exact (ensure_eq_error.mp h).1
  rcases bind_eq_error.mp h with h | ⟨_, -, h⟩
  · exact absurd (ensure_eq_error.mp h).2 (by simp)
  rcases bind_eq_error.mp h with h | ⟨bookings, -, h⟩
  · exact absurd (orThrow_eq_error.mp h).2 (by simp)
  rcases bind_eq_error.mp h with h | ⟨_, -, h⟩
  · exact absurd (ensure_eq_error.mp h).2 (by simp)
  rcases bind_eq_error.mp h with h | ⟨rows, -, h⟩
  · exact absurd (orThrow_eq_error.mp h).2 (by simp)
  rcases bind_eq_error.mp h with h | ⟨rows, -, h⟩
  · exact absurd (orThrow_eq_error.mp h).2 (by simp)
  · exact absurd h (by simp)

section Steps

variable {i : ℕ} {l l' : Settling} {r r' : PayDB} {x : SettleInput}

theorem txThrows_rolledBack (q : ConfirmCall) (e : Thrown) :
    (l.txThrows q e).rolledBack = some e := by
  unfold Settling.txThrows
  dsimp only
  split
  · rfl
  · exact Settling.confirmThrows_rolledBack _ _ _

/-- **An amount that is refused does not fit.**  It is refused in the booking step. -/
theorem outOfRange_step (hs : Settling.step i l r x = some (l', r'))
    (hrolled : l'.rolledBack = some (.db .valueOutOfRange)) :
    l.rolledBack = some (.db .valueOutOfRange) ∨
      ∃ q totalAmount got, l.pc = .book q totalAmount got ∧ fitsInt4 totalAmount = false := by
  have hother : ∀ {q : ConfirmCall} {e : Thrown}, e ≠ .db .valueOutOfRange →
      (l.txThrows q e).rolledBack ≠ some (.db .valueOutOfRange) := by
    intro q e hne
    rw [txThrows_rolledBack]
    exact fun h => hne (Option.some.inj h)
  cases Settling.step_move hs with
  | refused q totalAmount got e hpc hlen hfresh herr =>
    rw [txThrows_rolledBack] at hrolled
    cases hrolled
    exact Or.inr ⟨q, totalAmount, got, hpc, createBookingRecord_outOfRange herr⟩
  | selectFault | lockFault | bookFault | short => exact absurd hrolled (hother (by rintro ⟨⟩))
  | fault | forbidden | settled | present | raced | notify => exact Or.inl hrolled
  | _ => exact Or.inl (by simpa using hrolled)

/-- A delivery that was refused for its amount captured a hundred times an amount that does not
fit. -/
def Unfit (l : Settling) : Prop :=
  l.rolledBack = some (.db .valueOutOfRange) →
    ∃ totalAmount : ℤ, fitsInt4 totalAmount = false ∧ l.charge.amountKobo = 100 * totalAmount

theorem unfit_step {minted : List (TripId × ℤ)} (hq : Quoted minted l) (hu : Unfit l)
    (hs : Settling.step i l r x = some (l', r')) : Unfit l' := by
  intro hrolled
  obtain ⟨hcharge, -⟩ := Settling.step_effect hs
  rw [hcharge]
  rcases outOfRange_step hs hrolled with hbefore | ⟨q, totalAmount, got, hpc, hfits⟩
  · exact hu hbefore
  · rw [Quoted, hpc] at hq
    obtain ⟨price, ⟨-, hkobo⟩, htotal⟩ := hq
    refine ⟨totalAmount, hfits, ?_⟩
    rw [hkobo, htotal]
    push_cast
    exact mul_comm _ _

end Steps

/-! ## Runs -/

/-- The assertion on the deliveries of a checkout. -/
structure TotalsInv (r : Checkout) : Prop where
  checkout : CheckoutInv r
  unfit : ∀ (i : ℕ) l, r.pay.procs[i]? = some l → Unfit l

/-- **The deliveries and their environment keep the assertion.** -/
theorem TotalsInv.env {r r' : Checkout} (h : TotalsInv r) {a : Act Charge SettleInput Attempt}
    (he : r.env a = some r') : TotalsInv r' := by
  refine ⟨(h.checkout.env he).1, ?_⟩
  obtain ⟨-, pay, hnext, rfl⟩ := Checkout.env_some he
  intro j m hj
  rcases Machine.next_cases hnext with ⟨d, -, rfl⟩ | ⟨i, x, l, l', s, -, hi, hs, rfl⟩ |
    ⟨a, s, -, -, rfl⟩
  · rcases Machine.getElem?_snoc_cases hj with ⟨-, rfl⟩ | hj
    · exact fun hrolled => absurd hrolled (by rintro ⟨⟩)
    · exact h.unfit j m hj
  · rcases Machine.getElem?_set_cases hi hj with ⟨-, rfl⟩ | ⟨-, hj⟩
    · exact unfit_step (h.checkout.quoted i l hi) (h.unfit i l hi) hs
    · exact h.unfit j m hj
  · exact h.unfit j m hj

/-- **The proof outline of a checkout, with the assertion.** -/
theorem totalsOutline : checkoutMachine.Outline (fun _ => True)
    (fun r => ∃ users, r = ⟨⟨⟨⟨users, [], [], [], [], []⟩, [], [], []⟩, []⟩, [], []⟩)
    (fun _ r => TotalsInv r) (fun _ l r => Pending r.minted l) where
  init := by
    rintro r ⟨users, rfl⟩
    exact ⟨CheckoutInv.empty users, fun i l hi => absurd hi (by simp)⟩
  spawn n o r _ h := h
  start n o r ho h := checkoutOutline.start n o r ho h.checkout
  shared n i x l r l' r' ho hi h hl hs := by
    have hcheckout := checkoutOutline.shared n i x l r l' r' ho hi h.checkout hl hs
    refine ⟨hcheckout, ?_⟩
    -- a call of `initialize` leaves the deliveries alone
    obtain ⟨-, rfl | ⟨q, -, -, rfl⟩⟩ := initialize_step (j := i) h.checkout.tags hl hs
    · exact h.unfit
    · exact h.unfit
  self n i x l r l' r' ho hi h hl hs :=
    checkoutOutline.self n i x l r l' r' ho hi h.checkout hl hs
  other n i x l r l' r' j m ho hi hne h hl hm hs :=
    checkoutOutline.other n i x l r l' r' j m ho hi hne h.checkout hl hm hs
  env_shared n a r r' _ h he := h.env he
  env_other n a r r' j m ho h hm he :=
    checkoutOutline.env_other n a r r' j m ho h.checkout hm he

theorem totals_inv {c : Config Checkout Initializing} (h : checkouts.Reachable c) :
    TotalsInv c.shared :=
  (totalsOutline.invariant h.by_any).1

/-- **A request whose total fits is not refused for its amount.** -/
theorem TotalsInv.not_outOfRange {r : Checkout} (h : TotalsInv r) {q : ChargeRequest}
    (hq : q ∈ r.requests) {tripId : TripId} {seatIds : List SeatId} {price : ℤ}
    (htrip : q.metadata.tripId = some tripId) (hseats : q.metadata.seatIds = some seatIds)
    (hmem : (tripId, price) ∈ r.minted)
    (hle : fitsInt4 (Bookings.totalAmount seatIds.length price) = true) {i : ℕ} {l : Settling}
    (hi : r.pay.procs[i]? = some l) (hpaid : PaidInFull q l.charge) :
    l.rolledBack ≠ some (.db .valueOutOfRange) := by
  intro hrolled
  obtain ⟨totalAmount, hfits, hkobo⟩ := h.unfit i l hi hrolled
  obtain ⟨tripId', seatIds', price', htrip', hseats', hmem', hbilled⟩ := h.checkout.billed q hq
  obtain rfl : tripId' = tripId := Option.some.inj (htrip'.symm.trans htrip)
  obtain rfl : seatIds' = seatIds := Option.some.inj (hseats'.symm.trans hseats)
  obtain rfl := price_unique h.checkout.minted hmem hmem'
  -- what was captured is the product, so the amount that was refused is
  have htotal : totalAmount = Bookings.totalAmount seatIds'.length price := by
    have hcast : (100 : ℚ) * totalAmount = seatIds'.length * price * 100 :=
      hkobo.symm.trans (hpaid.amount.trans hbilled)
    have hint : 100 * totalAmount = seatIds'.length * price * 100 := by exact_mod_cast hcast
    rw [Bookings.totalAmount]
    omega
  rw [htotal, hle] at hfits
  exact absurd hfits (by simp)

/-! ## The totals at which a paid booking fits -/

/-- **When a paid booking fits its column.**  Take a price that `createTripSchema` accepts.
The total of every single hold fits exactly when the price is at most a sixth of the largest
value.  For any number of seats (`initialize` charges all that its caller holds) the total
fits, and in every state that calls of `initialize`, deliveries and operations of the ledger
reach no payment in full of a request for so many seats at that price is rolled back for a
value out of range, exactly when the product is at most the largest value. -/
theorem totalAmount_fits_iff (lower : Trips.LowerCase) (host : ℤ → ℤ) (now : ℤ)
    (body : Trips.CreateTripBody) (input : Trips.CreateTripInput)
    (haccepted : Trips.createTripSchema lower host now body = .ok input) :
    ((∀ hold : Bookings.HoldInput,
        fitsInt4 (Bookings.totalAmount hold.quantity input.price) = true) ↔
      input.price ≤ 357913941) ∧
    ∀ seats : ℕ,
      (fitsInt4 (Bookings.totalAmount seats input.price) = true ∧
        ∀ c : Config Checkout Initializing, checkouts.Reachable c →
          ∀ q ∈ c.shared.requests, ∀ tripId seatIds, q.metadata.tripId = some tripId →
            q.metadata.seatIds = some seatIds → (tripId, input.price) ∈ c.shared.minted →
            seatIds.length = seats → ∀ (i : ℕ) (l : Settling), c.shared.pay.procs[i]? = some l →
              PaidInFull q l.charge → l.rolledBack ≠ some (.db .valueOutOfRange)) ↔
      seats * input.price ≤ 2147483647 := by
  obtain ⟨departure, h⟩ := Trips.Accepted.of_ok haccepted
  obtain ⟨-, -, rfl⟩ := Trips.createTripSchema_ok haccepted
  refine ⟨forall_hold_fits_iff h.price, fun seats => ?_⟩
  constructor
  · rintro ⟨hfits, -⟩
    exact (fitsInt4_totalAmount h.price).mp hfits
  · intro hle
    have hfits := (fitsInt4_totalAmount h.price).mpr hle
    refine ⟨hfits, ?_⟩
    rintro c hc q hq tripId seatIds htrip hseats hmem rfl i l hi hpaid
    exact (totals_inv hc).not_outOfRange hq htrip hseats hmem hfits hi hpaid

/-- At 5000 naira a seat every hold fits, and so does a booking of twelve seats. -/
theorem totalAmount_fits_iff_seven :
    Trips.createTripSchema .onAscii Trips.utcHost Trips.halfPastSix Trips.sevenBody
        = .ok (.of .onAscii Trips.sevenBody) ∧
      (∀ hold : Bookings.HoldInput,
        fitsInt4 (Bookings.totalAmount hold.quantity 5000) = true) ∧
      fitsInt4 (Bookings.totalAmount 12 5000) = true :=
  have hfits := totalAmount_fits_iff .onAscii Trips.utcHost Trips.halfPastSix Trips.sevenBody _
    Trips.sevenBody_accepted
  ⟨Trips.sevenBody_accepted, hfits.1.mpr (by decide), ((hfits.2 12).mpr (by decide)).1⟩

/-! ## A price that does not fit -/

/-- A trip of six seats at four hundred million naira. -/
def jetBody : Trips.CreateTripBody := { Trips.sevenBody with price := 400000000, totalSeats := 6 }

theorem jetBody_accepted :
    Trips.createTripSchema .onAscii Trips.utcHost Trips.halfPastSix jetBody =
      .ok (.of .onAscii jetBody) := by
  have hfields : Trips.issues (Trips.fieldChecks jetBody) = [] := by decide +kernel
  have hrefinements : Trips.issues
      (Trips.refinements .onAscii Trips.utcHost Trips.halfPastSix jetBody) = [] := by
    decide +kernel
  simp only [Trips.createTripSchema, hfields, hrefinements]

/-- The columns of that trip. -/
def jetTrip : TripData :=
  { twoSeats with
    departureTime := 1784527200000
    price := 400000000
    totalSeats := 6
    vehicleType := "Car" }

/-- What the user's payment delivers. -/
def jetCharge : Charge :=
  ⟨none, 99, 240000000000,
    some ⟨none, none, none, some 1, some [10, 11, 12, 13, 14, 15], some 7⟩⟩

/-- A user holds all six seats in one hold and pays for them. -/
def jetRun : List (Act (UserId × TripId) InitializeInput (Act Charge SettleInput Attempt)) :=
  [.env (.env ⟨.createTrip 1 (fun i => 10 + i) jetTrip 3, false⟩),
    .env (.env ⟨.holdSeats (fun _ => false) 1 6 7 0, false⟩), .spawn (7, 1)] ++
  List.replicate 4 (.run 0 answered) ++
  .env (.spawn jetCharge) :: List.replicate 13 (.env (.run 0 plain))

theorem jetRun_runs : (checkouts.run checkoutStart jetRun).isSome = true := by
  decide +kernel

/-- Where the run ends. -/
def jetEnd : Config Checkout Initializing :=
  (checkouts.run checkoutStart jetRun).get jetRun_runs

theorem jetEnd_reachable : checkouts.Reachable jetEnd :=
  ⟨checkoutStart, ⟨⟨[7, 8], rfl⟩, rfl⟩, jetRun, (Option.some_get _).symm⟩

/-- **A payment that can not be booked.**  The schema accepts the price and the column
stores it; the six seats cost 2 400 000 000 naira, `initialize` asks for them, the payment
arrives in full, and the transaction of `confirm` is rolled back for a value out of range. -/
theorem jetTrip_outOfRange :
    Trips.createTripSchema .onAscii Trips.utcHost Trips.halfPastSix jetBody
        = .ok (.of .onAscii jetBody) ∧
      (Trips.CreateTripInput.of .onAscii jetBody).toTripData Trips.utcHost = some jetTrip ∧
      fitsInt4 jetTrip.price = true ∧
      fitsInt4 (Bookings.totalAmount 6 jetTrip.price) = false ∧
      checkouts.Reachable jetEnd ∧
      ∃ q ∈ jetEnd.shared.requests, ∃ l, jetEnd.shared.pay.procs[0]? = some l ∧
        PaidInFull q l.charge ∧ l.rolledBack = some (.db .valueOutOfRange) := by
  have hrequests : jetEnd.shared.requests =
      [⟨99, 240000000000, ⟨none, none, none, some 1, some [10, 11, 12, 13, 14, 15], some 7⟩⟩] := by
    decide +kernel
  have hprocs : jetEnd.shared.pay.procs[0]?.map (fun l => (l.charge, l.rolledBack)) =
      some (jetCharge, some (.db .valueOutOfRange)) := by
    decide +kernel
  obtain ⟨l, hl, hpair⟩ := Option.map_eq_some_iff.mp hprocs
  obtain ⟨hcharge, hrolled⟩ := Prod.mk.inj hpair
  refine ⟨jetBody_accepted, by decide +kernel, by decide, by decide, jetEnd_reachable, _,
    hrequests ▸ List.mem_singleton.mpr rfl, l, hl, ?_, hrolled⟩
  rw [hcharge]
  exact ⟨rfl, rfl, by norm_num [jetCharge]⟩

end TransHub
