import TransHub.Payments.Initialize
import TransHub.Payments.Confirmation

/-!
# What is charged is what is booked

The price of a trip is read by `initialize`, by `settleBookingCharge` and by `confirm`,
each at its own time.  All three read the price that the trip was created with.

* `PricedAt`, `Quoted`, `Pending`, `Billed`, `Paid`: what deliveries, calls of `initialize`,
  requests and bookings owe to the prices in the history; more history changes none of it.
* `CheckoutInv`: the assertion on the shared state, with `checkoutOutline`.
* `booking_amount_agreement`: the statement over all runs.
-/

namespace TransHub

open Bookings (BookingDTO Uuids)

variable {minted : List (TripId × ℤ)}

/-! ## Assertions about prices -/

/-- The trip was created with the price, and `kobo` is that price for `seats` seats. -/
def PricedAt (minted : List (TripId × ℤ)) (tripId : TripId) (seats : ℕ) (kobo : ℚ) (price : ℤ) :
    Prop :=
  (tripId, price) ∈ minted ∧ kobo = seats * price * 100

/-- What a delivery knows of its amount, at each place it can stand at. -/
def Quoted (minted : List (TripId × ℤ)) (l : Settling) : Prop :=
  match l.pc with
  | .price tripId seatIds _ =>
      l.charge.metadata.bind ChargeMetadata.tripId = some tripId ∧
        l.charge.metadata.bind ChargeMetadata.seatIds = some seatIds
  | .confirm q | .confirmPrice q => ∃ price,
      PricedAt minted q.input.tripId q.input.seatIds.length l.charge.amountKobo price
  | .select q totalAmount | .locking q totalAmount _ _ | .book q totalAmount _ => ∃ price,
      PricedAt minted q.input.tripId q.input.seatIds.length l.charge.amountKobo price ∧
        totalAmount = q.input.seatIds.length * price
  | .done (.failed _ .amount) => ∃ tripId seatIds price,
      l.charge.metadata.bind ChargeMetadata.tripId = some tripId ∧
        l.charge.metadata.bind ChargeMetadata.seatIds = some seatIds ∧
        (tripId, price) ∈ minted ∧ l.charge.amountKobo ≠ seatIds.length * price * 100
  | _ => True

/-- A request for the seats in its own metadata. -/
def Billed (minted : List (TripId × ℤ)) (q : ChargeRequest) : Prop :=
  ∃ tripId seatIds price, q.metadata.tripId = some tripId ∧ q.metadata.seatIds = some seatIds ∧
    PricedAt minted tripId seatIds.length q.amountKobo price

/-- What a call of `initialize` knows. -/
def Pending (minted : List (TripId × ℤ)) (l : Initializing) : Prop :=
  match l.pc with
  | .user _ price => (l.tripId, price) ∈ minted
  | .request q => Billed minted q
  | _ => True

/-- The booking of a charge is for what was captured, and for its rows at the price of
its trip. -/
def Paid (minted : List (TripId × ℤ)) (db : DB) (d : Charge) : Prop :=
  ∃ b ∈ db.bookings, b.paymentRef = some d.reference ∧ d.amountKobo = 100 * b.totalAmount ∧
    ∃ price, (b.tripId, price) ∈ minted ∧
      b.totalAmount = db.bookedSeats.countP (fun row => row.bookingId == b.id) * price

/-! ## More history changes none of it -/

section History

variable {minted' : List (TripId × ℤ)} (hsub : minted ⊆ minted')
include hsub

theorem PricedAt.mono {tripId : TripId} {seats : ℕ} {kobo : ℚ} {price : ℤ}
    (h : PricedAt minted tripId seats kobo price) : PricedAt minted' tripId seats kobo price :=
  ⟨hsub h.1, h.2⟩

theorem Quoted.mono {l : Settling} (h : Quoted minted l) : Quoted minted' l := by
  unfold Quoted at h ⊢
  split at h
  · exact h
  · obtain ⟨price, hprice⟩ := h
    exact ⟨price, hprice.mono hsub⟩
  · obtain ⟨price, hprice⟩ := h
    exact ⟨price, hprice.mono hsub⟩
  · obtain ⟨price, hprice, htotal⟩ := h
    exact ⟨price, hprice.mono hsub, htotal⟩
  · obtain ⟨price, hprice, htotal⟩ := h
    exact ⟨price, hprice.mono hsub, htotal⟩
  · obtain ⟨price, hprice, htotal⟩ := h
    exact ⟨price, hprice.mono hsub, htotal⟩
  · obtain ⟨tripId, seatIds, price, htrip, hseats, hmem, hne⟩ := h
    exact ⟨tripId, seatIds, price, htrip, hseats, hsub hmem, hne⟩
  · trivial

theorem Billed.mono {q : ChargeRequest} (h : Billed minted q) : Billed minted' q := by
  obtain ⟨tripId, seatIds, price, htrip, hseats, hprice⟩ := h
  exact ⟨tripId, seatIds, price, htrip, hseats, hprice.mono hsub⟩

theorem Pending.mono {l : Initializing} (h : Pending minted l) : Pending minted' l := by
  unfold Pending at h ⊢
  split at h
  · exact hsub h
  · exact h.mono hsub
  · trivial

end History

/-- A booking stays paid while the tables keep it. -/
theorem Paid.keeps {minted' : List (TripId × ℤ)} {db db' : DB} {d : Charge}
    (h : Paid minted db d) (hk : Keeps db db') (hsub : minted ⊆ minted') :
    Paid minted' db' d := by
  obtain ⟨b, hb, href, hkobo, price, hprice, htotal⟩ := h
  have hcount : db'.bookedSeats.countP (fun row => row.bookingId == b.id)
      = db.bookedSeats.countP fun row => row.bookingId == b.id := by
    rw [List.countP_eq_length_filter, List.countP_eq_length_filter, hk.rows b hb]
  exact ⟨b, hk.booking b hb, href, hkobo, price, hsub hprice, by rw [hcount, htotal]⟩

/-! ## Reading a price -/

/-- Each trip has the price it was created with. -/
def Tagged (minted : List (TripId × ℤ)) (db : DB) : Prop := ∀ t ∈ db.trips, t.tag ∈ minted

/-- A price that is read is in the history. -/
theorem Tagged.findTripPrice {db : DB} (h : Tagged minted db) {tripId : TripId} {price : ℤ}
    (hfind : Bookings.findTripPrice tripId db = some price) : (tripId, price) ∈ minted := by
  obtain ⟨t, ht, rfl⟩ := Option.map_eq_some_iff.mp hfind
  have hid : t.id = tripId := by simpa using List.find?_some ht
  have hmem := h t (List.mem_of_find?_eq_some ht)
  rwa [Trip.tag, hid] at hmem

/-- A trip id has one price. -/
theorem price_unique (hnodup : (minted.map Prod.fst).Nodup) {tripId : TripId} {p p' : ℤ}
    (h : (tripId, p) ∈ minted) (h' : (tripId, p') ∈ minted) : p = p' := by
  have hpair := List.inj_on_of_nodup_map hnodup h h' rfl
  exact (Prod.mk.inj hpair).2

/-! ## Steps of a delivery -/

section Settle

variable {i : ℕ} {l l' : Settling} {r r' : PayDB} {x : SettleInput}

theorem quoted_confirmThrows (q : ConfirmCall) (e : Thrown) :
    Quoted minted (l.confirmThrows q e) := by
  unfold Settling.confirmThrows
  split <;> trivial

theorem quoted_txThrows (q : ConfirmCall) (e : Thrown) : Quoted minted (l.txThrows q e) := by
  unfold Settling.txThrows
  dsimp only
  split
  · trivial
  · exact quoted_confirmThrows q e

theorem quoted_checkMeta : Quoted minted l.checkMeta := by
  unfold Settling.checkMeta
  split
  · next htrip hseats _ => exact ⟨htrip, hseats⟩
  · trivial

theorem quoted_checkAmount {tripId : TripId} {seatIds : List SeatId} {userId : UserId}
    {passengers : Option (List PassengerInfoInput)} {price : Option ℤ}
    (htrip : l.charge.metadata.bind ChargeMetadata.tripId = some tripId)
    (hseats : l.charge.metadata.bind ChargeMetadata.seatIds = some seatIds)
    (hprice : ∀ p, price = some p → (tripId, p) ∈ minted) :
    Quoted minted (l.checkAmount tripId seatIds userId passengers price) := by
  unfold Settling.checkAmount
  split
  · trivial
  · next p =>
    have hmem := hprice p rfl
    have hcast : (((seatIds.length : ℤ) * p * 100 : ℤ) : ℚ) = seatIds.length * p * 100 := by
      push_cast
      rfl
    dsimp only
    rw [hcast]
    split
    · next hne => exact ⟨tripId, seatIds, p, htrip, hseats, hmem, hne⟩
    · next heq => exact ⟨p, hmem, not_not.mp heq⟩

/-- **A delivery compares with the price its trip was created with.** -/
theorem quoted_step (htags : Tagged minted r.db) (hnodup : (minted.map Prod.fst).Nodup)
    (hq : Quoted minted l) (hs : Settling.step i l r x = some (l', r')) : Quoted minted l' := by
  unfold Quoted at hq
  cases Settling.step_move hs with
  | checkCaller caller hpc =>
    unfold Settling.checkCaller
    split <;> trivial
  | checkMeta hpc => exact quoted_checkMeta
  | checkAmount tripId seatIds userId hpc =>
    rw [hpc] at hq
    exact quoted_checkAmount hq.1 hq.2 fun p hp => htags.findTripPrice hp
  | throws q | recheckFault q | conflict q => exact quoted_confirmThrows q _
  | absent q hpc =>
    rw [hpc] at hq
    exact hq
  | priced q price hpc hprice =>
    -- the price is the one that the amount was compared with
    rw [hpc] at hq
    obtain ⟨p, hp⟩ := hq
    have heq := price_unique hnodup hp.1 (htags.findTripPrice hprice)
    exact ⟨p, hp, by rw [heq]⟩
  | select q totalAmount hpc =>
    rw [hpc] at hq
    exact hq
  | lock q totalAmount y todo got hpc hfree hmem =>
    rw [hpc] at hq
    exact hq
  | skip q totalAmount y todo got hpc =>
    rw [hpc] at hq
    exact hq
  | locked q totalAmount got hpc =>
    rw [hpc] at hq
    exact hq
  | selectFault q | lockFault q | bookFault q | short q | refused q => exact quoted_txThrows q _
  | _ => trivial

/-- No step of a delivery touches `trips`. -/
theorem effect_trips (he : Effect i l r r') : r'.db.trips = r.db.trips := by
  cases he with
  | none => rfl
  | lock => rfl
  | unlock => rfl
  | commit uuids q totalAmount got booking db hpc hlen hok =>
    obtain ⟨-, -, -, -, -, htrips, -, -⟩ := Bookings.createBookingRecord_ok hok
    exact htrips
  | emit => rfl

/-- The rows of a new booking are those of its seats. -/
theorem countP_seatRows (uuids : Uuids) (seatIds : List SeatId) :
    (Bookings.seatRows uuids seatIds).countP (fun row => row.bookingId == uuids.booking)
      = seatIds.length := by
  have hall : ∀ row ∈ Bookings.seatRows uuids seatIds,
      (row.bookingId == uuids.booking) = true := by
    intro row hrow
    rw [beq_iff_eq]
    exact (Bookings.mem_seatRows hrow).1
  rw [List.countP_eq_length.mpr hall, Bookings.seatRows, List.length_mapIdx]

/-- A commit stores a row for each seat. -/
theorem commit_countP {F : Prop} {Same : Charge → Prop} {uuids : Uuids} {q : ConfirmCall}
    {totalAmount : ℤ} {got : List SeatId} {booking : BookingDTO} {db : DB}
    (hinv : PayInv Same r) (hl : Holds F Same i l r)
    (hpc : l.pc = .book q totalAmount got) (hlen : q.input.seatIds.length ≤ got.length)
    (hok : Bookings.createBookingRecord uuids q.input.tripId q.input.seatIds
      ⟨q.userId, totalAmount, q.input.paymentRef, q.input.passengers⟩
      { r.db with seats := Inventory.markBooked q.input.seatIds r.db.seats }
        = .ok (booking, db)) :
    (∀ b ∈ r.db.bookings, b.id ≠ uuids.booking) ∧
      db.bookedSeats.countP (fun row => row.bookingId == uuids.booking)
        = q.input.seatIds.length := by
  obtain ⟨-, -, -, htx⟩ := commit_facts hl hpc hlen hok
  obtain ⟨-, -, -, -, hins, hrows, -, -, -, -, -⟩ :=
    Bookings.confirmTx_ok hinv.ledger.nodup_seatIds htx
  obtain ⟨hnew, -⟩ := Table.insert_eq_some.mp hins
  obtain ⟨hrows, -⟩ := Table.insertMany_eq_some hrows
  have hfresh : ∀ b ∈ r.db.bookings, b.id ≠ uuids.booking := by
    intro b hb hid
    have hc := hnew b hb
    rw [Booking.clash, Bookings.bookingRow, hid] at hc
    exact absurd hc (by simp)
  -- no stored row refers to the new booking
  have hold : r.db.bookedSeats.countP (fun row => row.bookingId == uuids.booking) = 0 := by
    rw [List.countP_eq_zero]
    intro row hrow hid
    obtain ⟨s, -, -, -, b, hb, hbid, -⟩ := hinv.ledger.row_seat row hrow
    exact hfresh b hb (hbid.trans (beq_iff_eq.mp hid))
  refine ⟨hfresh, ?_⟩
  rw [hrows, List.countP_append, hold, countP_seatRows, Nat.zero_add]

/-- **A commit books what was captured.** -/
theorem paid_commit {F : Prop} {Same : Charge → Prop} {uuids : Uuids} {q : ConfirmCall}
    {totalAmount : ℤ} {got : List SeatId} {booking : BookingDTO} {db : DB}
    (hinv : PayInv Same r) (hl : Holds F Same i l r) (hq : Quoted minted l)
    (hpc : l.pc = .book q totalAmount got) (hlen : q.input.seatIds.length ≤ got.length)
    (hok : Bookings.createBookingRecord uuids q.input.tripId q.input.seatIds
      ⟨q.userId, totalAmount, q.input.paymentRef, q.input.passengers⟩
      { r.db with seats := Inventory.markBooked q.input.seatIds r.db.seats }
        = .ok (booking, db)) : Paid minted db l.charge := by
  obtain ⟨-, hcall, -, htx⟩ := commit_facts hl hpc hlen hok
  obtain ⟨-, -, -, -, hins, -, -, -, -, -, -⟩ :=
    Bookings.confirmTx_ok hinv.ledger.nodup_seatIds htx
  obtain ⟨-, hbook⟩ := Table.insert_eq_some.mp hins
  obtain ⟨-, hcount⟩ := commit_countP hinv hl hpc hlen hok
  rw [Quoted, hpc] at hq
  obtain ⟨price, ⟨hmem, hkobo⟩, htotal⟩ := hq
  refine ⟨_, by rw [hbook]; exact List.mem_append_right _ (List.mem_singleton.mpr rfl),
    congrArg some hcall.reference, ?_, price, hmem, ?_⟩
  · show l.charge.amountKobo = 100 * ((totalAmount : ℤ) : ℚ)
    rw [hkobo, htotal]
    push_cast
    exact mul_comm _ _
  · show totalAmount = _
    rw [htotal]
    exact congrArg (fun n : ℕ => (n : ℤ) * price) hcount.symm

/-- A step makes no delivery but its own a winner. -/
theorem winners_step (he : Effect i l r r') :
    ∀ w ∈ r'.winners, w ∈ r.winners ∨ w = (i, l.charge) := by
  intro w hw
  cases he with
  | none => exact Or.inl hw
  | lock => exact Or.inl hw
  | unlock => exact Or.inl hw
  | commit =>
    rcases List.mem_cons.mp hw with rfl | hw
    · exact Or.inr rfl
    · exact Or.inl hw
  | emit => exact Or.inl hw

end Settle

/-! ## The invariant -/

/-- The assertion on the deliveries, the requests and the history. -/
structure CheckoutInv (r : Checkout) : Prop where
  payments : payments.Reachable r.pay
  minted : (r.minted.map Prod.fst).Nodup
  tags : Tagged r.minted r.pay.shared.db
  billed : ∀ q ∈ r.requests, Billed r.minted q
  quoted : ∀ (i : ℕ) l, r.pay.procs[i]? = some l → Quoted r.minted l
  paid : ∀ w ∈ r.pay.shared.winners, Paid r.minted r.pay.shared.db w.2
  winner : ∀ w ∈ r.pay.shared.winners, ∃ l, r.pay.procs[w.1]? = some l ∧ l.charge = w.2

theorem CheckoutInv.empty (users : List UserId) :
    CheckoutInv ⟨⟨⟨⟨users, [], [], [], [], []⟩, [], [], []⟩, []⟩, [], []⟩ where
  payments := .of_init ⟨⟨users, rfl⟩, rfl⟩
  minted := List.nodup_nil
  tags t ht := absurd ht (by simp)
  billed q hq := absurd hq (by simp)
  quoted i l hi := absurd hi (by simp)
  paid w hw := absurd hw (by simp)
  winner w hw := absurd hw (by simp)

section Deliveries

variable {r : Checkout} {pay : Config PayDB Settling}

/-- A new delivery has read nothing yet. -/
theorem CheckoutInv.spawn (h : CheckoutInv r) (d : Charge) :
    CheckoutInv { r with pay := ⟨r.pay.shared, r.pay.procs ++ [Settling.start d]⟩ } where
  payments := h.payments.step (a := .spawn d) (Machine.next_spawn r.pay d)
  minted := h.minted
  tags := h.tags
  billed := h.billed
  quoted := by
    intro i l hi
    rcases Machine.getElem?_snoc_cases hi with ⟨-, rfl⟩ | hi
    · unfold Settling.start Quoted
      cases d.caller <;> trivial
    · exact h.quoted i l hi
  paid := h.paid
  winner := by
    intro w hw
    obtain ⟨l, hl, hcharge⟩ := h.winner w hw
    obtain ⟨hlt, -⟩ := List.getElem?_eq_some_iff.mp hl
    exact ⟨l, by rw [List.getElem?_append_left hlt]; exact hl, hcharge⟩

/-- **A step of a delivery keeps the invariant.** -/
theorem CheckoutInv.run (h : CheckoutInv r) {i : ℕ} {x : SettleInput} {l l' : Settling}
    {s : PayDB} (hi : r.pay.procs[i]? = some l)
    (hs : Settling.step i l r.pay.shared x = some (l', s)) :
    CheckoutInv { r with pay := ⟨s, r.pay.procs.set i l'⟩ } := by
  obtain ⟨hcharge, heff⟩ := Settling.step_effect hs
  obtain ⟨hinv, hall⟩ := pay_asserts_any h.payments
  have hnext : payMachine.next r.pay (.run i x) = some ⟨s, r.pay.procs.set i l'⟩ :=
    Machine.next_run.mpr ⟨l, l', s, hi, hs, rfl⟩
  obtain ⟨hlt, -⟩ := List.getElem?_eq_some_iff.mp hi
  exact
    { payments := h.payments.step (a := .run i x) hnext
      minted := h.minted
      tags := fun t ht => h.tags t (by rw [← effect_trips heff]; exact ht)
      billed := h.billed
      quoted := by
        intro j m hj
        rcases Machine.getElem?_set_cases hi hj with ⟨-, rfl⟩ | ⟨-, hj⟩
        · exact quoted_step h.tags h.minted (h.quoted i l hi) hs
        · exact h.quoted j m hj
      paid := by
        intro w hw
        cases heff with
        | commit uuids q totalAmount got booking db hpc hlen hok =>
          obtain ⟨-, -, -, htx⟩ := commit_facts (hall i l hi) hpc hlen hok
          rcases List.mem_cons.mp hw with rfl | hw
          · exact paid_commit hinv (hall i l hi) (h.quoted i l hi) hpc hlen hok
          · exact (h.paid w hw).keeps ((Write.confirm htx).keeps hinv.ledger)
              (List.Subset.refl _)
        | none => exact h.paid w hw
        | lock => exact h.paid w hw
        | unlock => exact h.paid w hw
        | emit => exact h.paid w hw
      winner := by
        intro w hw
        rcases winners_step heff w hw with hw | rfl
        · obtain ⟨m, hm, hwcharge⟩ := h.winner w hw
          by_cases hij : w.1 = i
          · rw [hij, hi, Option.some.injEq] at hm
            refine ⟨l', ?_, ?_⟩
            · rw [hij]
              exact List.getElem?_set_self hlt
            · rw [hcharge, hm, hwcharge]
          · refine ⟨m, ?_, hwcharge⟩
            show (r.pay.procs.set i l')[w.1]? = some m
            rw [List.getElem?_set_ne (Ne.symm hij)]
            exact hm
        · exact ⟨l', List.getElem?_set_self hlt, hcharge⟩ }

/-- **An operation of the ledger keeps the invariant.**  The trip it creates, if any, has
an id that no trip has had. -/
theorem CheckoutInv.ledger (h : CheckoutInv r) {a : Attempt} {s : PayDB}
    (hfresh : ∀ m ∈ a.op.mints, ∀ m' ∈ r.minted, m'.1 ≠ m.1)
    (he : r.pay.shared.env a = some s) :
    CheckoutInv { r with
      pay := ⟨s, r.pay.procs⟩
      minted := a.op.mints.toList ++ r.minted } := by
  obtain ⟨hinv, -⟩ := pay_asserts_any h.payments
  have hnext : payMachine.next r.pay (.env a) = some ⟨s, r.pay.procs⟩ :=
    Machine.next_env.mpr ⟨s, he, rfl⟩
  obtain ⟨hop, rfl, -⟩ := env_some he
  have hsub : r.minted ⊆ a.op.mints.toList ++ r.minted := List.subset_append_right _ _
  have hkeeps := (commit_writes r.pay.shared.db a).keeps hinv.ledger
  exact
    { payments := h.payments.step (a := .env a) hnext
      minted := by
        show ((a.op.mints.toList ++ r.minted).map Prod.fst).Nodup
        cases hm : a.op.mints with
        | none => exact h.minted
        | some m =>
          refine List.nodup_cons.mpr ⟨?_, h.minted⟩
          intro hmem
          obtain ⟨m', hm', hid⟩ := List.mem_map.mp hmem
          exact hfresh m hm m' hm' hid
      tags := by
        intro t ht
        rcases commit_tags r.pay.shared.db hop ht with ⟨t₀, ht₀, htag⟩ | hnew
        · rw [← htag]
          exact hsub (h.tags t₀ ht₀)
        · refine List.mem_append_left _ ?_
          rw [hnew]
          exact List.mem_singleton.mpr rfl
      billed := fun q hq => (h.billed q hq).mono hsub
      quoted := fun i l hi => (h.quoted i l hi).mono hsub
      paid := fun w hw => (h.paid w hw).keeps hkeeps hsub
      winner := h.winner }

end Deliveries

/-- A move of the deliveries and their environment leaves the requests alone. -/
theorem Checkout.env_some {r r' : Checkout} {a : Act Charge SettleInput Attempt}
    (he : r.env a = some r') :
    ((mintsOf a).all fun m => r.minted.all fun m' => m'.1 != m.1) = true ∧
      ∃ pay, payMachine.next r.pay a = some pay ∧
        r' = { r with pay, minted := (mintsOf a).toList ++ r.minted } := by
  unfold Checkout.env at he
  split at he
  · next hfresh =>
    obtain ⟨pay, hnext, rfl⟩ := Option.map_eq_some_iff.mp he
    exact ⟨hfresh, pay, hnext, rfl⟩
  · exact absurd he (by simp)

/-- **The deliveries and their environment keep the invariant.** -/
theorem CheckoutInv.env {r r' : Checkout} (h : CheckoutInv r)
    {a : Act Charge SettleInput Attempt} (he : r.env a = some r') :
    CheckoutInv r' ∧ r.minted ⊆ r'.minted := by
  obtain ⟨hfresh, pay, hnext, rfl⟩ := Checkout.env_some he
  refine ⟨?_, List.subset_append_right _ _⟩
  rcases Machine.next_cases hnext with ⟨d, rfl, rfl⟩ | ⟨i, x, l, l', s, rfl, hi, hs, rfl⟩ |
    ⟨a, s, rfl, hs, rfl⟩
  · exact h.spawn d
  · exact h.run hi hs
  · refine h.ledger ?_ hs
    intro m hm m' hm'
    have hall := (Option.all_eq_true _ _).mp hfresh m hm
    simpa using List.all_eq_true.mp hall m' hm'

/-! ## Calls of `initialize` -/

section Initialize

variable {j : ℕ} {l l' : Initializing} {r r' : Checkout} {x : InitializeInput}

/-- **What a step of a call does.**  It sends the request it has prepared, or nothing. -/
theorem initialize_step (htags : Tagged r.minted r.pay.shared.db) (hp : Pending r.minted l)
    (hs : Initializing.step j l r x = some (l', r')) :
    Pending r.minted l' ∧ (r' = r ∨ ∃ q, l.pc = .request q ∧ Billed r.minted q ∧
      r' = { r with requests := q :: r.requests }) := by
  unfold Initializing.step at hs
  unfold Pending at hp
  cases hpc : l.pc with
  | done o =>
    rw [hpc] at hs
    exact absurd hs (by simp)
  | held =>
    simp only [hpc] at hs
    split at hs <;> cases hs
    · exact ⟨trivial, Or.inl rfl⟩
    · refine ⟨?_, Or.inl rfl⟩
      unfold Initializing.checkHeld
      split <;> trivial
  | price seatIds =>
    simp only [hpc] at hs
    split at hs <;> cases hs
    · exact ⟨trivial, Or.inl rfl⟩
    · refine ⟨?_, Or.inl rfl⟩
      unfold Initializing.checkPrice
      split
      · trivial
      · next price hfind =>
        split
        · trivial
        · exact htags.findTripPrice hfind
  | user seatIds price =>
    simp only [hpc] at hs hp
    split at hs
    · cases hs
      exact ⟨trivial, Or.inl rfl⟩
    · split at hs <;> cases hs
      · refine ⟨⟨l.tripId, seatIds, price, rfl, rfl, hp, ?_⟩, Or.inl rfl⟩
        show (((seatIds.length : ℤ) * price * 100 : ℤ) : ℚ) = seatIds.length * price * 100
        push_cast
        rfl
      · exact ⟨trivial, Or.inl rfl⟩
  | request q =>
    simp only [hpc] at hs hp
    split at hs <;> cases hs <;> exact ⟨trivial, Or.inr ⟨q, rfl, hp, rfl⟩⟩

end Initialize

/-- **The proof outline of a checkout.** -/
theorem checkoutOutline : checkoutMachine.Outline (fun _ => True)
    (fun r => ∃ users, r = ⟨⟨⟨⟨users, [], [], [], [], []⟩, [], [], []⟩, []⟩, [], []⟩)
    (fun _ r => CheckoutInv r) (fun _ l r => Pending r.minted l) where
  init := by
    rintro r ⟨users, rfl⟩
    exact CheckoutInv.empty users
  spawn n o r _ h := h
  start n o r _ _ := trivial
  shared n i x l r l' r' _ _ h hl hs := by
    obtain ⟨-, rfl | ⟨q, -, hq, rfl⟩⟩ := initialize_step (j := i) h.tags hl hs
    · exact h
    · refine { h with billed := ?_ }
      intro p hp
      rcases List.mem_cons.mp hp with rfl | hp
      · exact hq
      · exact h.billed p hp
  self n i x l r l' r' _ _ h hl hs := by
    obtain ⟨hl', rfl | ⟨q, -, hq, rfl⟩⟩ := initialize_step (j := i) h.tags hl hs <;> exact hl'
  other n i x l r l' r' j m _ _ _ h hl hm hs := by
    obtain ⟨-, rfl | ⟨q, -, hq, rfl⟩⟩ := initialize_step (j := i) h.tags hl hs <;> exact hm
  env_shared n a r r' _ h he := (h.env he).1
  env_other n a r r' j m _ h hm he := hm.mono (h.env he).2

theorem checkout_inv {c : Config Checkout Initializing} (h : checkouts.Reachable c) :
    CheckoutInv c.shared :=
  (checkoutOutline.invariant h.by_any).1

/-! ## The agreement -/

/-- A delivery reports the charge of a request as paid in full: it has the reference and
the metadata that the request named, and the amount. -/
structure PaidInFull (q : ChargeRequest) (d : Charge) : Prop where
  reference : d.reference = q.reference
  metadata : d.metadata = some q.metadata
  amount : d.amountKobo = q.amountKobo

/-- A request that is paid in full is not turned down for its amount. -/
theorem CheckoutInv.not_failAmount {r : Checkout} (h : CheckoutInv r) {q : ChargeRequest}
    (hq : q ∈ r.requests) {i : ℕ} {l : Settling} (hi : r.pay.procs[i]? = some l)
    (hpaid : PaidInFull q l.charge) (reason : String) :
    l.pc ≠ .done (.failed reason .amount) := by
  intro hpc
  have hquoted := h.quoted i l hi
  rw [Quoted, hpc] at hquoted
  obtain ⟨tripId, seatIds, price, htrip, hseats, hmem, hne⟩ := hquoted
  obtain ⟨tripId', seatIds', price', htrip', hseats', hmem', hkobo⟩ := h.billed q hq
  rw [hpaid.metadata, Option.bind_some] at htrip hseats
  obtain rfl : tripId' = tripId := Option.some.inj (htrip'.symm.trans htrip)
  obtain rfl : seatIds' = seatIds := Option.some.inj (hseats'.symm.trans hseats)
  obtain rfl := price_unique h.minted hmem hmem'
  exact hne (hpaid.amount.trans hkobo)

/-- **What is charged is what is booked.**  In every state that calls of `initialize`,
deliveries of any charges and operations of the ledger reach: a delivery that reports a
request of `initialize` as paid in full is not answered `AMOUNT`; and every booking was
created by a delivery, captures a hundred times the `totalAmount` it stores, and that is
the number of its `booked_seats` rows times the price of its trip. -/
theorem booking_amount_agreement {c : Config Checkout Initializing}
    (h : checkouts.Reachable c) :
    (∀ q ∈ c.shared.requests, ∀ (i : ℕ) (l : Settling), c.shared.pay.procs[i]? = some l →
      PaidInFull q l.charge → ∀ reason, l.pc ≠ .done (.failed reason .amount)) ∧
    (∀ b ∈ c.shared.pay.shared.db.bookings, ∃ i l, c.shared.pay.procs[i]? = some l ∧
      (i, l.charge) ∈ c.shared.pay.shared.winners ∧ b.paymentRef = some l.charge.reference ∧
      l.charge.amountKobo = 100 * (b.totalAmount : ℚ) ∧
      ∃ t ∈ c.shared.pay.shared.db.trips, t.id = b.tripId ∧
        b.totalAmount = c.shared.pay.shared.db.bookedSeats.countP
          (fun row => row.bookingId == b.id) * t.price) := by
  have hinv := checkout_inv h
  obtain ⟨hpay, -⟩ := pay_asserts_any hinv.payments
  refine ⟨fun q hq i l hi hpaid => hinv.not_failAmount hq hi hpaid, ?_⟩
  intro b hb
  obtain ⟨w, hw, href⟩ := hpay.won b hb
  obtain ⟨l, hl, hcharge⟩ := hinv.winner w hw
  obtain ⟨b', hb', href', hkobo, price, hmem, htotal⟩ := hinv.paid w hw
  obtain rfl := hpay.ledger.ref_ext hb hb' href href'
  obtain ⟨t, ht, hid⟩ := hpay.ledger.booking_trip b hb
  have hprice : t.price = price := by
    have htag := hinv.tags t ht
    rw [Trip.tag, hid] at htag
    exact price_unique hinv.minted htag hmem
  refine ⟨w.1, l, hl, by rw [hcharge]; exact hw, by rw [hcharge]; exact href,
    by rw [hcharge]; exact hkobo, t, ht, hid, ?_⟩
  rw [hprice]
  exact htotal

/-! ## One run -/

/-- A step of a call in which nothing fails. -/
def answered : InitializeInput := ⟨false, 1, 99, .ok "https://checkout"⟩

/-- What the user's payment delivers. -/
def fullCharge : Charge :=
  ⟨none, 99, 500000, some ⟨none, none, none, some 1, some [10], some 7⟩⟩

/-- Another user names the same trip, two seats of it, and pays for one. -/
def forgedCharge : Charge :=
  ⟨none, 100, 500000, some ⟨none, none, none, some 1, some [10, 11], some 8⟩⟩

/-- A user holds a seat and starts a payment; the operator marks the trip full; the payment
and a forged one are delivered. -/
def checkoutRun : List (Act (UserId × TripId) InitializeInput (Act Charge SettleInput Attempt)) :=
  [.env (.env ⟨.createTrip 1 (fun i => 10 + i) twoSeats 3, false⟩),
    .env (.env ⟨.holdSeats (fun _ => false) 1 1 7 0, false⟩), .spawn (7, 1)] ++
  List.replicate 4 (.run 0 answered) ++
  [.env (.env ⟨.markFull 1 (some 3) .operator true none, false⟩),
    .env (.spawn forgedCharge), .env (.spawn fullCharge)] ++
  List.replicate 2 (.env (.run 0 plain)) ++ List.replicate 8 (.env (.run 1 plain))

/-- Empty tables and no call. -/
def checkoutStart : Config Checkout Initializing := ⟨⟨raceStart, [], []⟩, []⟩

theorem checkoutRun_runs : (checkouts.run checkoutStart checkoutRun).isSome = true := by
  decide +kernel

/-- Where the run ends. -/
def checkoutEnd : Config Checkout Initializing :=
  (checkouts.run checkoutStart checkoutRun).get checkoutRun_runs

theorem checkoutEnd_reachable : checkouts.Reachable checkoutEnd :=
  ⟨checkoutStart, ⟨⟨[7, 8], rfl⟩, rfl⟩, checkoutRun, (Option.some_get _).symm⟩

theorem booking_amount_agreement_checkout :
    checkoutEnd.shared.requests.map ChargeRequest.amountKobo = [500000] ∧
      checkoutEnd.shared.pay.procs[0]?.map Settling.pc =
        some (.done (.failed "Payment amount did not match the booking." .amount)) ∧
      checkoutEnd.shared.pay.shared.db.bookings.map Booking.totalAmount = [5000] ∧
      ∀ q ∈ checkoutEnd.shared.requests, ∀ (i : ℕ) (l : Settling),
        checkoutEnd.shared.pay.procs[i]? = some l → PaidInFull q l.charge →
          ∀ reason, l.pc ≠ .done (.failed reason .amount) :=
  ⟨by decide +kernel, by decide +kernel, by decide +kernel,
    (booking_amount_agreement checkoutEnd_reachable).1⟩

end TransHub
