import TransHub.Payments.Manifest

/-!
# One passenger for each seat

* `Boarded`, `ManifestInv`: what is stored of a booking, cached for its request and carried by
  its delivery comes from one list of passengers, with `manifestOutline`.
* `boarded_rows`: a booking has a row for each passenger of its request, or none.
* `manifest_complete`: so it has one for each seat, in every run whose calls are given as many
  passengers as they find seats; `manifest_short` is a run of another kind.
-/

namespace TransHub

/-! ## Assertions about passengers -/

variable {issued : List (ChargeRequest × List PassengerInfoInput)}

/-- The passengers were those of a request with the reference. -/
def IssuedFor (issued : List (ChargeRequest × List PassengerInfoInput)) (reference : Ref)
    (passengers : List PassengerInfoInput) : Prop :=
  ∃ q, (q, passengers) ∈ issued ∧ q.reference = reference

/-- The passengers that a delivery carries, if any, were those of a request with its
reference. -/
def Settling.Carries (issued : List (ChargeRequest × List PassengerInfoInput)) (l : Settling) :
    Prop :=
  ∀ q, l.pc.call = some q → ∀ passengers, q.input.passengers = some passengers →
    IssuedFor issued l.charge.reference passengers

/-- The booking of a charge has a row for each seat of the charge, and one for each passenger
of a request with its reference, or none. -/
def Boarded (issued : List (ChargeRequest × List PassengerInfoInput)) (db : DB) (d : Charge) :
    Prop :=
  ∃ b ∈ db.bookings, b.paymentRef = some d.reference ∧
    db.bookedSeats.countP (fun row => row.bookingId == b.id) = d.seatIds.length ∧
    (db.passengers.countP (fun p => p.bookingId == b.id) = 0 ∨
      ∃ passengers, IssuedFor issued d.reference passengers ∧
        db.passengers.countP (fun p => p.bookingId == b.id) = passengers.length)

section History

variable {issued' : List (ChargeRequest × List PassengerInfoInput)} (hsub : issued ⊆ issued')
include hsub

theorem IssuedFor.mono {reference : Ref} {passengers : List PassengerInfoInput}
    (h : IssuedFor issued reference passengers) : IssuedFor issued' reference passengers := by
  obtain ⟨q, hq, href⟩ := h
  exact ⟨q, hsub hq, href⟩

theorem Settling.Carries.mono {l : Settling} (h : l.Carries issued) : l.Carries issued' :=
  fun q hq passengers hpassengers => (h q hq passengers hpassengers).mono hsub

/-- A booking stays boarded while the tables keep it. -/
theorem Boarded.keeps {db db' : DB} {d : Charge} (h : Boarded issued db d) (hk : Keeps db db') :
    Boarded issued' db' d := by
  obtain ⟨b, hb, href, hseats, hpassengers⟩ := h
  refine ⟨b, hk.booking b hb, href, ?_, ?_⟩
  · rw [List.countP_eq_length_filter, hk.rows b hb, ← List.countP_eq_length_filter]
    exact hseats
  · rw [List.countP_eq_length_filter, hk.passengers b hb, ← List.countP_eq_length_filter]
    refine hpassengers.imp_right ?_
    rintro ⟨passengers, hissued, hcount⟩
    exact ⟨passengers, hissued.mono hsub, hcount⟩

end History

/-- The rows of a new booking are those of its passengers. -/
theorem countP_passengerRows (uuids : Bookings.Uuids)
    (passengers : Option (List PassengerInfoInput)) :
    (Bookings.passengerRows uuids passengers).countP (fun p => p.bookingId == uuids.booking)
      = (passengers.getD []).length := by
  have hall : ∀ p ∈ Bookings.passengerRows uuids passengers,
      (p.bookingId == uuids.booking) = true := by
    intro p hp
    rw [beq_iff_eq]
    exact Bookings.mem_passengerRows hp
  rw [List.countP_eq_length.mpr hall, Bookings.passengerRows, List.length_mapIdx]

/-- **A commit stores the passengers that the delivery carries.** -/
theorem boarded_commit {F : Prop} {Same : Charge → Prop} {i : ℕ} {l : Settling} {r : PayDB}
    {uuids : Bookings.Uuids} {q : ConfirmCall} {totalAmount : ℤ} {got : List SeatId}
    {booking : Bookings.BookingDTO} {db : DB} (hinv : PayInv Same r) (hl : Holds F Same i l r)
    (hcarries : l.Carries issued) (hpc : l.pc = .book q totalAmount got)
    (hlen : q.input.seatIds.length ≤ got.length)
    (hok : Bookings.createBookingRecord uuids q.input.tripId q.input.seatIds
      ⟨q.userId, totalAmount, q.input.paymentRef, q.input.passengers⟩
      { r.db with seats := Inventory.markBooked q.input.seatIds r.db.seats }
        = .ok (booking, db)) : Boarded issued db l.charge := by
  obtain ⟨-, hcall, -, htx⟩ := commit_facts hl hpc hlen hok
  obtain ⟨-, -, -, -, hins, -, hpassengers, -, -, -, -⟩ :=
    Bookings.confirmTx_ok hinv.ledger.nodup_seatIds htx
  obtain ⟨-, hbook⟩ := Table.insert_eq_some.mp hins
  obtain ⟨hpassengers, -⟩ := Table.insertMany_eq_some hpassengers
  obtain ⟨hfresh, hseats⟩ := commit_countP hinv hl hpc hlen hok
  have hcount : db.passengers.countP (fun p => p.bookingId == uuids.booking)
      = (q.input.passengers.getD []).length := by
    have hold : r.db.passengers.countP (fun p => p.bookingId == uuids.booking) = 0 := by
      rw [List.countP_eq_zero]
      intro p hp hid
      obtain ⟨b, hb, hbid⟩ := hinv.ledger.passenger_booking p hp
      exact hfresh b hb (hbid.trans (beq_iff_eq.mp hid))
    rw [hpassengers, List.countP_append, hold, countP_passengerRows, Nat.zero_add]
  refine ⟨_, by rw [hbook]; exact List.mem_append_right _ (List.mem_singleton.mpr rfl),
    congrArg some hcall.reference, hseats.trans (congrArg List.length hcall.seatIds), ?_⟩
  cases hread : q.input.passengers with
  | none =>
    rw [hread] at hcount
    exact Or.inl hcount
  | some passengers =>
    rw [hread] at hcount
    have hq : l.pc.call = some q := by rw [hpc]; rfl
    exact Or.inr ⟨passengers, hcarries q hq passengers hread, hcount⟩

/-! ## The invariant -/

/-- The assertion on what has been issued, cached, carried and stored. -/
structure ManifestInv (r : Manifests) : Prop where
  checkout : CheckoutInv r.checkout
  references : (r.issued.map fun e => e.1.reference).Nodup
  requests : ∀ q ∈ r.checkout.requests, ∃ passengers, (q, passengers) ∈ r.issued
  pax : ∀ e ∈ r.pax, IssuedFor r.issued e.1 e.2
  carries : ∀ (i : ℕ) l, r.checkout.pay.procs[i]? = some l → l.Carries r.issued
  boarded : ∀ w ∈ r.checkout.pay.shared.winners,
    Boarded r.issued r.checkout.pay.shared.db w.2

/-- The assertion on a call. -/
structure Boarding.Prepared (l : Boarding) (r : Manifests) : Prop where
  pending : Pending r.checkout.minted l.call
  prepared : ∀ q, l.call.pc.prepared = some q → (q, l.passengers) ∈ r.issued

theorem ManifestInv.empty (users : List UserId) : ManifestInv (.empty users) where
  checkout := CheckoutInv.empty users
  references := List.nodup_nil
  requests q hq := absurd hq List.not_mem_nil
  pax e he := absurd he List.not_mem_nil
  carries i l hi := absurd hi (by simp [Manifests.empty])
  boarded w hw := absurd hw List.not_mem_nil

/-- What Redis answers was cached for the reference. -/
theorem ManifestInv.get {r : Manifests} (h : ManifestInv r) {reference : Ref}
    {passengers : List PassengerInfoInput} (hget : r.get reference = some passengers) :
    IssuedFor r.issued reference passengers := by
  obtain ⟨e, he, rfl⟩ := Option.map_eq_some_iff.mp hget
  have hkey : e.1 = reference := by simpa using List.find?_some he
  rw [← hkey]
  exact h.pax e (List.mem_of_find?_eq_some he)

section Deliveries

variable {r : Manifests}

/-- **A step of a delivery keeps what is carried and stored.** -/
theorem ManifestInv.run (h : ManifestInv r) {i : ℕ} {x : SettleInput} {l l' : Settling} {s : PayDB}
    (hreads : r.reads (.run i x) = true) (hi : r.checkout.pay.procs[i]? = some l)
    (hs : Settling.step i l r.checkout.pay.shared x = some (l', s)) :
    l'.Carries r.issued ∧ ∀ w ∈ s.winners, Boarded r.issued s.db w.2 := by
  obtain ⟨hcharge, heff⟩ := Settling.step_effect hs
  obtain ⟨hinv, hall⟩ := pay_asserts_any h.checkout.payments
  constructor
  · intro q hq passengers hpassengers
    rw [hcharge]
    rcases step_call hs hq with hq | ⟨tripId, seatIds, userId, hpc, hread⟩
    · exact h.carries i l hi q hq passengers hpassengers
    · -- the delivery has read its passengers just now
      simp only [Manifests.reads, hi, Option.all_some, hpc, ← hread, hpassengers] at hreads
      have hget : some passengers = r.get l.charge.reference := by simpa using hreads
      exact h.get hget.symm
  · intro w hw
    cases heff with
    | none => exact h.boarded w hw
    | lock => exact h.boarded w hw
    | unlock => exact h.boarded w hw
    | emit => exact h.boarded w hw
    | commit uuids q totalAmount got booking db hpc hlen hok =>
      obtain ⟨-, -, -, htx⟩ := commit_facts (hall i l hi) hpc hlen hok
      rcases List.mem_cons.mp hw with rfl | hw
      · exact boarded_commit hinv (hall i l hi) (h.carries i l hi) hpc hlen hok
      · exact (h.boarded w hw).keeps (List.Subset.refl _) ((Write.confirm htx).keeps hinv.ledger)

/-- **The deliveries, their environment and Redis keep the invariant.** -/
theorem ManifestInv.env {r' : Manifests} (h : ManifestInv r) {m : ManifestMove}
    (he : r.env m = some r') :
    ManifestInv r' ∧ r.checkout.minted ⊆ r'.checkout.minted := by
  cases m with
  | expire reference =>
    cases he
    exact ⟨{ h with pax := fun e he => h.pax e (List.mem_filter.mp he).1 },
      List.Subset.refl _⟩
  | checkout a =>
    rw [Manifests.env] at he
    split at he
    · next hreads =>
      obtain ⟨checkout, hcheckout, rfl⟩ := Option.map_eq_some_iff.mp he
      obtain ⟨hinv, hminted⟩ := h.checkout.env hcheckout
      refine ⟨?_, hminted⟩
      obtain ⟨-, pay, hnext, rfl⟩ := Checkout.env_some hcheckout
      rcases Machine.next_cases hnext with ⟨d, rfl, rfl⟩ | ⟨i, x, l, l', s, rfl, hi, hs, rfl⟩ |
        ⟨a, s, rfl, hs, rfl⟩
      · refine { h with checkout := hinv, carries := ?_ }
        intro j m hj
        rcases Machine.getElem?_snoc_cases hj with ⟨-, rfl⟩ | hj
        · intro q hq
          unfold payMachine Settling.start at hq
          dsimp only at hq
          split at hq <;> cases hq
        · exact h.carries j m hj
      · obtain ⟨hcarries, hboarded⟩ := h.run hreads hi hs
        refine { h with checkout := hinv, carries := ?_, boarded := hboarded }
        intro j m hj
        rcases Machine.getElem?_set_cases hi hj with ⟨-, rfl⟩ | ⟨-, hj⟩
        · exact hcarries
        · exact h.carries j m hj
      · obtain ⟨hpay, -⟩ := pay_asserts_any h.checkout.payments
        obtain ⟨-, rfl, -⟩ := env_some hs
        refine { h with checkout := hinv, boarded := ?_ }
        intro w hw
        exact (h.boarded w hw).keeps (List.Subset.refl _)
          ((commit_writes r.checkout.pay.shared.db a).keeps hpay.ledger)
    · exact absurd he (by simp)

end Deliveries

section Calls

variable {i : ℕ} {l l' : Boarding} {r r' : Manifests} {x : BoardingInput}

/-- A request that a call sends, it has prepared before. -/
theorem Boarding.Prepared.request (hl : l.Prepared r) {q : ChargeRequest}
    (hpc : l.call.pc = .request q) : (q, l.passengers) ∈ r.issued :=
  hl.prepared q (congrArg InitializePc.prepared hpc)

/-- What is issued stays so. -/
theorem Boarding.Prepared.mono (hl : l.Prepared r)
    (hminted : r.checkout.minted ⊆ r'.checkout.minted) (hissued : r.issued ⊆ r'.issued) :
    l.Prepared r' :=
  ⟨hl.pending.mono hminted, fun q hq => hissued (hl.prepared q hq)⟩

/-- **A step of a call keeps the invariant and its own assertion.** -/
theorem ManifestInv.step (h : ManifestInv r) (hl : l.Prepared r)
    (hs : Boarding.step i l r x = some (l', r')) :
    ManifestInv r' ∧ l'.Prepared r' ∧ r.checkout.minted ⊆ r'.checkout.minted ∧
      r.issued ⊆ r'.issued := by
  rcases boarding_step hs with ⟨q, hpc, rfl, hcache⟩ | ⟨call, checkout, hcall, hfresh, rfl, rfl⟩
  · rcases hcache with rfl | rfl
    · exact ⟨h, ⟨hl.pending, hl.prepared⟩, List.Subset.refl _, List.Subset.refl _⟩
    · refine ⟨{ h with pax := ?_ }, ⟨hl.pending, hl.prepared⟩, List.Subset.refl _,
        List.Subset.refl _⟩
      intro e he
      rcases List.mem_cons.mp he with rfl | he
      · exact ⟨q, hl.request hpc, rfl⟩
      · exact h.pax e he
  · have hsub : r.issued ⊆
        (call.pc.prepared.map fun q => (q, l.passengers)).toList ++ r.issued :=
      List.subset_append_right _ _
    have hinv := (checkoutOutline.shared (i + 1) i x.call l.call r.checkout call checkout trivial
      (Nat.lt_succ_self i) h.checkout hl.pending hcall)
    obtain ⟨hpending, hcheckout⟩ :=
      initialize_step (j := i) h.checkout.tags hl.pending hcall
    have hreferences : ((((call.pc.prepared.map fun q => (q, l.passengers)).toList ++
        r.issued).map fun e => e.1.reference).Nodup) := by
      cases hprepared : call.pc.prepared with
      | none => exact h.references
      | some q =>
        refine List.nodup_cons.mpr ⟨?_, h.references⟩
        intro hmem
        obtain ⟨e, he, href⟩ := List.mem_map.mp hmem
        exact hfresh q hprepared e he href
    have hprepared : ∀ q, call.pc.prepared = some q → (q, l.passengers) ∈
        (call.pc.prepared.map fun q => (q, l.passengers)).toList ++ r.issued := by
      intro q hq
      rw [hq]
      exact List.mem_append_left _ (List.mem_singleton.mpr rfl)
    -- of the checkout it changes the requests, by the one that it has prepared
    have hrequests : ∀ p ∈ checkout.requests, ∃ passengers, (p, passengers) ∈
        (call.pc.prepared.map fun q => (q, l.passengers)).toList ++ r.issued := by
      intro p hp
      rcases hcheckout with rfl | ⟨q, hpc, -, rfl⟩
      · exact (h.requests p hp).imp fun _ hp => hsub hp
      · rcases List.mem_cons.mp hp with rfl | hp
        · exact ⟨l.passengers, hsub (hl.request hpc)⟩
        · exact (h.requests p hp).imp fun _ hp => hsub hp
    have hsame : checkout.pay = r.checkout.pay ∧ checkout.minted = r.checkout.minted := by
      rcases hcheckout with rfl | ⟨q, -, -, rfl⟩ <;> exact ⟨rfl, rfl⟩
    obtain ⟨hpay, hminted⟩ := hsame
    refine ⟨?_, ⟨hminted ▸ hpending, hprepared⟩, hminted ▸ List.Subset.refl _, hsub⟩
    exact
      { checkout := hinv
        references := hreferences
        requests := hrequests
        pax := fun e he => (h.pax e he).mono hsub
        carries := fun j m hj => (h.carries j m (hpay ▸ hj)).mono hsub
        boarded := by
          intro w hw
          rw [hpay] at hw ⊢
          exact (h.boarded w hw).keeps hsub (Keeps.refl _) }

end Calls

/-- **The proof outline of the manifests.** -/
theorem manifestOutline : manifestMachine.Outline (fun _ => True)
    (fun r => ∃ users, r = Manifests.empty users)
    (fun _ r => ManifestInv r) (fun _ l r => l.Prepared r) where
  init := by
    rintro r ⟨users, rfl⟩
    exact ManifestInv.empty users
  spawn n o r _ h := h
  start n o r _ _ := ⟨trivial, by rintro q ⟨⟩⟩
  shared n i x l r l' r' _ _ h hl hs := (h.step hl hs).1
  self n i x l r l' r' _ _ h hl hs := (h.step hl hs).2.1
  other n i x l r l' r' j m _ _ _ h hl hm hs := by
    obtain ⟨-, -, hminted, hissued⟩ := h.step hl hs
    exact hm.mono hminted hissued
  env_shared n m r r' _ h he := (h.env he).1
  env_other n m r r' j l _ h hl he := by
    obtain ⟨-, hminted⟩ := h.env he
    exact hl.mono hminted (Manifests.env_issued he ▸ List.Subset.refl _)

theorem manifest_inv {c : Config Manifests Boarding} (h : manifests.Reachable c) :
    ManifestInv c.shared :=
  (manifestOutline.invariant h.by_any).1

/-! ## The rows of a booking -/

/-- **The rows of a booking.**  A booking from a charge that `initialize` has made has a row
for each seat of the request, and a row for each of its passengers or none. -/
theorem boarded_rows {c : Config Manifests Boarding} (h : manifests.Reachable c)
    {q : ChargeRequest} (hq : q ∈ c.shared.checkout.requests) {w : ℕ × Charge}
    (hw : w ∈ c.shared.checkout.pay.shared.winners) (href : w.2.reference = q.reference)
    (hmeta : w.2.metadata = some q.metadata) {b : Booking}
    (hb : b ∈ c.shared.checkout.pay.shared.db.bookings)
    (hbref : b.paymentRef = some q.reference) :
    ∃ seatIds passengers, q.metadata.seatIds = some seatIds ∧ (q, passengers) ∈ c.shared.issued ∧
      c.shared.checkout.pay.shared.db.bookedSeats.countP (fun row => row.bookingId == b.id)
        = seatIds.length ∧
      (c.shared.checkout.pay.shared.db.passengers.countP (fun p => p.bookingId == b.id) = 0 ∨
        c.shared.checkout.pay.shared.db.passengers.countP (fun p => p.bookingId == b.id)
          = passengers.length) := by
  have hinv := manifest_inv h
  obtain ⟨hpay, -⟩ := pay_asserts_any hinv.checkout.payments
  obtain ⟨tripId, seatIds, price, -, hseatIds, -⟩ := hinv.checkout.billed q hq
  obtain ⟨passengers, hissued⟩ := hinv.requests q hq
  obtain ⟨b', hb', href', hseats, hrows⟩ := hinv.boarded w hw
  obtain rfl := hpay.ledger.ref_ext hb' hb href' (href ▸ hbref)
  have hcharge : w.2.seatIds = seatIds := by
    rw [Charge.seatIds, hmeta, Option.bind_some, hseatIds]
    rfl
  rw [hcharge] at hseats
  refine ⟨seatIds, passengers, hseatIds, hissued, hseats, hrows.imp_right ?_⟩
  -- a reference has one request, and so one list of passengers
  rintro ⟨passengers', ⟨q', hissued', hq'⟩, hcount⟩
  have hpair := List.inj_on_of_nodup_map hinv.references hissued' hissued (hq'.trans href)
  obtain ⟨-, rfl⟩ := Prod.mk.inj hpair
  exact hcount

/-! ## As many passengers as seats -/

/-- The step is not one in which a call finds some seats, but another number of them than it
has passengers. -/
def asManyPassengers (c : Config Manifests Boarding) :
    Act InitializeCall BoardingInput ManifestMove → Bool
  | .run i x => (c.procs[i]?).all fun l =>
      let found := Inventory.heldSeatIds l.call.tripId l.call.userId x.call.now
        c.shared.checkout.pay.shared.db.seats
      l.call.pc != .held || x.call.fault || found.length == 0 ||
        found.length == l.passengers.length
  | _ => true

/-- Requests, and calls on their way to one, are for as many seats as there are passengers. -/
structure Matched (c : Config Manifests Boarding) : Prop where
  issued : ∀ e ∈ c.shared.issued, ∀ seatIds, e.1.metadata.seatIds = some seatIds →
    seatIds.length = e.2.length
  calls : ∀ (i : ℕ) l, c.procs[i]? = some l → ∀ seatIds, l.call.pc.seatIds = some seatIds →
    seatIds.length = l.passengers.length

/-- **Such a step keeps the numbers equal.** -/
theorem matched_next {c c' : Config Manifests Boarding}
    {a : Act InitializeCall BoardingInput ManifestMove} (h : Matched c)
    (hok : asManyPassengers c a = true) (hs : manifests.step c a = some c') : Matched c' := by
  rcases Machine.next_cases hs with ⟨o, rfl, rfl⟩ | ⟨i, x, l, l', r', rfl, hi, hown, rfl⟩ |
    ⟨m, r', rfl, he, rfl⟩
  · refine ⟨h.issued, ?_⟩
    intro j m hj
    rcases Machine.getElem?_snoc_cases hj with ⟨-, rfl⟩ | hj
    · rintro seatIds ⟨⟩
    · exact h.calls j m hj
  · rcases boarding_step hown with ⟨q, -, rfl, hcache⟩ | ⟨call, checkout, hcall, -, rfl, rfl⟩
    · constructor
      · rcases hcache with rfl | rfl <;> exact h.issued
      · intro j m hj
        rcases Machine.getElem?_set_cases hi hj with ⟨-, rfl⟩ | ⟨-, hj⟩
        · exact h.calls i l hi
        · exact h.calls j m hj
    · -- a call that has found its seats in this step has found as many
      have hown : ∀ seatIds, call.pc.seatIds = some seatIds →
          seatIds.length = l.passengers.length := by
        intro seatIds hseats
        rcases step_seatIds hcall hseats with hbefore | ⟨hpc, hfault, hsome, rfl⟩
        · exact h.calls i l hi seatIds hbefore
        · simpa [asManyPassengers, hi, hpc, hfault, hsome] using hok
      constructor
      · intro e he seatIds hseats
        rcases List.mem_append.mp he with he | he
        · obtain ⟨q, hq, rfl⟩ := Option.map_eq_some_iff.mp (Option.mem_toList.mp he)
          refine hown seatIds ?_
          cases hpc : call.pc <;> rw [hpc] at hq <;> cases hq
          exact hseats
        · exact h.issued e he seatIds hseats
      · intro j m hj
        rcases Machine.getElem?_set_cases hi hj with ⟨-, rfl⟩ | ⟨-, hj⟩
        · exact hown
        · exact h.calls j m hj
  · exact ⟨Manifests.env_issued he ▸ h.issued, h.calls⟩

/-- **The manifest of a booking is complete.**  Take a run in which every call of `initialize`
that finds seats of its user is given as many passengers.  In the state that it reaches, every
booking from a charge that `initialize` has made has no passenger rows, or as many as it has
seats. -/
theorem manifest_complete {c₀ c : Config Manifests Boarding}
    {acts : List (Act InitializeCall BoardingInput ManifestMove)} (h₀ : manifests.init c₀)
    (hall : manifests.AllSteps (fun m a => asManyPassengers m a = true) c₀ acts)
    (hrun : manifests.run c₀ acts = some c) :
    ∀ q ∈ c.shared.checkout.requests, ∀ w ∈ c.shared.checkout.pay.shared.winners,
      w.2.reference = q.reference → w.2.metadata = some q.metadata →
      ∀ b ∈ c.shared.checkout.pay.shared.db.bookings, b.paymentRef = some q.reference →
        c.shared.checkout.pay.shared.db.passengers.countP (fun p => p.bookingId == b.id) = 0 ∨
        c.shared.checkout.pay.shared.db.passengers.countP (fun p => p.bookingId == b.id) =
          c.shared.checkout.pay.shared.db.bookedSeats.countP fun row => row.bookingId == b.id := by
  intro q hq w hw href hmeta b hb hbref
  have hstart : Matched c₀ := by
    obtain ⟨⟨users, hshared⟩, hprocs⟩ := h₀
    constructor
    · rw [hshared]
      exact fun e he => absurd he List.not_mem_nil
    · rw [hprocs]
      exact fun i l hi => absurd hi (by simp)
  have hmatched : Matched c :=
    hall.invariant hrun (fun r a r' hr hok hs => matched_next hr hok hs) hstart
  obtain ⟨seatIds, passengers, hseatIds, hissued, hseats, hrows⟩ :=
    boarded_rows ⟨c₀, h₀, acts, hrun⟩ hq hw href hmeta hb hbref
  rw [hseats, hmatched.issued _ hissued seatIds hseatIds]
  exact hrows

/-! ## Two runs -/

/-- A passenger of the sample runs. -/
def passenger (fullName : String) : PassengerInfoInput where
  fullName := fullName
  phone := "08030000001"
  email := none
  nextOfKinName := "Chi"
  nextOfKinPhone := "08030000002"
  specialNeeds := none

def bothNames : List PassengerInfoInput := [passenger "Ada", passenger "Obi"]

def oneName : List PassengerInfoInput := [passenger "Ada"]

/-- What the user's payment for two seats delivers. -/
def pairCharge : Charge :=
  ⟨none, 99, 1000000, some ⟨none, none, none, some 1, some [10, 11], some 7⟩⟩

/-- A user holds two seats and starts a payment; it is delivered, and reads the passengers that
were given. -/
def pairRun (passengers : List PassengerInfoInput) (one_le : 1 ≤ passengers.length) :
    List (Act InitializeCall BoardingInput ManifestMove) :=
  [.env (.checkout (.env ⟨.createTrip 1 (fun i => 10 + i) twoSeats 3, false⟩)),
    .env (.checkout (.env ⟨.holdSeats (fun _ => false) 1 2 7 0, false⟩)),
    .spawn ⟨7, 1, passengers, one_le⟩] ++
  List.replicate 5 (.run 0 ⟨answered, true⟩) ++
  [.env (.checkout (.spawn pairCharge)), .env (.checkout (.run 0 plain)),
    .env (.checkout (.run 0 { plain with passengers := some passengers }))] ++
  List.replicate 8 (.env (.checkout (.run 0 plain)))

/-- Nothing is stored and nobody has called. -/
def manifestStart : Config Manifests Boarding := ⟨.empty [7, 8], []⟩

theorem manifestStart_init : manifests.init manifestStart := ⟨⟨[7, 8], rfl⟩, rfl⟩

theorem pairRun_runs :
    (manifests.run manifestStart (pairRun bothNames (by decide))).isSome = true := by
  decide +kernel

/-- Where the run with two passengers ends. -/
def pairEnd : Config Manifests Boarding :=
  (manifests.run manifestStart (pairRun bothNames (by decide))).get pairRun_runs

theorem manifest_complete_pair :
    pairEnd.shared.checkout.pay.shared.db.passengers.map (fun p => p.fullName) = ["Ada", "Obi"] ∧
      ∀ q ∈ pairEnd.shared.checkout.requests, ∀ w ∈ pairEnd.shared.checkout.pay.shared.winners,
        w.2.reference = q.reference → w.2.metadata = some q.metadata →
        ∀ b ∈ pairEnd.shared.checkout.pay.shared.db.bookings, b.paymentRef = some q.reference →
          pairEnd.shared.checkout.pay.shared.db.passengers.countP (fun p => p.bookingId == b.id)
              = 0 ∨
            pairEnd.shared.checkout.pay.shared.db.passengers.countP (fun p => p.bookingId == b.id) =
              pairEnd.shared.checkout.pay.shared.db.bookedSeats.countP
                fun row => row.bookingId == b.id :=
  ⟨by decide +kernel, manifest_complete manifestStart_init (by decide +kernel)
    (Option.some_get pairRun_runs).symm⟩

theorem shortRun_runs :
    (manifests.run manifestStart (pairRun oneName (by decide))).isSome = true := by
  decide +kernel

/-- Where the run with one passenger ends. -/
def shortEnd : Config Manifests Boarding :=
  (manifests.run manifestStart (pairRun oneName (by decide))).get shortRun_runs

/-- **A manifest that is short.**  The schema accepts one passenger for two held seats; both
seats are paid for and booked, and the booking has one passenger row. -/
theorem manifest_short :
    manifests.Reachable shortEnd ∧
      ∃ q ∈ shortEnd.shared.checkout.requests,
        ∃ w ∈ shortEnd.shared.checkout.pay.shared.winners, w.2.reference = q.reference ∧
          w.2.metadata = some q.metadata ∧
          ∃ b ∈ shortEnd.shared.checkout.pay.shared.db.bookings,
            b.paymentRef = some q.reference ∧
            shortEnd.shared.checkout.pay.shared.db.passengers.countP
              (fun p => p.bookingId == b.id) = 1 ∧
            shortEnd.shared.checkout.pay.shared.db.bookedSeats.countP
              (fun row => row.bookingId == b.id) = 2 :=
  ⟨⟨manifestStart, manifestStart_init, _, (Option.some_get shortRun_runs).symm⟩,
    by decide +kernel⟩

end TransHub
