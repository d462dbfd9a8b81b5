import TransHub.Payments.Outline

/-!
# Every move keeps the outline

The obligations of the outline of booking deliveries, by the kind of move.

* `confirmTx_of_got`: a transaction that has taken all its rows commits what
  `confirmTx` would commit at that moment.
* `createBookingRecord_error`: why the insert of a booking can be refused then.
* `PayInv.effect`, `rely_of_effect`: a step keeps the shared assertion, and others may
  rely on it; `PayInv.env`, `rely_of_env`: so does an operation of the ledger.
* `holds_step`: a step keeps the assertion of the delivery that takes it.
* `payOutline`: the outline.
-/

namespace TransHub

open Bookings (BookingDTO ConfirmInput Uuids)

variable {F : Prop} {Same : Charge → Prop} {i : ℕ} {l l' : Settling} {r r' : PayDB}
  {x : SettleInput}

/-! ## The transaction -/

/-- A transaction that has taken as many rows as it wants has taken those. -/
theorem Got.perm {q : ConfirmCall} {got : List SeatId} (h : Got i q r got)
    (hlen : q.input.seatIds.length ≤ got.length) : got.Perm q.input.seatIds := by
  refine Table.perm_of_length_le h.nodup ?_ hlen
  intro y hy
  obtain ⟨s, -, -, -, hmem, -⟩ := Inventory.mem_lockRows.mp (h.bookable y hy)
  exact hmem

/-- **The rows a transaction has taken are what `lockAndMarkBooked` needs.** -/
theorem confirmTx_of_got {q : ConfirmCall} {got : List SeatId} (h : Got i q r got)
    (hne : q.input.seatIds ≠ []) (hlen : q.input.seatIds.length ≤ got.length) (uuids : Uuids)
    (totalAmount : ℤ) :
    Bookings.confirmTx uuids q.input q.userId totalAmount r.db =
      Bookings.createBookingRecord uuids q.input.tripId q.input.seatIds
        ⟨q.userId, totalAmount, q.input.paymentRef, q.input.passengers⟩
        { r.db with seats := Inventory.markBooked q.input.seatIds r.db.seats } := by
  have hsub : got ⊆ Inventory.lockRows q.input.tripId q.input.seatIds q.userId r.db.seats :=
    fun y hy => h.bookable y hy
  have hle := (List.subperm_of_subset h.nodup hsub).length_le
  have hlock : Inventory.lockAndMarkBooked q.input.tripId q.input.seatIds q.userId r.db.seats
      = .ok (Inventory.markBooked q.input.seatIds r.db.seats) := by
    rw [Inventory.lockAndMarkBooked, if_neg (by simpa using hne), if_neg (by omega)]
  rw [Bookings.confirmTx, hlock]
  rfl

/-- The row of a seat that may be booked. -/
theorem Bookable.seat {q : ConfirmCall} {db : DB} {y : SeatId} (h : Bookable q db y) :
    ∃ s ∈ db.seats, s.id = y ∧ s.tripId = q.input.tripId ∧ s.status ≠ .booked := by
  obtain ⟨s, hs, hid, htrip, -, hst⟩ := Inventory.mem_lockRows.mp h
  refine ⟨s, hs, hid, htrip, ?_⟩
  rcases hst with hst | ⟨hst, -⟩ <;> rw [hst] <;> simp

/-- No row of `booked_seats` refers to a seat that may be booked. -/
theorem Bookable.no_row {q : ConfirmCall} {db : DB} {y : SeatId} (h : Bookable q db y)
    (hinv : LedgerInv db) {row : BookedSeat} (hrow : row ∈ db.bookedSeats) : row.seatId ≠ y := by
  obtain ⟨s, hs, rfl, -, hnb⟩ := h.seat
  exact fun hid => hnb (hinv.booked_of_row hs hrow hid)

/-- The new `booked_seats` rows clash with none. -/
theorem insert_seatRows {q : ConfirmCall} {db : DB} {uuids : Uuids} (hinv : LedgerInv db)
    (hfresh : freshUuids uuids q db = true) (hnodup : q.input.seatIds.Nodup)
    (hbookable : ∀ y ∈ q.input.seatIds, Bookable q db y) :
    ∃ rows, Table.insertMany BookedSeat.clash db.bookedSeats
      (Bookings.seatRows uuids q.input.seatIds) = some rows := by
  simp only [freshUuids, Bool.and_eq_true, decide_eq_true_eq] at hfresh
  obtain ⟨-, hids, hdisj⟩ := List.nodup_append.mp hfresh.1.2
  refine ⟨_, Table.insertMany_of_unique ?_ ?_⟩
  · have hseat : ((Bookings.seatRows uuids q.input.seatIds).map BookedSeat.seatId)
        = q.input.seatIds := by
      refine List.ext_getElem (by simp [Bookings.seatRows]) ?_
      intro k _ _
      simp [Bookings.seatRows]
    have hpair := List.pairwise_map.mp hids
    have hpair' := List.pairwise_map.mp (hseat ▸ hnodup)
    refine (hpair.and hpair').imp ?_
    intro a b hab
    simp [BookedSeat.clash, hab.1, hab.2]
  · intro a ha b hb
    have hne : a.seatId ≠ b.seatId :=
      (hbookable b.seatId (Bookings.mem_seatRows hb).2).no_row hinv ha
    have hid : a.id ≠ b.id := hdisj a.id (List.mem_map_of_mem ha) b.id (List.mem_map_of_mem hb)
    simp [BookedSeat.clash, hne, hid]

/-- The new `passenger_info` rows clash with none. -/
theorem insert_passengerRows {q : ConfirmCall} {db : DB} {uuids : Uuids}
    (hfresh : freshUuids uuids q db = true) :
    ∃ rows, Table.insertMany PassengerInfo.clash db.passengers
      (Bookings.passengerRows uuids q.input.passengers) = some rows := by
  simp only [freshUuids, Bool.and_eq_true, decide_eq_true_eq] at hfresh
  obtain ⟨-, hids, hdisj⟩ := List.nodup_append.mp hfresh.2
  refine ⟨_, Table.insertMany_of_unique ?_ ?_⟩
  · refine (List.pairwise_map.mp hids).imp ?_
    intro a b hab
    simp [PassengerInfo.clash, hab]
  · intro a ha b hb
    have hid : a.id ≠ b.id := hdisj a.id (List.mem_map_of_mem ha) b.id (List.mem_map_of_mem hb)
    simp [PassengerInfo.clash, hid]

/-- **Why the insert of a booking is refused** once all rows are taken: its total is no
`INTEGER`, its user is unknown, or its reference has a booking already. -/
theorem createBookingRecord_error {q : ConfirmCall} {db : DB} {uuids : Uuids}
    {totalAmount : ℤ} {e : Thrown} (hinv : LedgerInv db)
    (hfresh : freshUuids uuids q db = true) (hne : q.input.seatIds ≠ [])
    (hnodup : q.input.seatIds.Nodup) (hbookable : ∀ y ∈ q.input.seatIds, Bookable q db y)
    (h : Bookings.createBookingRecord uuids q.input.tripId q.input.seatIds
      ⟨q.userId, totalAmount, q.input.paymentRef, q.input.passengers⟩
      { db with seats := Inventory.markBooked q.input.seatIds db.seats } = .error e) :
    e = .db .valueOutOfRange ∨ q.userId ∉ db.users ∨
      ∃ b ∈ db.bookings, b.paymentRef = some q.input.paymentRef := by
  rcases bind_eq_error.mp h with h | ⟨_, -, h⟩
  · -- the total
    exact Or.inl (ensure_eq_error.mp h).2.symm
  rcases bind_eq_error.mp h with h | ⟨_, -, h⟩
  · -- the user and the trip
    refine Or.inr (Or.inl ?_)
    intro hu
    obtain ⟨y, hy⟩ := List.exists_mem_of_ne_nil _ hne
    obtain ⟨s, hs, -, htrip, -⟩ := (hbookable y hy).seat
    obtain ⟨t, ht, htid⟩ := hinv.seat_trip s hs
    have hok : (db.users.contains q.userId && db.trips.any fun t => t.id == q.input.tripId)
        = true := by
      rw [Bool.and_eq_true]
      exact ⟨List.contains_iff_mem.mpr hu,
        List.any_eq_true.mpr ⟨t, ht, by simpa using htid.trans htrip⟩⟩
    exact absurd hok (Bool.eq_false_iff.mp (ensure_eq_error.mp h).1)
  rcases bind_eq_error.mp h with h | ⟨bookings, -, h⟩
  · -- the booking
    refine Or.inr (Or.inr ?_)
    by_contra hnone
    have hclash : ∀ b ∈ db.bookings, Booking.clash b (Bookings.bookingRow uuids q.input.tripId
        ⟨q.userId, totalAmount, q.input.paymentRef, q.input.passengers⟩) = false := by
      intro b hb
      simp only [freshUuids, Bool.and_eq_true, List.all_eq_true, bne_iff_ne] at hfresh
      have hid : b.id ≠ uuids.booking := hfresh.1.1 b hb
      have href : b.paymentRef ≠ some q.input.paymentRef := by
        intro he
        exact hnone ⟨b, hb, he⟩
      simp [Booking.clash, Bookings.bookingRow, hid, href]
    have hins := Table.insert_eq_some.mpr ⟨hclash, rfl⟩
    exact Option.some_ne_none _ (hins.symm.trans (orThrow_eq_error.mp h).1)
  rcases bind_eq_error.mp h with h | ⟨_, -, h⟩
  · -- the seats
    have hok : (q.input.seatIds.all fun y =>
        (Inventory.markBooked q.input.seatIds db.seats).any fun s => s.id == y) = true := by
      refine List.all_eq_true.mpr ?_
      intro y hy
      obtain ⟨s, hs, hid, -, -⟩ := (hbookable y hy).seat
      refine List.any_eq_true.mpr ⟨_, Table.mem_updateMany_of_mem hs, ?_⟩
      split <;> simpa using hid
    exact absurd hok (Bool.eq_false_iff.mp (ensure_eq_error.mp h).1)
  rcases bind_eq_error.mp h with h | ⟨rows, -, h⟩
  · -- the rows of the seats
    obtain ⟨rows, hrows⟩ := insert_seatRows hinv hfresh hnodup hbookable
    exact absurd (hrows.symm.trans (orThrow_eq_error.mp h).1) (Option.some_ne_none rows)
  rcases bind_eq_error.mp h with h | ⟨rows, -, h⟩
  · -- the rows of the passengers
    obtain ⟨rows, hrows⟩ := insert_passengerRows hfresh
    exact absurd (hrows.symm.trans (orThrow_eq_error.mp h).1) (Option.some_ne_none rows)
  · exact absurd h (by simp)

/-! ## Steps, seen from outside -/

/-- What a commit has found and done. -/
theorem commit_facts {q : ConfirmCall} {got : List SeatId} {uuids : Uuids} {totalAmount : ℤ}
    {booking : BookingDTO} {db : DB} (hl : Holds F Same i l r)
    (hpc : l.pc = .book q totalAmount got) (hlen : q.input.seatIds.length ≤ got.length)
    (h : Bookings.createBookingRecord uuids q.input.tripId q.input.seatIds
      ⟨q.userId, totalAmount, q.input.paymentRef, q.input.passengers⟩
      { r.db with seats := Inventory.markBooked q.input.seatIds r.db.seats }
        = .ok (booking, db)) :
    Fresh i l r ∧ CallOf l.charge q ∧ (∀ y ∈ q.input.seatIds, (y, i) ∈ r.locks) ∧
      Bookings.confirmTx uuids q.input q.userId totalAmount r.db = .ok (booking, db) := by
  have hat := hl.at_pc
  rw [At, hpc] at hat
  obtain ⟨hfresh, hq, hgot⟩ := hat
  refine ⟨hfresh, hq, fun y hy => hgot.locked y ((hgot.perm hlen).mem_iff.mpr hy), ?_⟩
  rw [confirmTx_of_got hgot hq.nonempty hlen, h]

/-- Empty tables satisfy the assertion. -/
theorem PayInv.empty (users : List UserId) :
    PayInv Same ⟨⟨users, [], [], [], [], []⟩, [], [], []⟩ where
  ledger := LedgerInv.empty users
  locks y a b ha := absurd ha (by simp)
  same w hw := absurd hw (by simp)
  sold w hw := absurd hw (by simp)
  won b hb := absurd hb (by simp)
  once w hw := absurd hw (by simp)
  announced e he := absurd he (by simp)
  emitted_once := List.nodup_nil

/-- **A step keeps the assertion on the shared state.** -/
theorem PayInv.effect (h : PayInv Same r) (hl : Holds F Same i l r) (he : Effect i l r r') :
    PayInv Same r' := by
  cases he with
  | none => exact h
  | lock y hfree =>
    refine { h with locks := ?_ }
    intro z a b ha hb
    have hfree := PayDB.lockedByOther_eq_false.mp hfree
    rcases PayDB.mem_lock.mp ha with ⟨hz, hai⟩ | hold <;>
      rcases PayDB.mem_lock.mp hb with ⟨hz', hbi⟩ | hold'
    · rw [hai, hbi]
    · rw [hz] at hold'
      rw [hai, hfree b hold']
    · rw [hz'] at hold
      rw [hbi, hfree a hold]
    · exact h.locks z a b hold hold'
  | unlock =>
    exact { h with
      locks := fun z a b ha hb =>
        h.locks z a b (PayDB.mem_unlock.mp ha).1 (PayDB.mem_unlock.mp hb).1 }
  | commit uuids q totalAmount got booking db hpc hlen hok =>
    obtain ⟨-, hq, -, htx⟩ := commit_facts hl hpc hlen hok
    have hkeeps := (Write.confirm htx).keeps h.ledger
    obtain ⟨-, -, -, -, hins, hrows, -, -, -, -, -⟩ :=
      Bookings.confirmTx_ok h.ledger.nodup_seatIds htx
    obtain ⟨hnew, hbook⟩ := Table.insert_eq_some.mp hins
    obtain ⟨hrows', -⟩ := Table.insertMany_eq_some hrows
    have hsold : Sold db l.charge := by
      rw [Sold, hbook, hrows']
      refine ⟨_, List.mem_append_right _ (List.mem_singleton.mpr rfl),
        congrArg some hq.reference, ?_⟩
      intro y hy
      rw [← hq.seatIds] at hy
      obtain ⟨row, hrow, hid⟩ := Bookings.exists_mem_seatRows uuids hy
      exact ⟨row, List.mem_append_right _ hrow, hid, (Bookings.mem_seatRows hrow).1⟩
    -- a stored booking of the same reference would have stopped the insert
    have hfirst : ∀ w ∈ r.winners, w.2.reference ≠ l.charge.reference := by
      intro w hw he
      obtain ⟨b, hb, href, -⟩ := h.sold w hw
      have hc := hnew b hb
      rw [Booking.clash, Bookings.bookingRow, href, he, hq.reference] at hc
      exact absurd hc (by simp)
    exact
      { ledger := h.ledger.confirmTx htx
        locks := fun z a b ha hb =>
          h.locks z a b (PayDB.mem_unlock.mp ha).1 (PayDB.mem_unlock.mp hb).1
        same := by
          intro w hw
          rcases List.mem_cons.mp hw with rfl | hw
          · exact hl.same
          · exact h.same w hw
        sold := by
          intro w hw
          rcases List.mem_cons.mp hw with rfl | hw
          · exact hsold
          · exact (h.sold w hw).keeps hkeeps
        won := by
          intro b hb
          have hb : b ∈ db.bookings := hb
          rw [hbook] at hb
          rcases List.mem_append.mp hb with hb | hb
          · obtain ⟨w, hw, href⟩ := h.won b hb
            exact ⟨w, List.mem_cons_of_mem _ hw, href⟩
          · rw [List.mem_singleton.mp hb]
            exact ⟨_, List.mem_cons_self, congrArg some hq.reference⟩
        once := by
          intro w hw w' hw' href
          rcases List.mem_cons.mp hw with rfl | hw <;>
            rcases List.mem_cons.mp hw' with rfl | hw'
          · rfl
          · exact absurd href.symm (hfirst w' hw')
          · exact absurd href (hfirst w hw)
          · exact h.once w hw w' hw' href
        announced := by
          intro e he
          obtain ⟨w, hw, hrest⟩ := h.announced e he
          exact ⟨w, List.mem_cons_of_mem _ hw, hrest⟩
        emitted_once := h.emitted_once }
  | emit q totalAmount booking hpc =>
    have hat := hl.at_pc
    rw [At, hpc] at hat
    obtain ⟨hwon, hem, -, hq, -⟩ := hat
    refine { h with
      announced := ?_
      emitted_once := List.nodup_cons.mpr ⟨?_, h.emitted_once⟩ }
    · intro e he
      rcases List.mem_cons.mp he with rfl | he
      · exact ⟨_, hwon, rfl, hq.reference.symm⟩
      · exact h.announced e he
    · intro hmem
      obtain ⟨e, he, href⟩ := List.mem_map.mp hmem
      obtain ⟨w, hw, hby, hwref⟩ := h.announced e he
      have heq : w = (i, l.charge) :=
        h.once w hw _ hwon ((hwref.trans href).trans hq.reference)
      rw [heq] at hby
      exact hem e he hby.symm

theorem Rely.refl (h : LedgerInv r.db) (j : ℕ) : Rely j r r where
  keeps := Keeps.refl r.db
  users := rfl
  ledger := h
  ledger' := h
  locks _ hx := hx
  rows _ hs _ := hs
  winners _ hw := hw
  winners_new _ hw := Or.inl hw
  emitted_new _ he := Or.inl he

/-- **The other deliveries may rely on a step.** -/
theorem rely_of_effect (h : PayInv Same r) (hl : Holds F Same i l r) (he : Effect i l r r')
    {j : ℕ} (hne : j ≠ i) : Rely j r r' := by
  have hrefl := Rely.refl h.ledger j
  cases he with
  | none => exact hrefl
  | lock y hfree =>
    exact { hrefl with locks := fun z hz => PayDB.mem_lock.mpr (Or.inr hz) }
  | unlock =>
    exact { hrefl with locks := fun z hz => PayDB.mem_unlock.mpr ⟨hz, hne⟩ }
  | commit uuids q totalAmount got booking db hpc hlen hok =>
    obtain ⟨-, -, hlocked, htx⟩ := commit_facts hl hpc hlen hok
    have hwrite := Write.confirm htx
    obtain ⟨-, -, -, -, -, -, -, -, -, hseats, -⟩ :=
      Bookings.confirmTx_ok h.ledger.nodup_seatIds htx
    exact
      { keeps := hwrite.keeps h.ledger
        users := hwrite.users h.ledger
        ledger := h.ledger
        ledger' := hwrite.inv h.ledger
        locks := fun z hz => PayDB.mem_unlock.mpr ⟨hz, hne⟩
        rows := by
          intro s hs hlock
          show s ∈ db.seats
          rw [hseats]
          refine Table.mem_updateMany_of_not hs ?_
          rw [Bool.eq_false_iff]
          exact fun hc => hne (h.locks s.id j i hlock (hlocked s.id (List.contains_iff_mem.mp hc)))
        winners := fun w hw => List.mem_cons_of_mem _ hw
        winners_new := by
          intro w hw
          rcases List.mem_cons.mp hw with rfl | hw
          · exact Or.inr (Ne.symm hne)
          · exact Or.inl hw
        emitted_new := fun e he => Or.inl he }
  | emit q totalAmount booking hpc =>
    refine { hrefl with emitted_new := ?_ }
    intro e he
    rcases List.mem_cons.mp he with rfl | he
    · exact Or.inr (Ne.symm hne)
    · exact Or.inl he

/-! ## Operations of the ledger -/

/-- What an operation of the ledger does while deliveries are open. -/
theorem env_some {a : Attempt} (h : r.env a = some r') :
    a.op.isConfirm = false ∧ r' = { r with db := commit r.db a } ∧
      ∀ k ∈ r.locks, (commit r.db a).seats.find? (fun s => s.id = k.1)
        = r.db.seats.find? fun s => s.id = k.1 := by
  unfold PayDB.env at h
  dsimp only at h
  split at h
  · next hc =>
    cases h
    simp only [Bool.and_eq_true, Bool.not_eq_true', List.all_eq_true, decide_eq_true_eq] at hc
    exact ⟨hc.1, rfl, hc.2⟩
  · exact absurd h (by simp)

theorem PayInv.env (h : PayInv Same r) {a : Attempt} (he : r.env a = some r') :
    PayInv Same r' := by
  obtain ⟨hop, rfl, -⟩ := env_some he
  have hwrites := commit_writes r.db a
  have hkeeps := hwrites.keeps h.ledger
  exact
    { h with
      ledger := hwrites.inv h.ledger
      sold := fun w hw => (h.sold w hw).keeps hkeeps
      won := fun b hb => h.won b (by rw [← commit_bookings r.db hop]; exact hb) }

theorem rely_of_env (h : PayInv Same r) {a : Attempt} (he : r.env a = some r') (j : ℕ) :
    Rely j r r' := by
  obtain ⟨-, rfl, hrows⟩ := env_some he
  have hwrites := commit_writes r.db a
  exact
    { Rely.refl h.ledger j with
      keeps := hwrites.keeps h.ledger
      users := hwrites.users h.ledger
      ledger' := hwrites.inv h.ledger
      rows := by
        intro s hs hlock
        have hfind := hrows (s.id, j) hlock
        rw [Table.find?_eq_some_of_mem h.ledger.nodup_seatIds hs] at hfind
        exact List.mem_of_find?_eq_some hfind }

/-! ## Steps, seen by the delivery itself -/

theorem found_of_find {d : Charge} {booking : BookingDTO}
    (h : Bookings.findByPaymentRef d.reference r.db = some booking) : Found d r booking := by
  obtain ⟨b, hfind, rfl⟩ := Option.map_eq_some_iff.mp h
  exact ⟨b, List.mem_of_find?_eq_some hfind, by simpa using List.find?_some hfind, rfl⟩

/-- A fresh delivery returns a booking it has found. -/
theorem holds_returned {booking : BookingDTO} (hsame : Same l.charge)
    (hrolled : ∀ e, l.rolledBack = some e → Refusal F Same l.charge r.db.users e)
    (hissues : l.issues = []) (hf : Found l.charge r booking) :
    Holds F Same i (l.finish (.returned booking)) r :=
  ⟨hsame, hrolled, .returned booking hissues hf⟩

/-- A fresh delivery may throw. -/
theorem holds_thrown (hsame : Same l.charge) (hf : Fresh i l r) (e : Thrown) :
    Holds F Same i (l.finish (.thrown e)) r := by
  refine ⟨hsame, ?_, .thrown e hf.notWon (Or.inl hf.issues) ?_⟩
  · intro e' he'
    exact absurd (hf.rolledBack.symm.trans he') (by simp)
  · intro e' he'
    exact absurd (hf.rolledBack.symm.trans he') (by simp)

/-- A fresh delivery goes on. -/
theorem holds_goto (hsame : Same l.charge) (hf : Fresh i l r) {pc : SettlePc}
    (hat : At F i (l.goto pc) r) : Holds F Same i (l.goto pc) r :=
  ⟨hsame, fun e he => absurd (hf.rolledBack.symm.trans he) (by simp), hat⟩

/-- A fresh delivery reports and fails. -/
theorem holds_fail (hsame : Same l.charge) (hf : Fresh i l r) {issue : PaymentIssue}
    {reason : String} {code : SettleCode} (href : issue.reference = some l.charge.reference)
    (hcode : issue.context.code = some code.text) :
    Holds F Same i (l.fail issue reason code) r := by
  refine ⟨hsame, fun e he => absurd (hf.rolledBack.symm.trans he) (by simp),
    .failed reason code issue hf.notWon ?_ href hcode ?_⟩
  · show l.issues ++ [issue] = [issue]
    rw [hf.issues, List.nil_append]
  · intro e he
    exact absurd (hf.rolledBack.symm.trans he) (by simp)

/-- The `catch` around `confirm` reports once. -/
theorem holds_confirmThrows (hsame : Same l.charge)
    (hrolled : ∀ e, l.rolledBack = some e → Refusal F Same l.charge r.db.users e)
    (hwon : NotWon i r) (hissues : l.issues = []) (q : ConfirmCall) {e : Thrown}
    (he : ∀ e', l.rolledBack = some e' → e'.isConflictError = true →
      e.isConflictError = true ∨ F) :
    Holds F Same i (l.confirmThrows q e) r := by
  have hone : ∀ issue, (l.reportPaymentIssue issue).issues = [issue] := by
    intro issue
    show l.issues ++ [issue] = [issue]
    rw [hissues, List.nil_append]
  unfold Settling.confirmThrows
  split
  · exact ⟨hsame, hrolled, .failed _ _ _ hwon (hone _) rfl rfl fun _ _ => rfl⟩
  · next hconf =>
    exact ⟨hsame, hrolled, .thrown e hwon (Or.inr ⟨_, hone _, rfl, rfl⟩) fun e' he' hc =>
      (he e' he' hc).elim (fun h => absurd h hconf) id⟩

/-- The `catch` around the transaction. -/
theorem holds_txThrows (hsame : Same l.charge) (hf : Fresh i l r) {q : ConfirmCall}
    (hq : CallOf l.charge q) {e : Thrown} (hr : Refusal F Same l.charge r.db.users e) :
    Holds F Same i (l.txThrows q e) r := by
  have hrolled : ∀ e', some e = some e' → Refusal F Same l.charge r.db.users e' := by
    rintro _ ⟨⟩
    exact hr
  unfold Settling.txThrows
  dsimp only
  split
  · next hc => exact ⟨hsame, hrolled, hf.notWon, hf.issues, hq, rfl, hc⟩
  · next hc =>
    refine holds_confirmThrows (l := { l with rolledBack := some e }) hsame hrolled hf.notWon
      hf.issues q ?_
    rintro e' ⟨⟩ hc'
    exact absurd hc' hc

theorem Fresh.goto (hf : Fresh i l r) (pc : SettlePc) : Fresh i (l.goto pc) r :=
  ⟨hf.notWon, hf.issues, hf.rolledBack⟩

theorem Fresh.unlock (hf : Fresh i l r) : Fresh i l (r.unlock i) :=
  ⟨hf.notWon, hf.issues, hf.rolledBack⟩

theorem Fresh.rolled (hf : Fresh i l r) {P : Thrown → Prop} :
    ∀ e, l.rolledBack = some e → P e := fun _ he =>
  absurd (hf.rolledBack.symm.trans he) (by simp)

/-- An exception in `confirm` outside the transaction. -/
theorem holds_confirmThrows_of_fresh (hsame : Same l.charge) (hf : Fresh i l r)
    (q : ConfirmCall) (e : Thrown) : Holds F Same i (l.confirmThrows q e) r :=
  holds_confirmThrows hsame hf.rolled hf.notWon hf.issues q hf.rolled

/-- The metadata check. -/
theorem holds_checkMeta (hsame : Same l.charge) (hf : Fresh i l r) :
    Holds F Same i l.checkMeta r := by
  unfold Settling.checkMeta
  split
  · next tripId y seatIds userId htrip hseats huser =>
    refine holds_goto hsame hf ⟨hf.goto _, ?_, by simp, huser, htrip⟩
    show y :: seatIds = l.charge.seatIds
    rw [Charge.seatIds, hseats, Option.getD_some]
  · exact holds_fail hsame hf rfl rfl

/-- The amount check. -/
theorem holds_checkAmount (hsame : Same l.charge) (hf : Fresh i l r) {tripId : TripId}
    {seatIds : List SeatId} {userId : UserId} (hseats : seatIds = l.charge.seatIds)
    (hne : seatIds ≠ []) (huser : l.charge.metadata.bind ChargeMetadata.userId = some userId)
    (htrip : l.charge.metadata.bind ChargeMetadata.tripId = some tripId)
    (passengers : Option (List PassengerInfoInput)) (price : Option ℤ) :
    Holds F Same i (l.checkAmount tripId seatIds userId passengers price) r := by
  unfold Settling.checkAmount
  split
  · exact holds_fail hsame hf rfl rfl
  · dsimp only
    split
    · exact holds_fail hsame hf rfl rfl
    · exact holds_goto hsame hf ⟨hf.goto _, rfl, hseats, hne, huser, htrip⟩

/-- The check of the caller. -/
theorem holds_checkCaller (hsame : Same l.charge) (hf : Fresh i l r) (caller : UserId) :
    Holds F Same i (l.checkCaller caller) r := by
  unfold Settling.checkCaller
  split
  · exact holds_thrown hsame hf _
  · exact holds_goto hsame hf (hf.goto _)

/-- A step of the row-locking loop. -/
theorem holds_locking {q : ConfirmCall} {totalAmount : ℤ} {todo got : List SeatId}
    (hsame : Same l.charge) (hf : Fresh i l r) (hq : CallOf l.charge q) (hg : Got i q r got)
    {y : SeatId} (hnodup : (y :: todo ++ got).Nodup)
    (hmem : (Inventory.lockRows q.input.tripId q.input.seatIds q.userId
      r.db.seats).contains y = true) :
    Holds F Same i (l.goto (.locking q totalAmount todo (y :: got))) (r.lock i y) := by
  have hperm : (y :: todo ++ got).Perm (todo ++ y :: got) := by
    rw [List.cons_append]
    exact List.perm_middle.symm
  have hnodup' := hperm.nodup_iff.mp hnodup
  have hf' : Fresh i l (r.lock i y) := ⟨hf.notWon, hf.issues, hf.rolledBack⟩
  refine holds_goto hsame hf' ⟨hf'.goto _, hq, ⟨hnodup'.of_append_right, ?_, ?_⟩, hnodup'⟩
  · intro z hz
    rcases List.mem_cons.mp hz with rfl | hz
    · exact PayDB.mem_lock.mpr (Or.inl ⟨rfl, rfl⟩)
    · exact PayDB.mem_lock.mpr (Or.inr (hg.locked z hz))
  · intro z hz
    rcases List.mem_cons.mp hz with rfl | hz
    · exact List.contains_iff_mem.mp hmem
    · exact hg.bookable z hz

/-- The insert of a booking was refused. -/
theorem refusal_of_error {q : ConfirmCall} {got : List SeatId} {uuids : Uuids}
    {totalAmount : ℤ} {e : Thrown} (h : PayInv Same r) (hq : CallOf l.charge q)
    (hg : Got i q r got) (hlen : q.input.seatIds.length ≤ got.length)
    (hfresh : freshUuids uuids q r.db = true)
    (herr : Bookings.createBookingRecord uuids q.input.tripId q.input.seatIds
      ⟨q.userId, totalAmount, q.input.paymentRef, q.input.passengers⟩
      { r.db with seats := Inventory.markBooked q.input.seatIds r.db.seats } = .error e) :
    Refusal F Same l.charge r.db.users e := by
  have hperm := hg.perm hlen
  have hbookable : ∀ y ∈ q.input.seatIds, Bookable q r.db y := fun y hy =>
    hg.bookable y (hperm.mem_iff.mpr hy)
  rcases createBookingRecord_error h.ledger hfresh hq.nonempty (hperm.nodup_iff.mp hg.nodup)
    hbookable herr with hval | huser | ⟨b, hb, href⟩
  · exact .amount hval
  · exact .user q.userId hq.userId huser
  · obtain ⟨w, hw, hwref⟩ := h.won b hb
    have hsameRef : w.2.reference = l.charge.reference := by
      rw [href, Option.some.injEq] at hwref
      rw [← hwref, hq.reference]
    refine .other w.2 (h.same w hw) hsameRef ?_
    intro hseats
    -- with the same seats, the rows of that booking would make them unbookable
    obtain ⟨b', hb', -, hrows⟩ := h.sold w hw
    obtain ⟨y, hy⟩ := List.exists_mem_of_ne_nil _ hq.nonempty
    have hy' : y ∈ w.2.seatIds := by
      rw [hseats, ← hq.seatIds]
      exact hy
    obtain ⟨row, hrow, hid, -⟩ := hrows y hy'
    exact (hbookable y hy).no_row h.ledger hrow hid

/-- Before the call of `confirm` a delivery is fresh. -/
theorem Holds.fresh (hl : Holds F Same i l r) (hpc : l.pc.early = true) : Fresh i l r := by
  have hat := hl.at_pc
  unfold At at hat
  cases hplace : l.pc with
  | verify caller =>
    rw [hplace] at hat
    exact hat
  | settle =>
    rw [hplace] at hat
    exact hat
  | price tripId seatIds userId =>
    rw [hplace] at hat
    exact hat.1
  | _ => simp [SettlePc.early, hplace] at hpc

/-- A commit is announced by nobody yet. -/
theorem holds_commit (h : PayInv Same r) (hl : Holds F Same i l r) {q : ConfirmCall}
    {totalAmount : ℤ} {got : List SeatId} {uuids : Uuids} {booking : BookingDTO} {db : DB}
    (hpc : l.pc = .book q totalAmount got) (hlen : q.input.seatIds.length ≤ got.length)
    (hok : Bookings.createBookingRecord uuids q.input.tripId q.input.seatIds
      ⟨q.userId, totalAmount, q.input.paymentRef, q.input.passengers⟩
      { r.db with seats := Inventory.markBooked q.input.seatIds r.db.seats } = .ok (booking, db)) :
    Holds F Same i (l.goto (.notify q totalAmount booking)) ((r.won i l.charge db).unlock i) := by
  obtain ⟨hf, hq, -, htx⟩ := commit_facts hl hpc hlen hok
  obtain ⟨-, -, -, -, hins, -, -, -, -, -, hdto⟩ :=
    Bookings.confirmTx_ok h.ledger.nodup_seatIds htx
  obtain ⟨-, hbook⟩ := Table.insert_eq_some.mp hins
  refine ⟨hl.same, hf.rolled, List.mem_cons_self, ?_, hf.issues, hq, ?_⟩
  · intro e he hby
    obtain ⟨w, hw, hwby, -⟩ := h.announced e he
    exact hf.notWon w hw (hwby.trans hby)
  · refine ⟨_, ?_, congrArg some hq.reference, hdto⟩
    show _ ∈ db.bookings
    rw [hbook]
    exact List.mem_append_right _ (List.mem_singleton.mpr rfl)

/-- **A step keeps the assertion of the delivery that takes it.** -/
theorem holds_step (h : PayInv Same r) (hl : Holds F Same i l r) (hF : x.fault = true → F)
    (hs : Settling.step i l r x = some (l', r')) : Holds F Same i l' r' := by
  have hsame := hl.same
  have hat := hl.at_pc
  unfold At at hat
  cases Settling.step_move hs with
  | fault hpc => exact holds_thrown hsame (hl.fresh hpc) _
  | forbidden caller hpc =>
    rw [hpc] at hat
    exact holds_thrown hsame hat _
  | settled booking hpc hfind =>
    have hf := hl.fresh hpc
    exact holds_returned hsame hf.rolled hf.issues (found_of_find hfind)
  | checkCaller caller hpc =>
    rw [hpc] at hat
    exact holds_checkCaller hsame hat caller
  | checkMeta hpc =>
    rw [hpc] at hat
    exact holds_checkMeta hsame hat
  | checkAmount tripId seatIds userId hpc =>
    rw [hpc] at hat
    obtain ⟨hf, hseats, hne, huser, htrip⟩ := hat
    exact holds_checkAmount hsame hf hseats hne huser htrip _ _
  | throws q e hpc =>
    rcases hpc with hpc | hpc <;> rw [hpc] at hat <;>
      exact holds_confirmThrows_of_fresh hsame hat.1 q e
  | present q booking hpc hfind =>
    rw [hpc] at hat
    obtain ⟨hf, hq⟩ := hat
    rw [hq.reference] at hfind
    exact holds_returned hsame hf.rolled hf.issues (found_of_find hfind)
  | absent q hpc =>
    rw [hpc] at hat
    obtain ⟨hf, hq⟩ := hat
    exact holds_goto hsame hf ⟨hf.goto _, hq⟩
  | priced q price hpc hprice =>
    rw [hpc] at hat
    obtain ⟨hf, hq⟩ := hat
    exact holds_goto hsame hf ⟨hf.goto _, hq⟩
  | selectFault q totalAmount hpc hfault =>
    rw [hpc] at hat
    obtain ⟨hf, hq⟩ := hat
    exact holds_txThrows hsame hf hq (.fault (hF hfault) rfl)
  | select q totalAmount hpc =>
    rw [hpc] at hat
    obtain ⟨hf, hq⟩ := hat
    have hnodup := Table.nodup_map_filter h.ledger.nodup_seatIds
      (Inventory.bookable q.input.tripId q.input.seatIds q.userId)
    exact holds_goto hsame hf ⟨hf.goto _, hq, ⟨List.nodup_nil, by simp, by simp⟩, by
      rw [List.append_nil]
      exact hnodup⟩
  | lockFault q totalAmount todo got hpc hfault =>
    rw [hpc] at hat
    obtain ⟨hf, hq, -, -⟩ := hat
    exact holds_txThrows hsame hf.unlock hq (.fault (hF hfault) rfl)
  | lock q totalAmount y todo got hpc hfree hmem =>
    rw [hpc] at hat
    obtain ⟨hf, hq, hg, hnodup⟩ := hat
    exact holds_locking hsame hf hq hg hnodup hmem
  | skip q totalAmount y todo got hpc =>
    rw [hpc] at hat
    obtain ⟨hf, hq, hg, hnodup⟩ := hat
    exact holds_goto hsame hf ⟨hf.goto _, hq, hg, (List.nodup_cons.mp hnodup).2⟩
  | locked q totalAmount got hpc =>
    rw [hpc] at hat
    obtain ⟨hf, hq, hg, -⟩ := hat
    exact holds_goto hsame hf ⟨hf.goto _, hq, hg⟩
  | bookFault q totalAmount got hpc hfault =>
    rw [hpc] at hat
    obtain ⟨hf, hq, -⟩ := hat
    exact holds_txThrows hsame hf.unlock hq (.fault (hF hfault) rfl)
  | short q totalAmount got hpc =>
    rw [hpc] at hat
    obtain ⟨hf, hq, -⟩ := hat
    exact holds_txThrows hsame hf.unlock hq (.conflict rfl)
  | refused q totalAmount got e hpc hlen hfresh herr =>
    rw [hpc] at hat
    obtain ⟨hf, hq, hg⟩ := hat
    have hr : Refusal F Same l.charge r.db.users e := refusal_of_error h hq hg hlen hfresh herr
    exact holds_txThrows hsame hf.unlock hq hr
  | commit q totalAmount got booking db hpc hfault hlen hfresh hok =>
    exact holds_commit h hl hpc hlen hok
  | recheckFault q e hpc hfault =>
    rw [hpc] at hat
    obtain ⟨hwon, hissues, -, -, -⟩ := hat
    exact holds_confirmThrows hsame hl.rolledBack hwon hissues q fun _ _ _ => Or.inr (hF hfault)
  | raced q e booking hpc hfind =>
    rw [hpc] at hat
    obtain ⟨-, hissues, hq, -, -⟩ := hat
    rw [hq.reference] at hfind
    exact holds_returned hsame hl.rolledBack hissues (found_of_find hfind)
  | conflict q e hpc hnone =>
    rw [hpc] at hat
    obtain ⟨hwon, hissues, -, -, hconf⟩ := hat
    exact holds_confirmThrows hsame hl.rolledBack hwon hissues q fun _ _ _ => Or.inl hconf
  | notify q totalAmount booking hpc =>
    rw [hpc] at hat
    obtain ⟨-, -, hissues, -, hf⟩ := hat
    exact holds_returned (r := r.emit _) hsame hl.rolledBack hissues hf

/-! ## The outline -/

/-- The runs in which statements fail only if `F` and every charge satisfies `Same`. -/
def Delivers (F : Prop) (Same : Charge → Prop) : Act Charge SettleInput Attempt → Prop
  | .spawn d => Same d
  | .run _ x => x.fault = true → F
  | .env _ => True

/-- A delivery starts with nothing done. -/
theorem holds_start {d : Charge} (hd : Same d) (hwon : NotWon i r) :
    Holds F Same i (Settling.start d) r := by
  have hf : ∀ pc, Fresh i ⟨d, pc, [], none⟩ r := fun pc => ⟨hwon, rfl, rfl⟩
  unfold Settling.start
  cases d.caller with
  | none => exact ⟨hd, (hf _).rolled, hf _⟩
  | some caller => exact ⟨hd, (hf _).rolled, hf _⟩

/-- **The proof outline of booking deliveries.**  Only deliveries that exist have won. -/
theorem payOutline (F : Prop) (Same : Charge → Prop) :
    payMachine.Outline (Delivers F Same)
      (fun r => ∃ users, r = ⟨⟨users, [], [], [], [], []⟩, [], [], []⟩)
      (fun n r => PayInv Same r ∧ ∀ w ∈ r.winners, w.1 < n) (Holds F Same) where
  init := by
    rintro _ ⟨users, rfl⟩
    exact ⟨PayInv.empty users, fun w hw => absurd hw (by simp)⟩
  spawn n d r _ hG := ⟨hG.1, fun w hw => Nat.lt_succ_of_lt (hG.2 w hw)⟩
  start n d r hd hG := holds_start hd fun w hw => Nat.ne_of_lt (hG.2 w hw)
  shared n i x l r l' r' _ hi hG hL hs := by
    have heff := (Settling.step_effect hs).2
    refine ⟨hG.1.effect hL heff, ?_⟩
    intro w hw
    cases heff with
    | none => exact hG.2 w hw
    | lock => exact hG.2 w hw
    | unlock => exact hG.2 w hw
    | commit =>
      rcases List.mem_cons.mp hw with rfl | hw
      · exact hi
      · exact hG.2 w hw
    | emit => exact hG.2 w hw
  self n i x l r l' r' ha _ hG hL hs := holds_step hG.1 hL ha hs
  other n i x l r l' r' j m _ _ hne hG hL hm hs :=
    (rely_of_effect hG.1 hL (Settling.step_effect hs).2 hne).holds hm
  env_shared n a r r' _ hG hs := ⟨hG.1.env hs, by
    obtain ⟨-, rfl, -⟩ := env_some hs
    exact hG.2⟩
  env_other n a r r' j m _ hG hm hs := (rely_of_env hG.1 hs j).holds hm

end TransHub
