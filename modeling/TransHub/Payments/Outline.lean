import TransHub.Payments.Settle

/-!
# The proof outline of booking deliveries

What every interleaving of deliveries and ledger operations keeps.

* `SettleMove`: the ways a step of a delivery can go; `step_move`.
* `Effect`: the five things a step can do to the shared state; `step_effect`.
* `PayInv`: the assertion on the shared state --- the ledger invariant, one lock for a
  row, one delivery that won each reference, one emission for each.
* `Holds`: the assertion on a delivery, for each place it can stand at.
* `Rely`: what a delivery may count on while others move; `Holds.rely`.
* `payOutline`: the outline, for any class of runs given by whether statements may
  fail (`F`) and which charges are delivered (`Same`).
-/

namespace TransHub

open Bookings (BookingDTO ConfirmInput Uuids)

/-! ## What a step does -/

/-- A place before the call of `confirm`. -/
def SettlePc.early : SettlePc → Bool
  | verify _ | settle | price _ _ _ => true
  | _ => false

/-- What a step of delivery `i` in the local state `l` does, one case for each way it can go. -/
inductive SettleMove (i : ℕ) (l : Settling) (r : PayDB) (x : SettleInput) :
    Settling → PayDB → Prop where
  | fault (hpc : l.pc.early = true) :
      SettleMove i l r x (l.finish (.thrown Settling.dbFailed)) r
  | forbidden (caller : UserId) (hpc : l.pc = .verify caller) :
      SettleMove i l r x (l.finish (.thrown (.app .forbiddenError))) r
  | settled (booking : BookingDTO) (hpc : l.pc.early = true)
      (hfind : Bookings.findByPaymentRef l.charge.reference r.db = some booking) :
      SettleMove i l r x (l.finish (.returned booking)) r
  | checkCaller (caller : UserId) (hpc : l.pc = .verify caller) :
      SettleMove i l r x (l.checkCaller caller) r
  | checkMeta (hpc : l.pc = .settle) : SettleMove i l r x l.checkMeta r
  | checkAmount (tripId : TripId) (seatIds : List SeatId) (userId : UserId)
      (hpc : l.pc = .price tripId seatIds userId) :
      SettleMove i l r x (l.checkAmount tripId seatIds userId x.passengers
        (Bookings.findTripPrice tripId r.db)) r
  | throws (q : ConfirmCall) (e : Thrown) (hpc : l.pc = .confirm q ∨ l.pc = .confirmPrice q)
      (he : e.isConflictError = false) : SettleMove i l r x (l.confirmThrows q e) r
  | present (q : ConfirmCall) (booking : BookingDTO) (hpc : l.pc = .confirm q)
      (hfind : Bookings.findByPaymentRef q.input.paymentRef r.db = some booking) :
      SettleMove i l r x (l.finish (.returned booking)) r
  | absent (q : ConfirmCall) (hpc : l.pc = .confirm q) :
      SettleMove i l r x (l.goto (.confirmPrice q)) r
  | priced (q : ConfirmCall) (price : ℤ) (hpc : l.pc = .confirmPrice q)
      (hprice : Bookings.findTripPrice q.input.tripId r.db = some price) :
      SettleMove i l r x (l.goto (.select q (q.input.seatIds.length * price))) r
  | selectFault (q : ConfirmCall) (totalAmount : ℤ) (hpc : l.pc = .select q totalAmount)
      (hfault : x.fault = true) : SettleMove i l r x (l.txThrows q Settling.dbFailed) r
  | select (q : ConfirmCall) (totalAmount : ℤ) (hpc : l.pc = .select q totalAmount) :
      SettleMove i l r x (l.goto (.locking q totalAmount
        (Inventory.lockRows q.input.tripId q.input.seatIds q.userId r.db.seats) [])) r
  | lockFault (q : ConfirmCall) (totalAmount : ℤ) (todo got : List SeatId)
      (hpc : l.pc = .locking q totalAmount todo got) (hfault : x.fault = true) :
      SettleMove i l r x (l.txThrows q Settling.dbFailed) (r.unlock i)
  | lock (q : ConfirmCall) (totalAmount : ℤ) (y : SeatId) (todo got : List SeatId)
      (hpc : l.pc = .locking q totalAmount (y :: todo) got)
      (hfree : r.lockedByOther i y = false)
      (hmem : (Inventory.lockRows q.input.tripId q.input.seatIds q.userId
        r.db.seats).contains y = true) :
      SettleMove i l r x (l.goto (.locking q totalAmount todo (y :: got))) (r.lock i y)
  | skip (q : ConfirmCall) (totalAmount : ℤ) (y : SeatId) (todo got : List SeatId)
      (hpc : l.pc = .locking q totalAmount (y :: todo) got) :
      SettleMove i l r x (l.goto (.locking q totalAmount todo got)) r
  | locked (q : ConfirmCall) (totalAmount : ℤ) (got : List SeatId)
      (hpc : l.pc = .locking q totalAmount [] got) :
      SettleMove i l r x (l.goto (.book q totalAmount got)) r
  | bookFault (q : ConfirmCall) (totalAmount : ℤ) (got : List SeatId)
      (hpc : l.pc = .book q totalAmount got) (hfault : x.fault = true) :
      SettleMove i l r x (l.txThrows q Settling.dbFailed) (r.unlock i)
  | short (q : ConfirmCall) (totalAmount : ℤ) (got : List SeatId)
      (hpc : l.pc = .book q totalAmount got) :
      SettleMove i l r x (l.txThrows q Settling.seatsGone) (r.unlock i)
  | refused (q : ConfirmCall) (totalAmount : ℤ) (got : List SeatId) (e : Thrown)
      (hpc : l.pc = .book q totalAmount got) (hlen : q.input.seatIds.length ≤ got.length)
      (hfresh : freshUuids x.uuids q r.db = true)
      (herr : Bookings.createBookingRecord x.uuids q.input.tripId q.input.seatIds
        ⟨q.userId, totalAmount, q.input.paymentRef, q.input.passengers⟩
        { r.db with seats := Inventory.markBooked q.input.seatIds r.db.seats } = .error e) :
      SettleMove i l r x (l.txThrows q e) (r.unlock i)
  | commit (q : ConfirmCall) (totalAmount : ℤ) (got : List SeatId) (booking : BookingDTO)
      (db : DB) (hpc : l.pc = .book q totalAmount got) (hfault : x.fault = false)
      (hlen : q.input.seatIds.length ≤ got.length) (hfresh : freshUuids x.uuids q r.db = true)
      (hok : Bookings.createBookingRecord x.uuids q.input.tripId q.input.seatIds
        ⟨q.userId, totalAmount, q.input.paymentRef, q.input.passengers⟩
        { r.db with seats := Inventory.markBooked q.input.seatIds r.db.seats }
          = .ok (booking, db)) :
      SettleMove i l r x (l.goto (.notify q totalAmount booking)) ((r.won i l.charge db).unlock i)
  | recheckFault (q : ConfirmCall) (e : Thrown) (hpc : l.pc = .recheck q e)
      (hfault : x.fault = true) : SettleMove i l r x (l.confirmThrows q Settling.dbFailed) r
  | raced (q : ConfirmCall) (e : Thrown) (booking : BookingDTO) (hpc : l.pc = .recheck q e)
      (hfind : Bookings.findByPaymentRef q.input.paymentRef r.db = some booking) :
      SettleMove i l r x (l.finish (.returned booking)) r
  | conflict (q : ConfirmCall) (e : Thrown) (hpc : l.pc = .recheck q e)
      (hnone : Bookings.findByPaymentRef q.input.paymentRef r.db = none) :
      SettleMove i l r x (l.confirmThrows q e) r
  | notify (q : ConfirmCall) (totalAmount : ℤ) (booking : BookingDTO)
      (hpc : l.pc = .notify q totalAmount booking) :
      SettleMove i l r x (l.finish (.returned booking))
        (r.emit (Settling.emission i q totalAmount booking))

/-- **What a step does.** -/
theorem Settling.step_move {i : ℕ} {l l' : Settling} {r r' : PayDB} {x : SettleInput}
    (h : step i l r x = some (l', r')) : SettleMove i l r x l' r' := by
  unfold step at h
  cases hpc : l.pc with
  | done o => simp [hpc] at h
  | verify caller =>
    have hearly : l.pc.early = true := by rw [hpc]; rfl
    simp only [hpc] at h
    split at h
    · cases h
      exact .fault hearly
    · split at h
      · next hfind =>
        split at h <;> cases h
        · exact .forbidden caller hpc
        · exact .settled _ hearly hfind
      · cases h
        exact .checkCaller caller hpc
  | settle =>
    have hearly : l.pc.early = true := by rw [hpc]; rfl
    simp only [hpc] at h
    split at h
    · cases h
      exact .fault hearly
    · split at h <;> cases h
      · next hfind => exact .settled _ hearly hfind
      · exact .checkMeta hpc
  | price tripId seatIds userId =>
    simp only [hpc] at h
    split at h <;> cases h
    · exact .fault (by rw [hpc]; rfl)
    · exact .checkAmount tripId seatIds userId hpc
  | confirm q =>
    simp only [hpc] at h
    split at h
    · cases h
      exact .throws q _ (Or.inl hpc) rfl
    · split at h <;> cases h
      · next hfind => exact .present q _ hpc hfind
      · exact .absent q hpc
  | confirmPrice q =>
    simp only [hpc] at h
    split at h
    · cases h
      exact .throws q _ (Or.inr hpc) rfl
    · split at h <;> cases h
      · exact .throws q _ (Or.inr hpc) rfl
      · next hprice => exact .priced q _ hpc hprice
  | select q totalAmount =>
    simp only [hpc] at h
    split at h <;> cases h
    · next hfault => exact .selectFault q totalAmount hpc hfault
    · exact .select q totalAmount hpc
  | locking q totalAmount todo got =>
    simp only [hpc] at h
    split at h
    · next hfault =>
      cases h
      exact .lockFault q totalAmount todo got hpc hfault
    · cases todo with
      | nil =>
        cases h
        exact .locked q totalAmount got hpc
      | cons y todo =>
        dsimp only at h
        split at h
        · exact absurd h (by simp)
        · next hfree =>
          split at h <;> cases h
          · next hmem => exact .lock q totalAmount y todo got hpc (by simpa using hfree) hmem
          · exact .skip q totalAmount y todo got hpc
  | book q totalAmount got =>
    simp only [hpc] at h
    split at h
    · next hfault =>
      cases h
      exact .bookFault q totalAmount got hpc hfault
    · next hfault =>
      split at h
      · cases h
        exact .short q totalAmount got hpc
      · next hlen =>
        have hlen := Nat.le_of_not_lt hlen
        split at h
        · next hfresh =>
          split at h <;> cases h
          · next herr => exact .refused q totalAmount got _ hpc hlen hfresh herr
          · next hok =>
            exact .commit q totalAmount got _ _ hpc (Bool.eq_false_iff.mpr hfault) hlen hfresh hok
        · exact absurd h (by simp)
  | recheck q e =>
    simp only [hpc] at h
    split at h
    · next hfault =>
      cases h
      exact .recheckFault q e hpc hfault
    · split at h <;> cases h
      · next hfind => exact .raced q e _ hpc hfind
      · next hnone => exact .conflict q e hpc hnone
  | notify q totalAmount booking =>
    simp only [hpc] at h
    cases h
    exact .notify q totalAmount booking hpc

/-! ## What a step does to the shared state -/

/-- The effects of the steps of delivery `i` in the local state `l`. -/
inductive Effect (i : ℕ) (l : Settling) (r : PayDB) : PayDB → Prop where
  | none : Effect i l r r
  | lock (x : SeatId) (h : r.lockedByOther i x = false) : Effect i l r (r.lock i x)
  | unlock : Effect i l r (r.unlock i)
  | commit (uuids : Uuids) (q : ConfirmCall) (totalAmount : ℤ) (got : List SeatId)
      (booking : BookingDTO) (db : DB) (hpc : l.pc = .book q totalAmount got)
      (hlen : q.input.seatIds.length ≤ got.length)
      (h : Bookings.createBookingRecord uuids q.input.tripId q.input.seatIds
        ⟨q.userId, totalAmount, q.input.paymentRef, q.input.passengers⟩
        { r.db with seats := Inventory.markBooked q.input.seatIds r.db.seats }
          = .ok (booking, db)) :
      Effect i l r ((r.won i l.charge db).unlock i)
  | emit (q : ConfirmCall) (totalAmount : ℤ) (booking : BookingDTO)
      (hpc : l.pc = .notify q totalAmount booking) :
      Effect i l r (r.emit (Settling.emission i q totalAmount booking))

namespace Settling

variable {i : ℕ} {l l' : Settling} {r r' : PayDB} {x : SettleInput}

@[simp] theorem goto_charge (l : Settling) (pc : SettlePc) : (l.goto pc).charge = l.charge := rfl
@[simp] theorem finish_charge (l : Settling) (o : SettleOutcome) :
    (l.finish o).charge = l.charge := rfl

@[simp] theorem fail_charge (l : Settling) (issue : PaymentIssue) (reason : String)
    (code : SettleCode) : (l.fail issue reason code).charge = l.charge := rfl

@[simp] theorem confirmThrows_charge (l : Settling) (q : ConfirmCall) (e : Thrown) :
    (l.confirmThrows q e).charge = l.charge := by
  unfold confirmThrows
  split <;> rfl

@[simp] theorem txThrows_charge (l : Settling) (q : ConfirmCall) (e : Thrown) :
    (l.txThrows q e).charge = l.charge := by
  unfold txThrows
  split
  · rfl
  · rw [confirmThrows_charge]

@[simp] theorem checkAmount_charge (l : Settling) (tripId : TripId) (seatIds : List SeatId)
    (userId : UserId) (passengers : Option (List PassengerInfoInput)) (price : Option ℤ) :
    (l.checkAmount tripId seatIds userId passengers price).charge = l.charge := by
  unfold checkAmount
  split
  · rfl
  · dsimp only
    split <;> rfl

@[simp] theorem checkMeta_charge (l : Settling) : l.checkMeta.charge = l.charge := by
  unfold checkMeta
  split <;> rfl

@[simp] theorem checkCaller_charge (l : Settling) (caller : UserId) :
    (l.checkCaller caller).charge = l.charge := by
  unfold checkCaller
  split <;> rfl

/-- **What a step does to the shared state.** -/
theorem step_effect (h : step i l r x = some (l', r')) :
    l'.charge = l.charge ∧ Effect i l r r' := by
  cases step_move h with
  | lock q totalAmount y todo got hpc hfree => exact ⟨rfl, .lock y hfree⟩
  | lockFault | bookFault | short | refused => exact ⟨txThrows_charge _ _ _, .unlock⟩
  | commit q totalAmount got booking db hpc hfault hlen hfresh hok =>
    exact ⟨rfl, .commit _ _ _ _ _ _ hpc hlen hok⟩
  | notify q totalAmount booking hpc => exact ⟨rfl, .emit _ _ _ hpc⟩
  | _ => exact ⟨by simp, .none⟩

end Settling

/-! ## Locks -/

namespace PayDB

theorem lockedByOther_eq_false {r : PayDB} {i : ℕ} {x : SeatId} :
    r.lockedByOther i x = false ↔ ∀ j, (x, j) ∈ r.locks → j = i := by
  rw [lockedByOther, List.any_eq_false]
  constructor
  · intro h j hj
    simpa using h (x, j) hj
  · rintro h ⟨y, j⟩ hj
    simp only [Bool.and_eq_true, beq_iff_eq, bne_iff_ne, not_and, not_not]
    rintro rfl
    exact h j hj

theorem mem_unlock {r : PayDB} {i j : ℕ} {x : SeatId} :
    (x, j) ∈ (r.unlock i).locks ↔ (x, j) ∈ r.locks ∧ j ≠ i := by
  simp [unlock]

theorem mem_lock {r : PayDB} {i j : ℕ} {x y : SeatId} :
    (x, j) ∈ (r.lock i y).locks ↔ (x = y ∧ j = i) ∨ (x, j) ∈ r.locks := by
  simp [lock]

end PayDB

/-! ## The assertion on the shared state -/

/-- The rows of a booking cover the seats of the charge it was made for. -/
def Sold (db : DB) (d : Charge) : Prop :=
  ∃ b ∈ db.bookings, b.paymentRef = some d.reference ∧
    ∀ x ∈ d.seatIds, ∃ row ∈ db.bookedSeats, row.seatId = x ∧ row.bookingId = b.id

theorem Sold.keeps {db db' : DB} {d : Charge} (h : Sold db d) (hk : Keeps db db') :
    Sold db' d := by
  obtain ⟨b, hb, href, hrows⟩ := h
  refine ⟨b, hk.booking b hb, href, ?_⟩
  intro x hx
  obtain ⟨row, hrow, hid, hbid⟩ := hrows x hx
  have hmem : row ∈ db'.bookedSeats.filter fun r => r.bookingId == b.id := by
    rw [hk.rows b hb]
    exact List.mem_filter.mpr ⟨hrow, by simpa using hbid⟩
  exact ⟨row, (List.mem_filter.mp hmem).1, hid, hbid⟩

/-- The assertion on the shared state; `Same` holds of every charge delivered. -/
structure PayInv (Same : Charge → Prop) (r : PayDB) : Prop where
  ledger : LedgerInv r.db
  locks : ∀ x i j, (x, i) ∈ r.locks → (x, j) ∈ r.locks → i = j
  same : ∀ w ∈ r.winners, Same w.2
  sold : ∀ w ∈ r.winners, Sold r.db w.2
  won : ∀ b ∈ r.db.bookings, ∃ w ∈ r.winners, b.paymentRef = some w.2.reference
  once : ∀ w ∈ r.winners, ∀ w' ∈ r.winners, w.2.reference = w'.2.reference → w = w'
  announced : ∀ e ∈ r.emitted, ∃ w ∈ r.winners,
    w.1 = e.byDelivery ∧ w.2.reference = e.confirmed.paymentRef
  emitted_once : (r.emitted.map fun e => e.confirmed.paymentRef).Nodup

/-! ## The assertion on a delivery -/

/-- The call of `confirm` that the charge leads to. -/
structure CallOf (d : Charge) (q : ConfirmCall) : Prop where
  reference : q.input.paymentRef = d.reference
  seatIds : q.input.seatIds = d.seatIds
  nonempty : q.input.seatIds ≠ []
  userId : d.metadata.bind ChargeMetadata.userId = some q.userId
  tripId : d.metadata.bind ChargeMetadata.tripId = some q.input.tripId

/-- A row that the transaction of delivery `i` may book. -/
def Bookable (q : ConfirmCall) (db : DB) (x : SeatId) : Prop :=
  x ∈ Inventory.lockRows q.input.tripId q.input.seatIds q.userId db.seats

/-- The rows that the transaction of delivery `i` has taken. -/
structure Got (i : ℕ) (q : ConfirmCall) (r : PayDB) (got : List SeatId) : Prop where
  nodup : got.Nodup
  locked : ∀ x ∈ got, (x, i) ∈ r.locks
  bookable : ∀ x ∈ got, Bookable q r.db x

/-- Delivery `i` has committed nothing. -/
def NotWon (i : ℕ) (r : PayDB) : Prop := ∀ w ∈ r.winners, w.1 ≠ i

/-- The booking is the stored one of the charge, as it reads now. -/
def Found (d : Charge) (r : PayDB) (booking : BookingDTO) : Prop :=
  ∃ b ∈ r.db.bookings, b.paymentRef = some d.reference ∧ booking = Bookings.toDTO r.db b

/-- Why a transaction may be rolled back: the seats are gone, a statement failed, or
the row of the booking itself was refused. -/
inductive Refusal (F : Prop) (Same : Charge → Prop) (d : Charge) (users : List UserId)
    (e : Thrown) : Prop where
  | conflict (h : e.isConflictError = true)
  | fault (h : F) (he : e = Settling.dbFailed)
  | amount (he : e = .db .valueOutOfRange)
  | user (u : UserId) (hu : d.metadata.bind ChargeMetadata.userId = some u) (h : u ∉ users)
  | other (d' : Charge) (h : Same d') (href : d'.reference = d.reference)
      (hne : d'.seatIds ≠ d.seatIds)

/-- Nothing reported and no transaction rolled back. -/
structure Fresh (i : ℕ) (l : Settling) (r : PayDB) : Prop where
  notWon : NotWon i r
  issues : l.issues = []
  rolledBack : l.rolledBack = none

/-- How a delivery ends. -/
inductive Ended (F : Prop) (i : ℕ) (l : Settling) (r : PayDB) : SettleOutcome → Prop where
  | returned (booking : BookingDTO) (hissues : l.issues = []) (h : Found l.charge r booking) :
      Ended F i l r (.returned booking)
  | failed (reason : String) (code : SettleCode) (issue : PaymentIssue) (hwon : NotWon i r)
      (hissues : l.issues = [issue]) (href : issue.reference = some l.charge.reference)
      (hcode : issue.context.code = some code.text)
      (hrolled : ∀ e, l.rolledBack = some e → code = .seatsGone) :
      Ended F i l r (.failed reason code)
  | thrown (e : Thrown) (hwon : NotWon i r)
      (hissues : l.issues = [] ∨ ∃ issue, l.issues = [issue] ∧
        issue.reference = some l.charge.reference ∧ issue.error = some e)
      (hrolled : ∀ e', l.rolledBack = some e' → e'.isConflictError = true → F) :
      Ended F i l r (.thrown e)

/-- What holds at each place a delivery can stand at. -/
def At (F : Prop) (i : ℕ) (l : Settling) (r : PayDB) : Prop :=
  match l.pc with
  | .verify _ | .settle => Fresh i l r
  | .price tripId seatIds userId => Fresh i l r ∧ seatIds = l.charge.seatIds ∧ seatIds ≠ [] ∧
      l.charge.metadata.bind ChargeMetadata.userId = some userId ∧
      l.charge.metadata.bind ChargeMetadata.tripId = some tripId
  | .confirm q | .confirmPrice q | .select q _ => Fresh i l r ∧ CallOf l.charge q
  | .locking q _ todo got =>
      Fresh i l r ∧ CallOf l.charge q ∧ Got i q r got ∧ (todo ++ got).Nodup
  | .book q _ got => Fresh i l r ∧ CallOf l.charge q ∧ Got i q r got
  | .recheck q e => NotWon i r ∧ l.issues = [] ∧ CallOf l.charge q ∧
      l.rolledBack = some e ∧ e.isConflictError = true
  | .notify q _ booking => (i, l.charge) ∈ r.winners ∧ (∀ e ∈ r.emitted, e.byDelivery ≠ i) ∧
      l.issues = [] ∧ CallOf l.charge q ∧ Found l.charge r booking
  | .done o => Ended F i l r o

/-- The assertion on a delivery. -/
structure Holds (F : Prop) (Same : Charge → Prop) (i : ℕ) (l : Settling) (r : PayDB) :
    Prop where
  same : Same l.charge
  rolledBack : ∀ e, l.rolledBack = some e → Refusal F Same l.charge r.db.users e
  at_pc : At F i l r

/-! ## Relying on others -/

/-- What delivery `j` may count on while the shared state goes from `r` to `r'`. -/
structure Rely (j : ℕ) (r r' : PayDB) : Prop where
  keeps : Keeps r.db r'.db
  users : r'.db.users = r.db.users
  ledger : LedgerInv r.db
  ledger' : LedgerInv r'.db
  locks : ∀ x, (x, j) ∈ r.locks → (x, j) ∈ r'.locks
  rows : ∀ s ∈ r.db.seats, (s.id, j) ∈ r.locks → s ∈ r'.db.seats
  winners : ∀ w ∈ r.winners, w ∈ r'.winners
  winners_new : ∀ w ∈ r'.winners, w ∈ r.winners ∨ w.1 ≠ j
  emitted_new : ∀ e ∈ r'.emitted, e ∈ r.emitted ∨ e.byDelivery ≠ j

namespace Rely

variable {j : ℕ} {r r' : PayDB}

theorem notWon (h : Rely j r r') (hn : NotWon j r) : NotWon j r' := fun w hw =>
  (h.winners_new w hw).elim (hn w) id

theorem found (h : Rely j r r') {d : Charge} {booking : BookingDTO} (hf : Found d r booking) :
    Found d r' booking := by
  obtain ⟨b, hb, href, rfl⟩ := hf
  exact ⟨b, h.keeps.booking b hb, href, (h.keeps.toDTO h.ledger h.ledger' hb).symm⟩

theorem got (h : Rely j r r') {q : ConfirmCall} {got : List SeatId} (hg : Got j q r got) :
    Got j q r' got where
  nodup := hg.nodup
  locked x hx := h.locks x (hg.locked x hx)
  bookable x hx := by
    obtain ⟨s, hs, hid, hrest⟩ := Inventory.mem_lockRows.mp (hg.bookable x hx)
    exact Inventory.mem_lockRows.mpr
      ⟨s, h.rows s hs (by rw [hid]; exact hg.locked x hx), hid, hrest⟩

theorem fresh (h : Rely j r r') {l : Settling} (hf : Fresh j l r) : Fresh j l r' :=
  ⟨h.notWon hf.notWon, hf.issues, hf.rolledBack⟩

theorem ended (h : Rely j r r') {F : Prop} {l : Settling} {o : SettleOutcome}
    (he : Ended F j l r o) : Ended F j l r' o := by
  cases he with
  | returned booking hissues hf => exact .returned booking hissues (h.found hf)
  | failed reason code issue hwon hissues href hcode hrolled =>
    exact .failed reason code issue (h.notWon hwon) hissues href hcode hrolled
  | thrown e hwon hissues hrolled => exact .thrown e (h.notWon hwon) hissues hrolled

/-- **What a delivery asserts survives the moves of the others.** -/
theorem holds (h : Rely j r r') {F : Prop} {Same : Charge → Prop} {l : Settling}
    (hl : Holds F Same j l r) : Holds F Same j l r' := by
  refine ⟨hl.same, fun e he => by rw [h.users]; exact hl.rolledBack e he, ?_⟩
  have hat := hl.at_pc
  unfold At at hat ⊢
  cases hpc : l.pc with
  | verify caller =>
    rw [hpc] at hat
    exact h.fresh hat
  | settle =>
    rw [hpc] at hat
    exact h.fresh hat
  | price tripId seatIds userId =>
    rw [hpc] at hat
    exact ⟨h.fresh hat.1, hat.2⟩
  | confirm q =>
    rw [hpc] at hat
    exact ⟨h.fresh hat.1, hat.2⟩
  | confirmPrice q =>
    rw [hpc] at hat
    exact ⟨h.fresh hat.1, hat.2⟩
  | select q totalAmount =>
    rw [hpc] at hat
    exact ⟨h.fresh hat.1, hat.2⟩
  | locking q totalAmount todo got =>
    rw [hpc] at hat
    obtain ⟨hf, hq, hg, hn⟩ := hat
    exact ⟨h.fresh hf, hq, h.got hg, hn⟩
  | book q totalAmount got =>
    rw [hpc] at hat
    obtain ⟨hf, hq, hg⟩ := hat
    exact ⟨h.fresh hf, hq, h.got hg⟩
  | recheck q e =>
    rw [hpc] at hat
    exact ⟨h.notWon hat.1, hat.2⟩
  | notify q totalAmount booking =>
    rw [hpc] at hat
    obtain ⟨hwon, hem, hissues, hq, hf⟩ := hat
    exact ⟨h.winners _ hwon, fun e he => (h.emitted_new e he).elim (hem e) id, hissues, hq,
      h.found hf⟩
  | done o =>
    rw [hpc] at hat
    exact h.ended hat

end Rely

end TransHub
