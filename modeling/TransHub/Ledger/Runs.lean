import TransHub.Ledger.Refinement
import TransHub.Foundation.System

/-!
# Runs of the ledger

Each operation of the inventory, bookings and trips modules that writes the ledger
is one transaction: it commits all of its writes or, when it throws or is aborted,
none.

* `LedgerOp`, `exec`: the operations with all their arguments, and what each of
  them commits.  `exec_writes` gives the writes of an operation.
* `ledger`: runs of attempts from empty tables.
* `seat_ledger_invariant`: what holds in every state such a run reaches.
-/

namespace TransHub

/-- The operations, each with the arguments of its call, the clock it reads, the
ids it is given, and the rows that other open transactions have locked. -/
inductive LedgerOp where
  | createTrip (tripUuid : TripId) (seatUuid : ℕ → SeatId) (data : TripData)
      (operatorId : OperatorId)
  | deleteTrip (id : TripId) (operatorId : OperatorId)
  | toggleActive (id : TripId) (operatorId : OperatorId) (isActive : Bool)
  | markFull (id : TripId) (operatorId : Option OperatorId) (role : Role) (isFull : Bool)
      (driverId : Option DriverId)
  | setOfflineCount (id : TripId) (operatorId : Option OperatorId) (role : Role)
      (offlineCount : ℕ) (driverId : Option DriverId)
  | holdSeats (locked : SeatId → Bool) (tripId : TripId) (quantity : ℕ) (userId : UserId)
      (now : Time)
  | hold (locked : SeatId → Bool) (input : Bookings.HoldInput) (userId : UserId) (now : Time)
  | confirm (uuids : Bookings.Uuids) (input : Bookings.ConfirmInput) (userId : UserId)
      (totalAmount : ℤ)
  | releaseSpecificHold (seatIds : List SeatId) (tripId : TripId) (userId : UserId)
  | sweepExpiredHolds (now : Time)

/-- The tables after an operation, or what it throws. -/
def exec : LedgerOp → DB → Except Thrown DB
  | .createTrip tripUuid seatUuid data operatorId, db =>
      Trips.create tripUuid seatUuid data operatorId db
  | .deleteTrip id operatorId, db => Trips.delete id operatorId db
  | .toggleActive id operatorId isActive, db => Trips.toggleActive id operatorId isActive db
  | .markFull id operatorId role isFull driverId, db =>
      Trips.markFull id operatorId role isFull driverId db
  | .setOfflineCount id operatorId role offlineCount driverId, db =>
      Trips.setOfflineCount id operatorId role offlineCount driverId db
  | .holdSeats locked tripId quantity userId now, db =>
      (Bookings.holdSeats locked tripId quantity userId now db).map Prod.snd
  | .hold locked input userId now, db => (Bookings.hold locked input userId now db).map Prod.snd
  | .confirm uuids input userId totalAmount, db =>
      (Bookings.confirmTx uuids input userId totalAmount db).map Prod.snd
  | .releaseSpecificHold seatIds tripId userId, db =>
      .ok { db with seats := (Inventory.releaseSpecificHold seatIds tripId userId db.seats).1 }
  | .sweepExpiredHolds now, db =>
      .ok { db with seats := (Inventory.sweepExpiredHolds now db.seats).1 }

/-- An operation, and whether the database aborts it midway. -/
structure Attempt where
  op : LedgerOp
  aborted : Bool

/-- The committed tables after an attempt: an exception rolls everything back. -/
def commit (db : DB) (a : Attempt) : DB :=
  if a.aborted then db
  else match exec a.op db with
    | .ok db' => db'
    | .error _ => db

/-- Runs of attempts that start with no trip. -/
def ledger : System DB Attempt where
  init db := ∃ users, db = ⟨users, [], [], [], [], []⟩
  step db a := some (commit db a)

/-! ## The writes of an operation -/

theorem map_snd_eq_ok {α β : Type} {x : Except Thrown (α × β)} {b : β} :
    x.map Prod.snd = .ok b ↔ ∃ a, x = .ok (a, b) := by
  cases x with
  | error e => simp [Except.map]
  | ok p =>
    obtain ⟨a, b'⟩ := p
    simp [Except.map]

/-- A hold is a release and a claim. -/
theorem holdSeats_writes {locked : SeatId → Bool} {tripId : TripId} {quantity : ℕ}
    {userId : UserId} {now : Time} {db db' : DB} {r : Bookings.Held}
    (h : Bookings.holdSeats locked tripId quantity userId now db = .ok (r, db')) :
    Writes db db' := by
  obtain ⟨ids, -, -, rfl, rfl⟩ := Bookings.holdSeats_ok h
  have hfree : Write db { db with
      seats := Inventory.releaseUserHoldsForTrip tripId userId db.seats } :=
    .freeSeats _ fun s hs => (Inventory.heldByUser_iff.mp hs).2.1
  exact (Relation.ReflTransGen.single hfree).tail
    (.holdSeats locked tripId quantity userId (Bookings.expiresAt now))

/-- **Every operation writes the ledger only through `Write`.** -/
theorem exec_writes {op : LedgerOp} {db db' : DB} (h : exec op db = .ok db') :
    Writes db db' := by
  cases op with
  | createTrip tripUuid seatUuid data operatorId => exact .single (.createTrip h)
  | deleteTrip id operatorId => exact .single (.deleteTrip h)
  | toggleActive id operatorId isActive =>
    rw [Trips.editTrip_ok h]
    exact .single (.editTrips _ _ (fun _ => rfl) (fun _ => rfl) fun _ => rfl)
  | markFull id operatorId role isFull driverId =>
    rw [Trips.editTrip_ok h]
    exact .single (.editTrips _ _ (fun _ => rfl) (fun _ => rfl) fun _ => rfl)
  | setOfflineCount id operatorId role offlineCount driverId =>
    obtain ⟨autoFull, rfl⟩ := Trips.setOfflineCount_ok h
    exact .single (.editTrips _ _ (fun _ => rfl) (fun _ => rfl) fun _ => rfl)
  | holdSeats locked tripId quantity userId now =>
    obtain ⟨r, hr⟩ := map_snd_eq_ok.mp h
    exact holdSeats_writes hr
  | hold locked input userId now =>
    obtain ⟨r, hr⟩ := map_snd_eq_ok.mp h
    exact holdSeats_writes (Bookings.hold_ok.mp hr).2
  | confirm uuids input userId totalAmount =>
    obtain ⟨dto, hdto⟩ := map_snd_eq_ok.mp h
    exact .single (.confirm hdto)
  | releaseSpecificHold seatIds tripId userId =>
    cases h
    exact .single (.freeSeats _ fun s hs => (Inventory.specificHold_iff.mp hs).2.2.1)
  | sweepExpiredHolds now =>
    cases h
    exact .single (.freeSeats _ fun s hs => (Inventory.expired_iff.mp hs).1)

/-- Only a confirm writes `bookings`. -/
def LedgerOp.isConfirm : LedgerOp → Bool
  | .confirm .. => true
  | _ => false

theorem exec_bookings {op : LedgerOp} {db db' : DB} (h : exec op db = .ok db')
    (hop : op.isConfirm = false) : db'.bookings = db.bookings := by
  cases op with
  | createTrip tripUuid seatUuid data operatorId =>
    obtain ⟨-, -, -, -, -, hdb⟩ := Trips.create_ok h
    rw [hdb]
  | deleteTrip id operatorId =>
    obtain ⟨-, -, -, rfl⟩ := Trips.delete_ok h
    rfl
  | toggleActive id operatorId isActive => rw [Trips.editTrip_ok h]
  | markFull id operatorId role isFull driverId => rw [Trips.editTrip_ok h]
  | setOfflineCount id operatorId role offlineCount driverId =>
    obtain ⟨-, rfl⟩ := Trips.setOfflineCount_ok h
    rfl
  | holdSeats locked tripId quantity userId now =>
    obtain ⟨r, hr⟩ := map_snd_eq_ok.mp h
    obtain ⟨-, -, -, -, rfl⟩ := Bookings.holdSeats_ok hr
    rfl
  | hold locked input userId now =>
    obtain ⟨r, hr⟩ := map_snd_eq_ok.mp h
    obtain ⟨-, -, -, -, rfl⟩ := Bookings.holdSeats_ok (Bookings.hold_ok.mp hr).2
    rfl
  | confirm uuids input userId totalAmount => exact absurd hop (by simp [LedgerOp.isConfirm])
  | releaseSpecificHold seatIds tripId userId =>
    cases h
    rfl
  | sweepExpiredHolds now =>
    cases h
    rfl

theorem commit_bookings (db : DB) {a : Attempt} (hop : a.op.isConfirm = false) :
    (commit db a).bookings = db.bookings := by
  rw [commit]
  split
  · rfl
  · split
    · next h => exact exec_bookings h hop
    · rfl

/-- An attempt commits all of its writes or none. -/
theorem commit_writes (db : DB) (a : Attempt) : Writes db (commit db a) := by
  rw [commit]
  split
  · exact .refl
  · split
    · next h => exact exec_writes h
    · exact .refl

/-! ## Every run -/

/-- **The ledger invariant holds in every reachable state.** -/
theorem ledger_inv {db : DB} (h : ledger.Reachable db) : LedgerInv db := by
  refine h.invariant ?_ ?_
  · rintro _ ⟨users, rfl⟩
    exact LedgerInv.empty users
  · intro db a db' hinv hs
    cases hs
    exact (commit_writes db a).inv hinv

theorem ledger_writes {db db' : DB} (hl : ledger.Leads db db') (h : ledger.Reachable db) :
    Writes db db' :=
  hl.rel h (fun _ => .refl) (fun _ _ _ => .trans) fun r a _ _ hs => by
    cases hs
    exact commit_writes r a

/-- **A run of the ledger is a run of the reservation desk.** -/
theorem ledger_refines {db db' : DB} (hl : ledger.Leads db db') (h : ledger.Reachable db) :
    Allocation.Pool.Steps (pool db) (pool db') :=
  (ledger_writes hl h).refines (ledger_inv h)

/-- A booked seat stays booked, in the same booking. -/
theorem booked_forever {db db' : DB} (hl : ledger.Leads db db') (h : ledger.Reachable db)
    {s : Seat} {r : BookedSeat} (hs : s ∈ db.seats) (hr : r ∈ db.bookedSeats)
    (hid : r.seatId = s.id) :
    (∃ s' ∈ db'.seats, s'.id = s.id ∧ s'.status = .booked) ∧
      ∃ r' ∈ db'.bookedSeats, r'.seatId = s.id ∧ r'.bookingId = r.bookingId := by
  have hinv := ledger_inv h
  have hsold : pool db s.id = some (.sold r.bookingId) :=
    (pool_eq_sold hinv).mpr ⟨⟨s, hs, rfl, hinv.booked_of_row hs hr hid⟩, r, hr, hid, rfl⟩
  exact (pool_eq_sold (ledger_inv (h.leads hl))).mp ((ledger_refines hl h).sold_forever hsold)

/-- A trip with a booking cannot be deleted. -/
theorem delete_booked {db : DB} {b : Booking} (hb : b ∈ db.bookings) (operatorId : OperatorId) :
    ∃ e, Trips.delete b.tripId operatorId db = .error e := by
  cases hdel : Trips.delete b.tripId operatorId db with
  | error e => exact ⟨e, rfl⟩
  | ok db' => exact absurd rfl ((Trips.delete_ok hdel).2.1 b hb)

/-- Right after a sweep no held seat is past its expiry. -/
theorem swept {now : Time} {seats : List Seat} {s : Seat} {t : Time}
    (hs : s ∈ (Inventory.sweepExpiredHolds now seats).1) (hheld : s.status = .held)
    (ht : s.heldUntil = some t) : ¬ t < now := by
  intro hlt
  obtain ⟨s₀, hs₀, rfl⟩ := Table.mem_updateMany.mp hs
  split at hheld
  · exact absurd hheld (by simp)
  · next hexp =>
    rw [if_neg hexp] at ht
    exact hexp (Inventory.expired_iff.mpr ⟨hheld, t, ht, hlt⟩)

/-- **The seat ledger invariant.**  In every state that a sequence of transactions
reaches: a seat is booked exactly when one `booked_seats` row refers to it, and the
booking of any such row is a confirmed one of the seat's own trip; the hold columns
are set on held seats and null on all others; every trip has its `totalSeats` seats,
so held and booked ones never exceed its capacity; a booked seat stays booked in the
same booking in every later state; the deletion of a trip with a booking fails and
changes nothing; and after a sweep no held seat is past its expiry. -/
theorem seat_ledger_invariant {db : DB} (h : ledger.Reachable db) :
    (∀ s ∈ db.seats,
      (s.status = .booked ↔ db.bookedSeats.countP (fun r => r.seatId == s.id) = 1) ∧
      (∀ r ∈ db.bookedSeats, r.seatId = s.id → ∃ b ∈ db.bookings, b.id = r.bookingId ∧
        b.status = .confirmed ∧ b.tripId = s.tripId) ∧
      (s.status = .held → s.heldBy ≠ none ∧ s.heldUntil ≠ none) ∧
      (s.status ≠ .held → s.heldBy = none ∧ s.heldUntil = none)) ∧
    (∀ t ∈ db.trips,
      db.seats.countP (fun s => s.tripId == t.id) = t.totalSeats ∧
      db.seats.countP (fun s => s.tripId == t.id && s.status == .held) +
        db.seats.countP (fun s => s.tripId == t.id && s.status == .booked) ≤ t.totalSeats) ∧
    (∀ db', ledger.Leads db db' → ∀ s ∈ db.seats, ∀ r ∈ db.bookedSeats, r.seatId = s.id →
      (∃ s' ∈ db'.seats, s'.id = s.id ∧ s'.status = .booked) ∧
      ∃ r' ∈ db'.bookedSeats, r'.seatId = s.id ∧ r'.bookingId = r.bookingId) ∧
    (∀ b ∈ db.bookings, ∀ operatorId aborted,
      (∃ e, exec (.deleteTrip b.tripId operatorId) db = .error e) ∧
      commit db ⟨.deleteTrip b.tripId operatorId, aborted⟩ = db) ∧
    (∀ now, ∀ s ∈ (commit db ⟨.sweepExpiredHolds now, false⟩).seats, s.status = .held →
      ∀ t, s.heldUntil = some t → ¬ t < now) := by
  have hinv := ledger_inv h
  refine ⟨fun s hs => ⟨hinv.count_rows hs, ?_, (hinv.columns s hs).held,
      (hinv.columns s hs).not_held⟩,
    fun t ht => ⟨hinv.capacity t ht, hinv.held_booked_le ht⟩,
    fun db' hl s hs r hr hid => booked_forever hl h hs hr hid,
    ?_, fun now s hs hheld t ht => swept hs hheld ht⟩
  · intro r hr hid
    obtain ⟨s', hs', hid', -, b, hb, hbid, htrip⟩ := hinv.row_seat r hr
    obtain rfl := hinv.seat_ext hs' hs (hid'.trans hid)
    exact ⟨b, hb, hbid, hinv.confirmed b hb, htrip⟩
  · intro b hb operatorId aborted
    obtain ⟨e, he⟩ := delete_booked hb operatorId
    refine ⟨⟨e, he⟩, ?_⟩
    have hexec : exec (.deleteTrip b.tripId operatorId) db = .error e := he
    rw [commit, hexec]
    exact ite_self db

/-! ## One run -/

/-- A trip's columns, with two seats. -/
def twoSeats : TripData where
  fromCity := "Lagos"
  toCity := "Abuja"
  departureTime := 1000000
  arrivalTime := none
  price := 5000
  totalSeats := 2
  vehicleType := "Bus"
  driverId := none
  parkName := none
  amenities := []

/-- The registered users of the sample runs and no rows yet. -/
def registered : DB := ⟨[7, 8], [], [], [], [], []⟩

/-- An operator puts a trip of two seats online; a user holds one of them and pays. -/
def saleRun : List Attempt :=
  [⟨.createTrip 1 (fun i => 10 + i) twoSeats 3, false⟩,
    ⟨.holdSeats (fun _ => false) 1 1 7 0, false⟩,
    ⟨.confirm ⟨20, fun i => 30 + i, fun i => 40 + i⟩ ⟨99, 1, [10], none⟩ 7 5000, false⟩]

theorem seat_ledger_invariant_sale : ∃ db, ledger.run registered saleRun = some db ∧
    db.bookedSeats.map BookedSeat.seatId = [10] ∧
    ∀ s ∈ db.seats,
      (s.status = .booked ↔ db.bookedSeats.countP (fun r => r.seatId == s.id) = 1) :=
  ⟨_, rfl, rfl, fun s hs =>
    ((seat_ledger_invariant ⟨registered, ⟨[7, 8], rfl⟩, saleRun, rfl⟩).1 s hs).1⟩

end TransHub
