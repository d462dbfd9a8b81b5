import TransHub.Ledger.Runs

/-!
# Holds against the advertised availability

`toListDTO` advertises the free seats of a trip less its walk-ins; `claimSeats` takes
any free seat.

* `advertised`: the number `toListDTO` shows the caller of a hold, whose own held
  seats count as free.
* `hold_within_iff`: a hold keeps within that number unless it asks for more than
  the walk-ins leave and no more than the free rows.
* `holds_within_iff`: the same along every run, and `walk_ins_sold`, a run where the
  seats of the walk-ins are held online.
-/

namespace TransHub

/-- The rows of a hold after its first statement: the caller's own holds are free. -/
def releasedFor (tripId : TripId) (userId : UserId) (db : DB) : List Seat :=
  Inventory.releaseUserHoldsForTrip tripId userId db.seats

/-- The availability that `toListDTO` advertises once the caller's own held seats are
free. -/
def advertised (t : Trip) (userId : UserId) (db : DB) : ℤ :=
  (Trips.toListDTO t (Trips.countAvailableSeats t.id (releasedFor t.id userId db))).availableSeats

/-- The free rows of the trip that no other transaction has locked. -/
def claimableRows (locked : SeatId → Bool) (tripId : TripId) (userId : UserId) (db : DB) : ℕ :=
  (releasedFor tripId userId db).countP fun s =>
    Inventory.claimable tripId s && !locked s.id

/-- **The seats of walk-ins stay free.**  A claim of `q` seats leaves at least the
free seats it found less `q`. -/
theorem countAvailable_markHeld {seats : List Seat} (hseats : (seats.map Seat.id).Nodup)
    (tripId : TripId) (ids : List SeatId) (userId : UserId) (heldUntil : Time) :
    Trips.countAvailableSeats tripId seats ≤
      Trips.countAvailableSeats tripId (Inventory.markHeld ids userId heldUntil seats)
        + ids.length := by
  have hle := Table.countP_le_updateMany_add (fun s => ids.contains s.id)
    (Seat.hold userId heldUntil) seats (fun s => s.tripId == tripId && s.status == .available)
  have hids := Table.countP_contains_le (k := Seat.id) hseats ids
  rw [Trips.countAvailableSeats, Trips.countAvailableSeats, Inventory.markHeld]
  omega

/-- What a hold is to keep: when it succeeds, it took no more than was advertised, and
the seats left free still cover the walk-ins. -/
def HoldWithin (db : DB) (locked : SeatId → Bool) (input : Bookings.HoldInput)
    (userId : UserId) (now : Time) : Prop :=
  ∀ r db', Bookings.hold locked input userId now db = .ok (r, db') →
    ∀ t, Trips.findUnique input.tripId db = some t →
      (input.quantity : ℤ) ≤ advertised t userId db ∧
        t.offlineCount ≤ Trips.countAvailableSeats t.id db'.seats

/-- No open trip has walk-ins that the request would reach into: it asks for more than
they leave, and the free rows suffice for it. -/
def WalkInsClear (db : DB) (locked : SeatId → Bool) (input : Bookings.HoldInput)
    (userId : UserId) : Prop :=
  ∀ t, Trips.findUnique input.tripId db = some t → Bookings.tripOpen t = true →
    ¬ (Trips.countAvailableSeats t.id (releasedFor t.id userId db) <
        input.quantity + t.offlineCount ∧
      input.quantity ≤ claimableRows locked t.id userId db)

/-- A hold succeeds exactly on an open trip with enough free rows. -/
theorem hold_isOk {db : DB} {locked : SeatId → Bool} {input : Bookings.HoldInput}
    {userId : UserId} {now : Time} :
    (∃ r, Bookings.hold locked input userId now db = .ok r) ↔
      (∃ t, Trips.findUnique input.tripId db = some t ∧ Bookings.tripOpen t = true) ∧
        input.quantity ≤ claimableRows locked input.tripId userId db := by
  have hclaim : (∃ p, Inventory.claimSeats locked input.tripId input.quantity userId
      (Bookings.expiresAt now) (releasedFor input.tripId userId db) = .ok p) ↔
      input.quantity ≤ claimableRows locked input.tripId userId db :=
    Inventory.claimSeats_isOk
  rw [← hclaim]
  constructor
  · rintro ⟨r, hr⟩
    obtain ⟨hopen, hhold⟩ := Bookings.hold_ok.mp hr
    obtain ⟨p, hp, -⟩ := bind_eq_ok.mp hhold
    exact ⟨hopen, p, hp⟩
  · rintro ⟨hopen, p, hp⟩
    refine ⟨_, Bookings.hold_ok.mpr ⟨hopen, bind_eq_ok.mpr ⟨p, hp, rfl⟩⟩⟩

/-- **A hold keeps within the advertised availability exactly when the walk-ins are
clear of it.** -/
theorem hold_within_iff {db : DB} (h : LedgerInv db) (locked : SeatId → Bool)
    (input : Bookings.HoldInput) (userId : UserId) (now : Time) :
    HoldWithin db locked input userId now ↔ WalkInsClear db locked input userId := by
  constructor
  · rintro hwithin t ht hopen ⟨hgap, hrows⟩
    obtain ⟨hmem, hid⟩ := Table.mem_of_find? ht
    rw [hid] at hgap hrows
    obtain ⟨⟨r, db'⟩, hok⟩ := hold_isOk.mpr ⟨⟨t, ht, hopen⟩, hrows⟩
    have hq := (hwithin r db' hok t ht).1
    have hone := input.one_le
    rw [advertised, Trips.toListDTO, hid] at hq
    simp only at hq
    omega
  · intro hclear r db' hok t ht
    obtain ⟨⟨t', ht', hopen⟩, hrows⟩ := hold_isOk.mp ⟨_, hok⟩
    obtain rfl : t' = t := by
      rw [ht', Option.some.injEq] at ht
      exact ht
    obtain ⟨hmem, hid⟩ := Table.mem_of_find? ht
    have hgap := hclear t' ht hopen
    rw [hid] at hgap
    have hroom : input.quantity + t'.offlineCount ≤
        Trips.countAvailableSeats input.tripId (releasedFor input.tripId userId db) := by
      by_contra hlt
      exact hgap ⟨by omega, hrows⟩
    obtain ⟨ids, -, hlen, -, rfl⟩ := Bookings.holdSeats_ok (Bookings.hold_ok.mp hok).2
    have hnodup : ((releasedFor input.tripId userId db).map Seat.id).Nodup :=
      (h.releaseUserHoldsForTrip input.tripId userId).nodup_seatIds
    have hafter := countAvailable_markHeld hnodup input.tripId ids userId
      (Bookings.expiresAt now)
    rw [advertised, Trips.toListDTO, hid]
    constructor
    · show (input.quantity : ℤ) ≤ max 0 _
      omega
    · show t'.offlineCount ≤ Trips.countAvailableSeats input.tripId
        (Inventory.markHeld ids userId _ (releasedFor input.tripId userId db))
      omega

/-! ## Along every run -/

/-- What each attempt of a run is to keep. -/
def AttemptWithin (db : DB) (a : Attempt) : Prop :=
  match a.op with
  | .hold locked input userId now => HoldWithin db locked input userId now
  | _ => True

/-- The condition on each attempt of a run. -/
def AttemptClear (db : DB) (a : Attempt) : Prop :=
  match a.op with
  | .hold locked input userId _ => WalkInsClear db locked input userId
  | _ => True

/-- **Along every run of the ledger, the holds keep within the advertised availability
exactly when each of them has the walk-ins clear of it.** -/
theorem holds_within_iff (users : List UserId) (attempts : List Attempt) :
    ledger.AllSteps AttemptWithin ⟨users, [], [], [], [], []⟩ attempts ↔
      ledger.AllSteps AttemptClear ⟨users, [], [], [], [], []⟩ attempts := by
  refine System.allSteps_iff (.of_init ⟨users, rfl⟩) ?_
  intro db a hr
  obtain ⟨op, aborted⟩ := a
  cases op with
  | hold locked input userId now => exact hold_within_iff (ledger_inv hr) locked input userId now
  | _ => exact Iff.rfl

/-- A trip of two seats with one walk-in. -/
def walkInRun : List Attempt :=
  [⟨.createTrip 1 (fun i => 10 + i) twoSeats 3, false⟩,
    ⟨.setOfflineCount 1 (some 3) .operator 1 none, false⟩]

/-- **Walk-in seats are held online.**  With two free seats and one walk-in the trip
advertises one seat, and a hold of two goes through. -/
theorem walk_ins_sold : ∃ db t r, ledger.run registered walkInRun = some db ∧
    Trips.findUnique 1 db = some t ∧ advertised t 7 db = 1 ∧
    Bookings.hold (fun _ => false) ⟨1, 2, by decide, by decide⟩ 7 0 db = .ok r ∧
    ¬ HoldWithin db (fun _ => false) ⟨1, 2, by decide, by decide⟩ 7 0 := by
  refine ⟨_, _, _, rfl, rfl, rfl, rfl, ?_⟩
  intro hwithin
  have hq := (hwithin _ _ rfl _ rfl).1
  exact absurd hq (by decide)

end TransHub
