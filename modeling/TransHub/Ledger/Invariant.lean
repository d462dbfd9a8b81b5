import TransHub.Ledger.Bookings

/-!
# The ledger invariant

`LedgerInv`: what ties the tables together.  The unique and foreign-key constraints
are the database's own; the rest is what the code keeps --- the hold columns agree
with the status of a seat, a seat is booked when and only when a `booked_seats` row
refers to it, that row's booking is a confirmed one of the same trip, and a trip
has as many seats as it says.

Each operation that writes the ledger restores the invariant:
`LedgerInv.updateSeats` for the statements that only hold and free seats,
`LedgerInv.updateTrips` for the edits of a trip, and one lemma each for `create`,
`delete` and `confirmTx`.
-/

namespace TransHub

/-- The hold columns of a seat agree with its status. -/
structure Seat.Columns (s : Seat) : Prop where
  held : s.status = .held → s.heldBy ≠ none ∧ s.heldUntil ≠ none
  not_held : s.status ≠ .held → s.heldBy = none ∧ s.heldUntil = none

/-- The invariant of the ledger. -/
structure LedgerInv (db : DB) : Prop where
  trips : Table.Unique Trip.clash db.trips
  seats : Table.Unique Seat.clash db.seats
  bookings : Table.Unique Booking.clash db.bookings
  bookedSeats : Table.Unique BookedSeat.clash db.bookedSeats
  seat_trip : ∀ s ∈ db.seats, ∃ t ∈ db.trips, t.id = s.tripId
  booking_trip : ∀ b ∈ db.bookings, ∃ t ∈ db.trips, t.id = b.tripId
  passenger_booking : ∀ p ∈ db.passengers, ∃ b ∈ db.bookings, b.id = p.bookingId
  confirmed : ∀ b ∈ db.bookings, b.status = .confirmed
  columns : ∀ s ∈ db.seats, s.Columns
  row_seat : ∀ r ∈ db.bookedSeats, ∃ s ∈ db.seats, s.id = r.seatId ∧ s.status = .booked ∧
    ∃ b ∈ db.bookings, b.id = r.bookingId ∧ b.tripId = s.tripId
  booked_row : ∀ s ∈ db.seats, s.status = .booked → ∃ r ∈ db.bookedSeats, r.seatId = s.id
  capacity : ∀ t ∈ db.trips, db.seats.countP (fun s => s.tripId == t.id) = t.totalSeats

theorem Seat.Columns.hold (s : Seat) (u : UserId) (t : Time) : (s.hold u t).Columns where
  held _ := by simp
  not_held h := absurd rfl h

theorem Seat.Columns.free (s : Seat) : s.free.Columns where
  held h := absurd h (by simp)
  not_held _ := ⟨rfl, rfl⟩

theorem Seat.Columns.book (s : Seat) : s.book.Columns where
  held h := absurd h (by simp)
  not_held _ := ⟨rfl, rfl⟩

namespace LedgerInv

variable {db db' : DB}

/-! ## Rows by their keys -/

section Keys

variable (h : LedgerInv db)
include h

theorem trip_ext {t t' : Trip} (ht : t ∈ db.trips) (ht' : t' ∈ db.trips) (hid : t.id = t'.id) :
    t = t' :=
  h.trips.eq_of_clash Trip.clash_comm ht ht' (by simp [Trip.clash, hid])

theorem seat_ext {s s' : Seat} (hs : s ∈ db.seats) (hs' : s' ∈ db.seats) (hid : s.id = s'.id) :
    s = s' :=
  h.seats.eq_of_clash Seat.clash_comm hs hs' (by simp [Seat.clash, hid])

theorem booking_ext {b b' : Booking} (hb : b ∈ db.bookings) (hb' : b' ∈ db.bookings)
    (hid : b.id = b'.id) : b = b' :=
  h.bookings.eq_of_clash Booking.clash_comm hb hb' (by simp [Booking.clash, hid])

theorem ref_ext {b b' : Booking} {r : Ref} (hb : b ∈ db.bookings) (hb' : b' ∈ db.bookings)
    (hr : b.paymentRef = some r) (hr' : b'.paymentRef = some r) : b = b' :=
  h.bookings.eq_of_clash Booking.clash_comm hb hb' (by simp [Booking.clash, hr, hr'])

theorem row_ext {r r' : BookedSeat} (hr : r ∈ db.bookedSeats) (hr' : r' ∈ db.bookedSeats)
    (hid : r.seatId = r'.seatId) : r = r' :=
  h.bookedSeats.eq_of_clash BookedSeat.clash_comm hr hr' (by simp [BookedSeat.clash, hid])

theorem nodup_tripIds : (db.trips.map Trip.id).Nodup :=
  h.trips.nodup_map fun a b hab => by simp [Trip.clash, hab]

theorem nodup_seatIds : (db.seats.map Seat.id).Nodup :=
  h.seats.nodup_map fun a b hab => by simp [Seat.clash, hab]

theorem findUnique_of_mem {t : Trip} (ht : t ∈ db.trips) : Trips.findUnique t.id db = some t :=
  Table.find?_eq_some_of_mem h.nodup_tripIds ht

/-- A seat that a row refers to is booked. -/
theorem booked_of_row {s : Seat} {r : BookedSeat} (hs : s ∈ db.seats) (hr : r ∈ db.bookedSeats)
    (hid : r.seatId = s.id) : s.status = .booked := by
  obtain ⟨s', hs', hid', hbooked, -⟩ := h.row_seat r hr
  rwa [h.seat_ext hs hs' (by rw [hid', hid])]

/-- Exactly one row refers to a booked seat. -/
theorem count_rows {s : Seat} (hs : s ∈ db.seats) :
    s.status = .booked ↔ db.bookedSeats.countP (fun r => r.seatId == s.id) = 1 := by
  have hnodup : (db.bookedSeats.map BookedSeat.seatId).Nodup :=
    h.bookedSeats.nodup_map fun a b hab => by simp [BookedSeat.clash, hab]
  have hcount : db.bookedSeats.countP (fun r => r.seatId == s.id)
      = (db.bookedSeats.map BookedSeat.seatId).count s.id := by
    rw [List.count, List.countP_map]
    rfl
  rw [hcount]
  constructor
  · intro hb
    obtain ⟨r, hr, hid⟩ := h.booked_row s hs hb
    have hmem : r.seatId ∈ db.bookedSeats.map BookedSeat.seatId := List.mem_map_of_mem hr
    rw [hid] at hmem
    exact List.count_eq_one_of_mem hnodup hmem
  · intro hc
    have hmem : s.id ∈ db.bookedSeats.map BookedSeat.seatId :=
      List.count_pos_iff.mp (by omega)
    obtain ⟨r, hr, hid⟩ := List.mem_map.mp hmem
    exact h.booked_of_row hs hr hid

/-- Held and booked seats together never exceed the capacity of the trip. -/
theorem held_booked_le {t : Trip} (ht : t ∈ db.trips) :
    db.seats.countP (fun s => s.tripId == t.id && s.status == .held) +
      db.seats.countP (fun s => s.tripId == t.id && s.status == .booked) ≤ t.totalSeats := by
  rw [← h.capacity t ht]
  generalize db.seats = l
  induction l with
  | nil => simp
  | cons s l ih =>
    simp only [List.countP_cons]
    cases hs : s.status <;> cases htr : s.tripId == t.id <;> simp <;> omega

end Keys

/-! ## Statements that hold and free seats -/

/-- **Holding and freeing keep the ledger.**  An update that only touches seats that
are not booked, and leaves them not booked with their hold columns in order. -/
theorem updateSeats (h : LedgerInv db) {p : Seat → Bool} {f : Seat → Seat}
    (hid : ∀ s, (f s).id = s.id) (htrip : ∀ s, (f s).tripId = s.tripId)
    (hlabel : ∀ s, (f s).label = s.label) (hcol : ∀ s, (f s).Columns)
    (hnb : ∀ s, (f s).status ≠ .booked)
    (hp : ∀ s ∈ db.seats, p s = true → s.status ≠ .booked) :
    LedgerInv { db with seats := Table.updateMany p f db.seats } where
  trips := h.trips
  seats := h.seats.updateMany (fun a b => by simp [Seat.clash, hid, htrip, hlabel])
    fun a b => by simp [Seat.clash, hid, htrip, hlabel]
  bookings := h.bookings
  bookedSeats := h.bookedSeats
  seat_trip s hs := by
    obtain ⟨s₀, hs₀, rfl⟩ := Table.mem_updateMany.mp hs
    have htr : (if p s₀ then f s₀ else s₀).tripId = s₀.tripId := by
      split
      · exact htrip s₀
      · rfl
    rw [htr]
    exact h.seat_trip s₀ hs₀
  booking_trip := h.booking_trip
  passenger_booking := h.passenger_booking
  confirmed := h.confirmed
  columns s hs := by
    obtain ⟨s₀, hs₀, rfl⟩ := Table.mem_updateMany.mp hs
    split
    · exact hcol s₀
    · exact h.columns s₀ hs₀
  row_seat r hr := by
    obtain ⟨s, hs, hsid, hbooked, hb⟩ := h.row_seat r hr
    have hps : p s = false := by
      cases hps : p s with
      | false => rfl
      | true => exact absurd hbooked (hp s hs hps)
    exact ⟨s, Table.mem_updateMany_of_not hs hps, hsid, hbooked, hb⟩
  booked_row s hs hbooked := by
    obtain ⟨s₀, hs₀, rfl⟩ := Table.mem_updateMany.mp hs
    split at hbooked
    · exact absurd hbooked (hnb s₀)
    · next hps =>
      rw [if_neg hps]
      exact h.booked_row s₀ hs₀ hbooked
  capacity t ht := by
    rw [Table.countP_updateMany fun s _ _ => by rw [htrip]]
    exact h.capacity t ht

/-- Freeing seats that are held keeps the ledger. -/
theorem freeSeats (h : LedgerInv db) {p : Seat → Bool}
    (hp : ∀ s, p s = true → s.status = .held) :
    LedgerInv { db with seats := Table.updateMany p Seat.free db.seats } :=
  h.updateSeats Seat.free_id Seat.free_tripId Seat.free_label Seat.Columns.free
    (fun s => by simp) fun s _ hps => by rw [hp s hps]; simp

theorem releaseUserHoldsForTrip (h : LedgerInv db) (tripId : TripId) (userId : UserId) :
    LedgerInv { db with seats := Inventory.releaseUserHoldsForTrip tripId userId db.seats } :=
  h.freeSeats fun _ hs => (Inventory.heldByUser_iff.mp hs).2.1

theorem releaseSpecificHold (h : LedgerInv db) (seatIds : List SeatId) (tripId : TripId)
    (userId : UserId) :
    LedgerInv { db with
      seats := (Inventory.releaseSpecificHold seatIds tripId userId db.seats).1 } :=
  h.freeSeats fun _ hs => (Inventory.specificHold_iff.mp hs).2.2.1

theorem sweepExpiredHolds (h : LedgerInv db) (now : Time) :
    LedgerInv { db with seats := (Inventory.sweepExpiredHolds now db.seats).1 } :=
  h.freeSeats fun _ hs => (Inventory.expired_iff.mp hs).1

/-- The rows that a claim selected are exactly those that its update touches. -/
theorem claimed_available (h : LedgerInv db) {locked : SeatId → Bool} {tripId : TripId}
    {quantity : ℕ} {s : Seat} (hs : s ∈ db.seats)
    (hmem : s.id ∈ (Inventory.claimRows locked tripId quantity db.seats).map Seat.id) :
    s ∈ Inventory.claimRows locked tripId quantity db.seats ∧ s.tripId = tripId ∧
      s.status = .available := by
  obtain ⟨s', hs', hid⟩ := List.mem_map.mp hmem
  obtain ⟨hmem', htrip, havail, -⟩ := Inventory.mem_claimRows hs'
  obtain rfl := h.seat_ext hmem' hs hid
  exact ⟨hs', htrip, havail⟩

theorem markHeld (h : LedgerInv db) {locked : SeatId → Bool} {tripId : TripId} {quantity : ℕ}
    (userId : UserId) (heldUntil : Time) :
    LedgerInv { db with
      seats := Inventory.markHeld
        ((Inventory.claimRows locked tripId quantity db.seats).map Seat.id) userId heldUntil
        db.seats } :=
  h.updateSeats (fun _ => rfl) (fun _ => rfl) (fun _ => rfl)
    (fun s => Seat.Columns.hold s userId heldUntil) (fun s => by simp) fun s hs hps => by
    rw [(h.claimed_available hs (List.contains_iff_mem.mp hps)).2.2]
    simp

theorem holdSeats (h : LedgerInv db) {locked : SeatId → Bool} {tripId : TripId}
    {quantity : ℕ} {userId : UserId} {now : Time} {r : Bookings.Held}
    (hok : Bookings.holdSeats locked tripId quantity userId now db = .ok (r, db')) :
    LedgerInv db' := by
  obtain ⟨ids, -, -, rfl, rfl⟩ := Bookings.holdSeats_ok hok
  exact (h.releaseUserHoldsForTrip tripId userId).markHeld userId _

/-! ## Trips -/

/-- Editing a trip keeps the ledger. -/
theorem updateTrips (h : LedgerInv db) {p : Trip → Bool} {f : Trip → Trip}
    (hid : ∀ t, (f t).id = t.id) (htotal : ∀ t, (f t).totalSeats = t.totalSeats) :
    LedgerInv { db with trips := Table.updateMany p f db.trips } := by
  have hmem : ∀ t ∈ db.trips, ∃ t' ∈ Table.updateMany p f db.trips, t'.id = t.id := by
    intro t ht
    refine ⟨_, Table.mem_updateMany_of_mem ht, ?_⟩
    split
    · exact hid t
    · rfl
  exact
    { h with
      trips := h.trips.updateMany (fun a b => by simp [Trip.clash, hid])
        fun a b => by simp [Trip.clash, hid]
      seat_trip := by
        intro s hs
        obtain ⟨t, ht, hts⟩ := h.seat_trip s hs
        obtain ⟨t', ht', hid'⟩ := hmem t ht
        exact ⟨t', ht', by rw [hid', hts]⟩
      booking_trip := by
        intro b hb
        obtain ⟨t, ht, htb⟩ := h.booking_trip b hb
        obtain ⟨t', ht', hid'⟩ := hmem t ht
        exact ⟨t', ht', by rw [hid', htb]⟩
      capacity := by
        intro t ht
        obtain ⟨t₀, ht₀, rfl⟩ := Table.mem_updateMany.mp ht
        have hc := h.capacity t₀ ht₀
        split
        · rw [hid, htotal]
          exact hc
        · exact hc }

theorem create (h : LedgerInv db) {tripUuid : TripId} {seatUuid : ℕ → SeatId} {data : TripData}
    {operatorId : OperatorId} (hok : Trips.create tripUuid seatUuid data operatorId db = .ok db') :
    LedgerInv db' := by
  obtain ⟨trip, hid, htotal, htrips, hseats, hdb⟩ := Trips.create_ok hok
  obtain ⟨hnew, htrips'⟩ := Table.insert_eq_some.mp htrips
  obtain ⟨hseats', hunique⟩ := Table.insertMany_eq_some hseats
  have hfresh : ∀ t ∈ db.trips, t.id ≠ tripUuid := by
    intro t ht he
    have hc := hnew t ht
    rw [Trip.clash, he, hid] at hc
    exact absurd hc (by simp)
  have hold : ∀ s ∈ db.seats, s.tripId ≠ tripUuid := by
    intro s hs he
    obtain ⟨t, ht, hts⟩ := h.seat_trip s hs
    exact hfresh t ht (hts.trans he)
  have htrip : ∀ t ∈ db.trips, t ∈ db'.trips := by
    intro t ht
    rw [htrips']
    exact List.mem_append_left _ ht
  rw [hdb]
  exact
    { trips := h.trips.insert htrips
      seats := hunique h.seats
      bookings := h.bookings
      bookedSeats := h.bookedSeats
      seat_trip := by
        intro s hs
        rw [hseats'] at hs
        rcases List.mem_append.mp hs with hs | hs
        · obtain ⟨t, ht, hts⟩ := h.seat_trip s hs
          exact ⟨t, htrip t ht, hts⟩
        · refine ⟨trip, ?_, by rw [hid, (Trips.mem_newSeats hs).1]⟩
          rw [htrips']
          exact List.mem_append_right _ (List.mem_singleton.mpr rfl)
      booking_trip := by
        intro b hb
        obtain ⟨t, ht, htb⟩ := h.booking_trip b hb
        exact ⟨t, htrip t ht, htb⟩
      passenger_booking := h.passenger_booking
      confirmed := h.confirmed
      columns := by
        intro s hs
        rw [hseats'] at hs
        rcases List.mem_append.mp hs with hs | hs
        · exact h.columns s hs
        · obtain ⟨-, havail, huntil, hby⟩ := Trips.mem_newSeats hs
          exact ⟨fun hheld => absurd (havail.symm.trans hheld) (by simp),
            fun _ => ⟨hby, huntil⟩⟩
      row_seat := by
        intro r hr
        obtain ⟨s, hs, hrest⟩ := h.row_seat r hr
        refine ⟨s, ?_, hrest⟩
        rw [hseats']
        exact List.mem_append_left _ hs
      booked_row := by
        intro s hs hbooked
        rw [hseats'] at hs
        rcases List.mem_append.mp hs with hs | hs
        · exact h.booked_row s hs hbooked
        · exact absurd ((Trips.mem_newSeats hs).2.1.symm.trans hbooked) (by simp)
      capacity := by
        intro t ht
        rw [htrips'] at ht
        rw [hseats', List.countP_append]
        rcases List.mem_append.mp ht with ht | ht
        · have hnone : (Trips.newSeats tripUuid seatUuid data.totalSeats).countP
              (fun s => s.tripId == t.id) = 0 := by
            rw [List.countP_eq_zero]
            intro s hs
            rw [(Trips.mem_newSeats hs).1]
            simpa using (hfresh t ht).symm
          rw [hnone, h.capacity t ht, Nat.add_zero]
        · rw [List.mem_singleton.mp ht, hid, htotal]
          have hnone : db.seats.countP (fun s => s.tripId == tripUuid) = 0 := by
            rw [List.countP_eq_zero]
            intro s hs
            simpa using hold s hs
          have hall : (Trips.newSeats tripUuid seatUuid data.totalSeats).countP
              (fun s => s.tripId == tripUuid) = data.totalSeats := by
            rw [List.countP_eq_length.mpr, Trips.length_newSeats]
            intro s hs
            simpa using (Trips.mem_newSeats hs).1
          rw [hnone, hall, Nat.zero_add] }

theorem delete (h : LedgerInv db) {id : TripId} {operatorId : OperatorId}
    (hok : Trips.delete id operatorId db = .ok db') : LedgerInv db' := by
  obtain ⟨⟨t₀, ht₀, hid₀, hop₀⟩, hbook, hrow, rfl⟩ := Trips.delete_ok hok
  have hkeep : ∀ t ∈ db.trips, t.id ≠ id →
      t ∈ Table.deleteMany (Trips.owned id operatorId) db.trips := fun t ht hne =>
    Table.mem_deleteMany.mpr ⟨ht, by
      rw [Bool.eq_false_iff]
      exact fun ho => hne (Trips.owned_iff.mp ho).1⟩
  have hkept : ∀ t ∈ Table.deleteMany (Trips.owned id operatorId) db.trips, t.id ≠ id :=
    fun t ht he => by
      obtain ⟨ht, hown⟩ := Table.mem_deleteMany.mp ht
      rw [h.trip_ext ht ht₀ (he.trans hid₀.symm), Trips.owned_iff.mpr ⟨hid₀, hop₀⟩] at hown
      exact absurd hown (by simp)
  exact
    { trips := h.trips.deleteMany _
      seats := h.seats.deleteMany _
      bookings := h.bookings
      bookedSeats := h.bookedSeats
      seat_trip := by
        intro s hs
        obtain ⟨hs, hne⟩ := Table.mem_deleteMany.mp hs
        obtain ⟨t, ht, hts⟩ := h.seat_trip s hs
        exact ⟨t, hkeep t ht (by rw [hts]; simpa using hne), hts⟩
      booking_trip := by
        intro b hb
        obtain ⟨t, ht, htb⟩ := h.booking_trip b hb
        exact ⟨t, hkeep t ht (by rw [htb]; exact hbook b hb), htb⟩
      passenger_booking := h.passenger_booking
      confirmed := h.confirmed
      columns := fun s hs => h.columns s (Table.mem_deleteMany.mp hs).1
      row_seat := by
        intro r hr
        obtain ⟨s, hs, hid, hrest⟩ := h.row_seat r hr
        refine ⟨s, Table.mem_deleteMany.mpr ⟨hs, ?_⟩, hid, hrest⟩
        have hne : s.tripId ≠ id := fun he => hrow s hs he r hr hid.symm
        simpa using hne
      booked_row := fun s hs => h.booked_row s (Table.mem_deleteMany.mp hs).1
      capacity := by
        intro t ht
        have hne := hkept t ht
        rw [← h.capacity t (Table.mem_deleteMany.mp ht).1]
        show (db.seats.filter fun s => !(s.tripId == id)).countP (fun s => s.tripId == t.id) = _
        rw [List.countP_filter]
        refine List.countP_congr ?_
        intro s _
        simp only [Bool.and_eq_true, beq_iff_eq, Bool.not_eq_true', beq_eq_false_iff_ne, ne_eq]
        exact ⟨fun hs => hs.1, fun hs => ⟨hs, fun he => hne (hs.symm.trans he)⟩⟩ }

/-! ## Confirming -/

/-- **A committed confirm keeps the ledger.** -/
theorem confirmTx (h : LedgerInv db) {uuids : Bookings.Uuids} {input : Bookings.ConfirmInput}
    {userId : UserId} {totalAmount : ℤ} {dto : Bookings.BookingDTO}
    (hok : Bookings.confirmTx uuids input userId totalAmount db = .ok (dto, db')) :
    LedgerInv db' := by
  obtain ⟨⟨t, ht, htid⟩, -, -, hfree, hbook, hrows, hpass, -, htrips, hseats, -⟩ :=
    Bookings.confirmTx_ok h.nodup_seatIds hok
  obtain ⟨-, hbook'⟩ := Table.insert_eq_some.mp hbook
  obtain ⟨hrows', hunique⟩ := Table.insertMany_eq_some hrows
  obtain ⟨hpass', -⟩ := Table.insertMany_eq_some hpass
  set row := Bookings.bookingRow uuids input.tripId
    ⟨userId, totalAmount, input.paymentRef, input.passengers⟩ with hrow
  have hrowmem : row ∈ db'.bookings := by
    rw [hbook']
    exact List.mem_append_right _ (List.mem_singleton.mpr rfl)
  have hbmem : ∀ b ∈ db.bookings, b ∈ db'.bookings := by
    intro b hb
    rw [hbook']
    exact List.mem_append_left _ hb
  exact
    { trips := by rw [htrips]; exact h.trips
      seats := by
        rw [hseats]
        exact h.seats.updateMany (fun _ _ => rfl) fun _ _ => rfl
      bookings := h.bookings.insert hbook
      bookedSeats := hunique h.bookedSeats
      seat_trip := by
        intro s hs
        rw [hseats] at hs
        obtain ⟨s₀, hs₀, rfl⟩ := Table.mem_updateMany.mp hs
        rw [htrips]
        split
        · exact h.seat_trip s₀ hs₀
        · exact h.seat_trip s₀ hs₀
      booking_trip := by
        intro b hb
        rw [htrips]
        rw [hbook'] at hb
        rcases List.mem_append.mp hb with hb | hb
        · exact h.booking_trip b hb
        · rw [List.mem_singleton.mp hb]
          exact ⟨t, ht, htid⟩
      passenger_booking := by
        intro p hp
        rw [hpass'] at hp
        rcases List.mem_append.mp hp with hp | hp
        · obtain ⟨b, hb, hid⟩ := h.passenger_booking p hp
          exact ⟨b, hbmem b hb, hid⟩
        · exact ⟨row, hrowmem, (Bookings.mem_passengerRows hp).symm⟩
      confirmed := by
        intro b hb
        rw [hbook'] at hb
        rcases List.mem_append.mp hb with hb | hb
        · exact h.confirmed b hb
        · rw [List.mem_singleton.mp hb]
          rfl
      columns := by
        intro s hs
        rw [hseats] at hs
        obtain ⟨s₀, hs₀, rfl⟩ := Table.mem_updateMany.mp hs
        split
        · exact Seat.Columns.book s₀
        · exact h.columns s₀ hs₀
      row_seat := by
        intro r hr
        rw [hrows'] at hr
        rw [hseats]
        rcases List.mem_append.mp hr with hr | hr
        · obtain ⟨s, hs, hid, hbooked, b, hb, hrest⟩ := h.row_seat r hr
          refine ⟨_, Table.mem_updateMany_of_mem hs, ?_, ?_, b, hbmem b hb, ?_⟩ <;> split
          · exact hid
          · exact hid
          · rfl
          · exact hbooked
          · exact hrest
          · exact hrest
        · obtain ⟨hbid, hmem⟩ := Bookings.mem_seatRows hr
          obtain ⟨s, hs, hid, htr, -⟩ := hfree r.seatId hmem
          refine ⟨_, Table.mem_updateMany_of_mem hs, ?_⟩
          rw [if_pos (List.contains_iff_mem.mpr (by rwa [hid]))]
          exact ⟨hid, rfl, row, hrowmem, hbid.symm, htr.symm⟩
      booked_row := by
        intro s hs hbooked
        rw [hseats] at hs
        rw [hrows']
        obtain ⟨s₀, hs₀, rfl⟩ := Table.mem_updateMany.mp hs
        split at hbooked
        · next hmem =>
          rw [if_pos hmem]
          obtain ⟨r, hr, hid⟩ := Bookings.exists_mem_seatRows uuids
            (List.contains_iff_mem.mp hmem)
          exact ⟨r, List.mem_append_right _ hr, hid⟩
        · next hmem =>
          rw [if_neg hmem]
          obtain ⟨r, hr, hid⟩ := h.booked_row s₀ hs₀ hbooked
          exact ⟨r, List.mem_append_left _ hr, hid⟩
      capacity := by
        intro t ht
        rw [htrips] at ht
        rw [hseats, Inventory.markBooked,
          Table.countP_updateMany fun s _ _ => by rw [Seat.book_tripId]]
        exact h.capacity t ht }

/-- Empty tables, whoever is registered. -/
theorem empty (users : List UserId) : LedgerInv ⟨users, [], [], [], [], []⟩ where
  trips := Table.Unique.nil
  seats := Table.Unique.nil
  bookings := Table.Unique.nil
  bookedSeats := Table.Unique.nil
  seat_trip s hs := absurd hs (by simp)
  booking_trip b hb := absurd hb (by simp)
  passenger_booking p hp := absurd hp (by simp)
  confirmed b hb := absurd hb (by simp)
  columns s hs := absurd hs (by simp)
  row_seat r hr := absurd hr (by simp)
  booked_row s hs := absurd hs (by simp)
  capacity t ht := absurd ht (by simp)

end LedgerInv
end TransHub
