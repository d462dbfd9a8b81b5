import TransHub.Ledger.Invariant
import Mathlib.Logic.Relation

/-!
# The writes of the ledger

`Write`: the committed effects that the modules have on the ledger, one constructor
for each kind of statement.  What holds across every write holds across every
operation, however its statements are grouped into transactions.

* `Write.inv`: a write keeps the ledger invariant.
* `Write.keeps`: a write leaves everything a booking has bought as it is, so
  `Keeps.toDTO` gives the same `BookingDTO` before and after.
-/

namespace TransHub

/-- One committed effect on the ledger. -/
inductive Write (db : DB) : DB → Prop where
  | editTrips (p : Trip → Bool) (f : Trip → Trip) (hid : ∀ t, (f t).id = t.id)
      (hop : ∀ t, (f t).operatorId = t.operatorId)
      (hdata : ∀ t, (f t).toTripData = t.toTripData) :
      Write db { db with trips := Table.updateMany p f db.trips }
  | freeSeats (p : Seat → Bool) (hp : ∀ s, p s = true → s.status = .held) :
      Write db { db with seats := Table.updateMany p Seat.free db.seats }
  | holdSeats (locked : SeatId → Bool) (tripId : TripId) (quantity : ℕ) (userId : UserId)
      (heldUntil : Time) :
      Write db { db with
        seats := Inventory.markHeld
          ((Inventory.claimRows locked tripId quantity db.seats).map Seat.id) userId heldUntil
          db.seats }
  | createTrip {tripUuid : TripId} {seatUuid : ℕ → SeatId} {data : TripData}
      {operatorId : OperatorId} {db' : DB}
      (h : Trips.create tripUuid seatUuid data operatorId db = .ok db') : Write db db'
  | deleteTrip {id : TripId} {operatorId : OperatorId} {db' : DB}
      (h : Trips.delete id operatorId db = .ok db') : Write db db'
  | confirm {uuids : Bookings.Uuids} {input : Bookings.ConfirmInput} {userId : UserId}
      {totalAmount : ℤ} {dto : Bookings.BookingDTO} {db' : DB}
      (h : Bookings.confirmTx uuids input userId totalAmount db = .ok (dto, db')) : Write db db'

/-- Any number of writes. -/
abbrev Writes : DB → DB → Prop := Relation.ReflTransGen Write

/-- **A write keeps the ledger.** -/
theorem Write.inv {db db' : DB} (hw : Write db db') (h : LedgerInv db) : LedgerInv db' := by
  cases hw with
  | editTrips p f hid _ hdata =>
    exact h.updateTrips hid fun t => by rw [hdata t]
  | freeSeats p hp => exact h.freeSeats hp
  | holdSeats locked tripId quantity userId heldUntil => exact h.markHeld userId heldUntil
  | createTrip hok => exact h.create hok
  | deleteTrip hok => exact h.delete hok
  | confirm hok => exact h.confirmTx hok

theorem Writes.inv {db db' : DB} (hw : Writes db db') (h : LedgerInv db) : LedgerInv db' := by
  induction hw with
  | refl => exact h
  | tail _ hs ih => exact hs.inv ih

/-- Nothing writes `users`. -/
theorem Write.users {db db' : DB} (hw : Write db db') (h : LedgerInv db) :
    db'.users = db.users := by
  cases hw with
  | editTrips p f hid hop hdata => rfl
  | freeSeats p hp => rfl
  | holdSeats locked tripId quantity userId heldUntil => rfl
  | createTrip hok =>
    obtain ⟨-, -, -, -, -, hdb⟩ := Trips.create_ok hok
    rw [hdb]
  | deleteTrip hok =>
    obtain ⟨-, -, -, rfl⟩ := Trips.delete_ok hok
    rfl
  | confirm hok =>
    obtain ⟨-, -, -, -, -, -, -, husers, -⟩ := Bookings.confirmTx_ok h.nodup_seatIds hok
    exact husers

theorem Writes.users {db db' : DB} (hw : Writes db db') (h : LedgerInv db) :
    db'.users = db.users := by
  induction hw with
  | refl => rfl
  | tail hm hs ih => exact (hs.users (Writes.inv hm h)).trans ih

/-! ## What a booking has bought -/

/-- Everything a booking refers to is still there, and nothing has been added to
it. -/
structure Keeps (db db' : DB) : Prop where
  booking : ∀ b ∈ db.bookings, b ∈ db'.bookings
  seat : ∀ s ∈ db.seats, s.status = .booked → s ∈ db'.seats
  rows : ∀ b ∈ db.bookings, db'.bookedSeats.filter (fun r => r.bookingId == b.id)
    = db.bookedSeats.filter fun r => r.bookingId == b.id
  passengers : ∀ b ∈ db.bookings, db'.passengers.filter (fun p => p.bookingId == b.id)
    = db.passengers.filter fun p => p.bookingId == b.id
  trip : ∀ b ∈ db.bookings, ∀ t ∈ db.trips, t.id = b.tripId →
    ∃ t' ∈ db'.trips, t'.id = t.id ∧ Bookings.toTripDTO t' = Bookings.toTripDTO t

theorem Keeps.refl (db : DB) : Keeps db db where
  booking _ hb := hb
  seat _ hs _ := hs
  rows _ _ := rfl
  passengers _ _ := rfl
  trip _ _ t ht _ := ⟨t, ht, rfl, rfl⟩

theorem Keeps.trans {db db' db'' : DB} (h : Keeps db db') (h' : Keeps db' db'') :
    Keeps db db'' where
  booking b hb := h'.booking b (h.booking b hb)
  seat s hs hb := h'.seat s (h.seat s hs hb) hb
  rows b hb := (h'.rows b (h.booking b hb)).trans (h.rows b hb)
  passengers b hb := (h'.passengers b (h.booking b hb)).trans (h.passengers b hb)
  trip b hb t ht hid := by
    obtain ⟨t', ht', hid', hdto⟩ := h.trip b hb t ht hid
    obtain ⟨t'', ht'', hid'', hdto'⟩ := h'.trip b (h.booking b hb) t' ht' (hid'.trans hid)
    exact ⟨t'', ht'', hid''.trans hid', hdto'.trans hdto⟩

/-- Writing seats that are not booked touches nothing a booking has bought. -/
theorem Keeps.updateSeats {db : DB} {p : Seat → Bool} {f : Seat → Seat}
    (hp : ∀ s ∈ db.seats, p s = true → s.status ≠ .booked) :
    Keeps db { db with seats := Table.updateMany p f db.seats } :=
  { Keeps.refl db with
    seat := by
      intro s hs hb
      refine Table.mem_updateMany_of_not hs ?_
      cases hps : p s with
      | false => rfl
      | true => exact absurd hb (hp s hs hps) }

/-- Rows of other bookings do not show in a booking. -/
theorem filter_append_of_ne {ρ : Type} {k : ρ → BookingId} {x : BookingId} {l new : List ρ}
    (h : ∀ r ∈ new, k r ≠ x) :
    (l ++ new).filter (fun r => k r == x) = l.filter fun r => k r == x := by
  have hnone : new.filter (fun r => k r == x) = [] := by
    rw [List.filter_eq_nil_iff]
    intro r hr
    simpa using h r hr
  rw [List.filter_append, hnone, List.append_nil]

/-- **A write keeps what every booking has bought.** -/
theorem Write.keeps {db db' : DB} (hw : Write db db') (h : LedgerInv db) : Keeps db db' := by
  cases hw with
  | editTrips p f hid hop hdata =>
    refine { Keeps.refl db with trip := ?_ }
    intro b _ t ht _
    refine ⟨_, Table.mem_updateMany_of_mem ht, ?_, ?_⟩ <;> split
    · exact hid t
    · rfl
    · rw [Bookings.toTripDTO, Bookings.toTripDTO, hop t, hdata t]
    · rfl
  | freeSeats p hp => exact Keeps.updateSeats fun s _ hps => by rw [hp s hps]; simp
  | holdSeats locked tripId quantity userId heldUntil =>
    refine Keeps.updateSeats ?_
    intro s hs hps
    rw [(h.claimed_available hs (List.contains_iff_mem.mp hps)).2.2]
    simp
  | createTrip hok =>
    obtain ⟨trip, -, -, htrips, hseats, hdb⟩ := Trips.create_ok hok
    obtain ⟨-, htrips'⟩ := Table.insert_eq_some.mp htrips
    obtain ⟨hseats', -⟩ := Table.insertMany_eq_some hseats
    rw [hdb]
    refine { Keeps.refl db with
      seat := ?_
      trip := fun b _ t ht _ => ⟨t, ?_, rfl, rfl⟩ }
    · intro s hs _
      show s ∈ db'.seats
      rw [hseats']
      exact List.mem_append_left _ hs
    · show t ∈ db'.trips
      rw [htrips']
      exact List.mem_append_left _ ht
  | deleteTrip hok =>
    obtain ⟨-, hbook, hrow, rfl⟩ := Trips.delete_ok hok
    refine { Keeps.refl db with
      seat := fun s hs hb => Table.mem_deleteMany.mpr ⟨hs, ?_⟩
      trip := fun b hb t ht hid => ⟨t, Table.mem_deleteMany.mpr ⟨ht, ?_⟩, rfl, rfl⟩ }
    · obtain ⟨r, hr, hid⟩ := h.booked_row s hs hb
      have hne : s.tripId ≠ _ := fun he => hrow s hs he r hr hid
      simpa using hne
    · rw [Bool.eq_false_iff]
      exact fun hown => hbook b hb (hid.symm.trans (Trips.owned_iff.mp hown).1)
  | @confirm uuids input userId totalAmount dto _ hok =>
    obtain ⟨-, -, -, hfree, hbook, hrows, hpass, -, htrips, hseats, -⟩ :=
      Bookings.confirmTx_ok h.nodup_seatIds hok
    obtain ⟨hnew, hbook'⟩ := Table.insert_eq_some.mp hbook
    obtain ⟨hrows', -⟩ := Table.insertMany_eq_some hrows
    obtain ⟨hpass', -⟩ := Table.insertMany_eq_some hpass
    -- the id of the new booking is none of the stored ones
    have hfresh : ∀ b ∈ db.bookings, uuids.booking ≠ b.id := by
      intro b hb he
      have hc := hnew b hb
      rw [Booking.clash, Bookings.bookingRow, he] at hc
      exact absurd hc (by simp)
    exact
      { booking := by
          intro b hb
          rw [hbook']
          exact List.mem_append_left _ hb
        seat := by
          intro s hs hb
          rw [hseats]
          refine Table.mem_updateMany_of_not hs ?_
          rw [Bool.eq_false_iff]
          intro hmem
          obtain ⟨s', hs', hid, -, hst⟩ := hfree s.id (List.contains_iff_mem.mp hmem)
          obtain rfl := h.seat_ext hs' hs hid
          rw [hb] at hst
          rcases hst with hst | ⟨hst, -⟩ <;> exact absurd hst (by simp)
        rows := by
          intro b hb
          rw [hrows']
          refine filter_append_of_ne ?_
          intro r hr
          rw [(Bookings.mem_seatRows hr).1]
          exact hfresh b hb
        passengers := by
          intro b hb
          rw [hpass']
          refine filter_append_of_ne ?_
          intro p hp
          rw [Bookings.mem_passengerRows hp]
          exact hfresh b hb
        trip := fun b _ t ht _ => ⟨t, by rw [htrips]; exact ht, rfl, rfl⟩ }

theorem Writes.keeps {db db' : DB} (hw : Writes db db') (h : LedgerInv db) : Keeps db db' := by
  induction hw with
  | refl => exact Keeps.refl db
  | tail hm hs ih => exact ih.trans (hs.keeps (Writes.inv hm h))

/-- **A booking reads the same before and after.** -/
theorem Keeps.toDTO {db db' : DB} (hk : Keeps db db') (h : LedgerInv db) (h' : LedgerInv db')
    {b : Booking} (hb : b ∈ db.bookings) : Bookings.toDTO db' b = Bookings.toDTO db b := by
  obtain ⟨t, ht, hid⟩ := h.booking_trip b hb
  obtain ⟨t', ht', hid', hdto⟩ := hk.trip b hb t ht hid
  have hseat : ∀ r ∈ db.bookedSeats,
      Bookings.toSeatDTO db'.seats r = Bookings.toSeatDTO db.seats r := by
    intro r hr
    obtain ⟨s, hs, hsid, hbooked, -⟩ := h.row_seat r hr
    rw [Bookings.toSeatDTO, Bookings.toSeatDTO, ← hsid,
      Table.find?_eq_some_of_mem h.nodup_seatIds hs,
      Table.find?_eq_some_of_mem h'.nodup_seatIds (hk.seat s hs hbooked)]
  have htrip : (Trips.findUnique b.tripId db').map Bookings.toTripDTO
      = (Trips.findUnique b.tripId db).map Bookings.toTripDTO := by
    have hf := h.findUnique_of_mem ht
    have hf' := h'.findUnique_of_mem ht'
    rw [hid'] at hf'
    rw [← hid, hf, hf', Option.map_some, Option.map_some, hdto]
  rw [Bookings.toDTO, Bookings.toDTO, hk.rows b hb, hk.passengers b hb, htrip]
  congr 1
  exact List.filterMap_congr fun r hr => hseat r (List.mem_of_mem_filter hr)

/-- A booking found by its reference is found again, and reads the same. -/
theorem Keeps.findByPaymentRef {db db' : DB} (hk : Keeps db db') (h : LedgerInv db)
    (h' : LedgerInv db') {ref : Ref} {dto : Bookings.BookingDTO}
    (hf : Bookings.findByPaymentRef ref db = some dto) :
    Bookings.findByPaymentRef ref db' = some dto := by
  obtain ⟨b, hfind, rfl⟩ := Option.map_eq_some_iff.mp hf
  have hb := List.mem_of_find?_eq_some hfind
  have href : b.paymentRef = some ref := by simpa using List.find?_some hfind
  have hb' := hk.booking b hb
  cases hfind' : db'.bookings.find? (fun b => b.paymentRef = some ref) with
  | none =>
    have := List.find?_eq_none.mp hfind' b hb'
    exact absurd href (by simpa using this)
  | some b' =>
    have href' : b'.paymentRef = some ref := by simpa using List.find?_some hfind'
    obtain rfl := h'.ref_ext (List.mem_of_find?_eq_some hfind') hb' href' href
    rw [Bookings.findByPaymentRef, hfind', Option.map_some, hk.toDTO h h' hb]

end TransHub
