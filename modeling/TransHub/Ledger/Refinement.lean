import TransHub.Ledger.Writes
import TransHub.Foundation.Allocation

/-!
# The ledger refines an allocation of seats

`pool db` reads the tables as an allocation: the slot of every seat, free, held for
a user or sold to a booking.

* `pool_eq_sold`: what a sale is in the tables.
* `Write.refines`: a write is one move of a reservation desk, or none; a hold is a
  release and a hold, a confirm is a sale, a deleted trip a withdrawal.
-/

namespace TransHub

open Allocation

/-! ## The allocation the rows stand for -/

/-- What the rows say about one seat. -/
def slotOf (bookedSeats : List BookedSeat) (s : Seat) : Option (Slot UserId BookingId) :=
  match s.status with
  | .available => some .free
  | .held => s.heldBy.map .held
  | .booked => (bookedSeats.find? fun r => r.seatId = s.id).map fun r => .sold r.bookingId

/-- The ledger as a pool of seats, held by users and sold to bookings. -/
def pool (db : DB) : Pool SeatId UserId BookingId :=
  fun x => (db.seats.find? fun s => s.id = x).bind (slotOf db.bookedSeats)

theorem pool_of_mem {db : DB} (h : LedgerInv db) {s : Seat} (hs : s ∈ db.seats) :
    pool db s.id = slotOf db.bookedSeats s := by
  rw [pool, Table.find?_eq_some_of_mem h.nodup_seatIds hs, Option.bind_some]

theorem pool_of_not_mem {db : DB} {x : SeatId} (hx : ∀ s ∈ db.seats, s.id ≠ x) :
    pool db x = none := by
  have hnone : db.seats.find? (fun s => s.id = x) = none :=
    List.find?_eq_none.mpr fun s hs => by simpa using hx s hs
  rw [pool, hnone, Option.bind_none]

theorem slotOf_booked {db : DB} (h : LedgerInv db) {s : Seat} {r : BookedSeat}
    (hs : s.status = .booked) (hr : r ∈ db.bookedSeats) (hid : r.seatId = s.id) :
    slotOf db.bookedSeats s = some (.sold r.bookingId) := by
  have hnodup : (db.bookedSeats.map BookedSeat.seatId).Nodup :=
    h.bookedSeats.nodup_map fun a b hab => by simp [BookedSeat.clash, hab]
  have hfind := Table.find?_eq_some_of_mem hnodup hr
  rw [hid] at hfind
  rw [slotOf, hs, hfind]
  rfl

/-- A seat is sold to a booking when it is booked and its row is the booking's. -/
theorem pool_eq_sold {db : DB} (h : LedgerInv db) {x : SeatId} {b : BookingId} :
    pool db x = some (.sold b) ↔
      (∃ s ∈ db.seats, s.id = x ∧ s.status = .booked) ∧
        ∃ r ∈ db.bookedSeats, r.seatId = x ∧ r.bookingId = b := by
  constructor
  · intro hx
    obtain ⟨s, hfind, hslot⟩ := Option.bind_eq_some_iff.mp hx
    obtain ⟨hs, rfl⟩ := Table.mem_of_find? hfind
    rw [slotOf] at hslot
    split at hslot
    · exact absurd hslot (by simp)
    · exact absurd hslot (by simp)
    · next hbooked =>
      obtain ⟨r, hr, hb⟩ := Option.map_eq_some_iff.mp hslot
      obtain ⟨hmem, hid⟩ := Table.mem_of_find? hr
      exact ⟨⟨s, hs, rfl, hbooked⟩, r, hmem, hid, by simpa using hb⟩
  · rintro ⟨⟨s, hs, rfl, hbooked⟩, r, hr, hid, rfl⟩
    rw [pool_of_mem h hs, slotOf_booked h hbooked hr hid]

/-- Rewriting seats that are not booked, all to one slot, assigns that slot to them. -/
theorem pool_updateSeats {db : DB} (h : LedgerInv db) {p : Seat → Bool} {f : Seat → Seat}
    {x : Slot UserId BookingId}
    (h' : LedgerInv { db with seats := Table.updateMany p f db.seats })
    (hid : ∀ s, (f s).id = s.id)
    (hslot : ∀ s ∈ db.seats, p s = true → slotOf db.bookedSeats (f s) = some x) :
    pool { db with seats := Table.updateMany p f db.seats } =
      (pool db).assign { r | ∃ s ∈ db.seats, s.id = r ∧ p s = true } (some x) := by
  refine Pool.eq_assign ?_ ?_
  · rintro _ ⟨s, hs, rfl, hps⟩
    have hmem := Table.mem_updateMany_of_mem (p := p) (f := f) hs
    rw [if_pos hps] at hmem
    rw [← hid s, pool_of_mem h' hmem]
    exact hslot s hs hps
  · intro r hr
    by_cases hex : ∃ s ∈ db.seats, s.id = r
    · obtain ⟨s, hs, rfl⟩ := hex
      have hps : p s = false := by
        rw [Bool.eq_false_iff]
        exact fun hps => hr ⟨s, hs, rfl, hps⟩
      rw [pool_of_mem h hs, pool_of_mem h' (Table.mem_updateMany_of_not hs hps)]
    · rw [pool_of_not_mem fun s hs he => hex ⟨s, hs, he⟩, pool_of_not_mem]
      intro s hs he
      obtain ⟨s₀, hs₀, rfl⟩ := Table.mem_updateMany.mp hs
      refine hex ⟨s₀, hs₀, ?_⟩
      split at he
      · rwa [hid] at he
      · exact he

/-! ## The moves the writes make -/

/-- A held seat is held for someone. -/
theorem pool_of_held {db : DB} (h : LedgerInv db) {s : Seat} (hs : s ∈ db.seats)
    (hheld : s.status = .held) : ∃ u, pool db s.id = some (.held u) := by
  obtain ⟨u, hu⟩ := Option.ne_none_iff_exists'.mp ((h.columns s hs).held hheld).1
  refine ⟨u, ?_⟩
  rw [pool_of_mem h hs, slotOf, hheld]
  show s.heldBy.map Slot.held = _
  rw [hu]
  rfl

theorem pool_of_available {db : DB} (h : LedgerInv db) {s : Seat} (hs : s ∈ db.seats)
    (havail : s.status = .available) : pool db s.id = some .free := by
  rw [pool_of_mem h hs, slotOf, havail]

/-- Creating a trip puts its seats on offer. -/
theorem pool_create {db db' : DB} (h : LedgerInv db) {tripUuid : TripId}
    {seatUuid : ℕ → SeatId} {data : TripData} {operatorId : OperatorId}
    (hok : Trips.create tripUuid seatUuid data operatorId db = .ok db') :
    Pool.Step (pool db) (pool db') := by
  have h' := h.create hok
  obtain ⟨trip, -, -, -, hseats, hdb⟩ := Trips.create_ok hok
  obtain ⟨hseats', -⟩ := Table.insertMany_eq_some hseats
  have hrows : db'.bookedSeats = db.bookedSeats := by rw [hdb]
  set new := Trips.newSeats tripUuid seatUuid data.totalSeats with hnew
  have hmem : ∀ s ∈ new, s ∈ db'.seats := by
    intro s hs
    rw [hseats']
    exact List.mem_append_right _ hs
  have hold : ∀ s ∈ db.seats, s ∈ db'.seats := by
    intro s hs
    rw [hseats']
    exact List.mem_append_left _ hs
  have hS : ∀ r ∈ { r | ∃ s ∈ new, s.id = r }, pool db r = none := by
    rintro _ ⟨s, hs, rfl⟩
    refine pool_of_not_mem ?_
    intro s₀ hs₀ he
    have hc := (List.pairwise_append.mp (hseats' ▸ h'.seats)).2.2 s₀ hs₀ s hs
    rw [Seat.clash, he] at hc
    exact absurd hc (by simp)
  have heq : pool db' = (pool db).assign { r | ∃ s ∈ new, s.id = r } (some .free) := by
    refine Pool.eq_assign ?_ ?_
    · rintro _ ⟨s, hs, rfl⟩
      exact pool_of_available h' (hmem s hs) (Trips.mem_newSeats hs).2.1
    · intro r hr
      by_cases hex : ∃ s ∈ db.seats, s.id = r
      · obtain ⟨s, hs, rfl⟩ := hex
        rw [pool_of_mem h hs, pool_of_mem h' (hold s hs), hrows]
      · rw [pool_of_not_mem fun s hs he => hex ⟨s, hs, he⟩, pool_of_not_mem]
        intro s hs he
        rw [hseats'] at hs
        rcases List.mem_append.mp hs with hs | hs
        · exact hex ⟨s, hs, he⟩
        · exact hr ⟨s, hs, he⟩
  rw [heq]
  exact .offer _ _ hS

/-- Deleting a trip withdraws its seats, none of which is sold. -/
theorem pool_delete {db db' : DB} (h : LedgerInv db) {id : TripId} {operatorId : OperatorId}
    (hok : Trips.delete id operatorId db = .ok db') : Pool.Step (pool db) (pool db') := by
  have h' := h.delete hok
  obtain ⟨-, -, hrow, rfl⟩ := Trips.delete_ok hok
  have hkeep : ∀ s ∈ db.seats, s.tripId ≠ id →
      s ∈ Table.deleteMany (fun s : Seat => s.tripId == id) db.seats := fun s hs hne =>
    Table.mem_deleteMany.mpr ⟨hs, by simpa using hne⟩
  have hS : ∀ r ∈ { r | ∃ s ∈ db.seats, s.id = r ∧ s.tripId = id }, ∀ b,
      pool db r ≠ some (.sold b) := by
    rintro _ ⟨s, hs, rfl, htrip⟩ b hsold
    obtain ⟨-, r, hr, hid, -⟩ := (pool_eq_sold h).mp hsold
    exact hrow s hs htrip r hr hid
  have heq : pool { db with
        trips := Table.deleteMany (Trips.owned id operatorId) db.trips
        seats := Table.deleteMany (fun s => s.tripId == id) db.seats }
      = (pool db).assign { r | ∃ s ∈ db.seats, s.id = r ∧ s.tripId = id } none := by
    refine Pool.eq_assign ?_ ?_
    · rintro _ ⟨s, hs, rfl, htrip⟩
      refine pool_of_not_mem ?_
      intro s' hs' he
      obtain ⟨hs', hne⟩ := Table.mem_deleteMany.mp hs'
      rw [h.seat_ext hs' hs he, htrip] at hne
      exact absurd hne (by simp)
    · intro r hr
      by_cases hex : ∃ s ∈ db.seats, s.id = r
      · obtain ⟨s, hs, rfl⟩ := hex
        have hne : s.tripId ≠ id := fun he => hr ⟨s, hs, rfl, he⟩
        rw [pool_of_mem h hs, pool_of_mem h' (hkeep s hs hne)]
      · rw [pool_of_not_mem fun s hs he => hex ⟨s, hs, he⟩, pool_of_not_mem]
        exact fun s hs he => hex ⟨s, (Table.mem_deleteMany.mp hs).1, he⟩
  rw [heq]
  exact .withdraw _ _ hS

/-- A committed confirm sells the seats it asked for to one booking. -/
theorem pool_confirm {db db' : DB} (h : LedgerInv db) {uuids : Bookings.Uuids}
    {input : Bookings.ConfirmInput} {userId : UserId} {totalAmount : ℤ}
    {dto : Bookings.BookingDTO}
    (hok : Bookings.confirmTx uuids input userId totalAmount db = .ok (dto, db')) :
    pool db' = (pool db).assign { r | r ∈ input.seatIds } (some (.sold uuids.booking)) ∧
      ∀ r ∈ input.seatIds, pool db r = some .free ∨ ∃ u, pool db r = some (.held u) := by
  have h' := h.confirmTx hok
  obtain ⟨-, -, -, hfree, -, hrows, -, -, -, hseats, -⟩ :=
    Bookings.confirmTx_ok h.nodup_seatIds hok
  obtain ⟨hrows', -⟩ := Table.insertMany_eq_some hrows
  refine ⟨Pool.eq_assign ?_ ?_, ?_⟩
  · intro r hr
    obtain ⟨s, hs, rfl, -, -⟩ := hfree r hr
    obtain ⟨row, hrow, hid⟩ := Bookings.exists_mem_seatRows uuids hr
    refine (pool_eq_sold h').mpr ⟨⟨s.book, ?_, rfl, rfl⟩, row, ?_, hid,
      (Bookings.mem_seatRows hrow).1⟩
    · rw [hseats]
      have hmem := Table.mem_updateMany_of_mem (p := fun s => input.seatIds.contains s.id)
        (f := Seat.book) hs
      rwa [if_pos (List.contains_iff_mem.mpr hr)] at hmem
    · rw [hrows']
      exact List.mem_append_right _ hrow
  · intro r hr
    by_cases hex : ∃ s ∈ db.seats, s.id = r
    · obtain ⟨s, hs, rfl⟩ := hex
      have hmem : s ∈ db'.seats := by
        rw [hseats]
        exact Table.mem_updateMany_of_not hs (by simpa using hr)
      have hnew : (Bookings.seatRows uuids input.seatIds).find? (fun r => r.seatId = s.id)
          = none := by
        refine List.find?_eq_none.mpr fun row hrow => ?_
        have hin := (Bookings.mem_seatRows hrow).2
        simp only [decide_eq_true_eq]
        exact fun he => hr (he ▸ hin)
      rw [pool_of_mem h hs, pool_of_mem h' hmem, slotOf, slotOf, hrows', List.find?_append, hnew,
        Option.or_none]
    · rw [pool_of_not_mem fun s hs he => hex ⟨s, hs, he⟩, pool_of_not_mem]
      intro s hs he
      rw [hseats] at hs
      obtain ⟨s₀, hs₀, rfl⟩ := Table.mem_updateMany.mp hs
      refine hex ⟨s₀, hs₀, ?_⟩
      split at he <;> exact he
  · intro r hr
    obtain ⟨s, hs, rfl, -, havail | ⟨hheld, -⟩⟩ := hfree r hr
    · exact Or.inl (pool_of_available h hs havail)
    · exact Or.inr (pool_of_held h hs hheld)

/-- **A write is one move of a reservation desk, or none.** -/
theorem Write.refines {db db' : DB} (hw : Write db db') (h : LedgerInv db) :
    Pool.Steps (pool db) (pool db') := by
  have h' := hw.inv h
  cases hw with
  | editTrips p f hid hop hdata => exact .refl
  | freeSeats p hp =>
    rw [pool_updateSeats h (x := .free) h' Seat.free_id fun s _ _ => rfl]
    refine .single (.release _ _ ?_)
    rintro _ ⟨s, hs, rfl, hps⟩
    exact pool_of_held h hs (hp s hps)
  | holdSeats locked tripId quantity userId heldUntil =>
    rw [Inventory.markHeld,
      pool_updateSeats h (x := .held userId) h' (fun _ => rfl) fun s _ _ => rfl]
    refine .single (.hold _ _ _ ?_)
    rintro _ ⟨s, hs, rfl, hps⟩
    exact pool_of_available h hs
      (h.claimed_available hs (List.contains_iff_mem.mp hps)).2.2
  | createTrip hok => exact .single (pool_create h hok)
  | deleteTrip hok => exact .single (pool_delete h hok)
  | confirm hok =>
    obtain ⟨heq, hfree⟩ := pool_confirm h hok
    rw [heq]
    exact .single (.sell _ _ _ hfree)

theorem Writes.refines {db db' : DB} (hw : Writes db db') (h : LedgerInv db) :
    Pool.Steps (pool db) (pool db') := by
  induction hw with
  | refl => exact .refl
  | tail hm hs ih => exact ih.trans (hs.refines (Writes.inv hm h))

end TransHub
