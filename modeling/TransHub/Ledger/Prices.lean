import TransHub.Ledger.Runs

/-!
# The price of a trip

A trip gets its id and its price in one statement, and no operation of the ledger
writes either of them afterwards.

* `Trip.tag`: the id and the price of a trip; `LedgerOp.mints`: the ones of a trip that
  an operation creates.
* `exec_tags`, `commit_tags`: every trip that is there after an operation was there
  before it, with the price it has now, or the operation has created it.
-/

namespace TransHub

/-- The id of a trip and its price. -/
def Trip.tag (t : Trip) : TripId × ℤ := (t.id, t.price)

/-- The id and the price of the trip that an operation creates. -/
def LedgerOp.mints : LedgerOp → Option (TripId × ℤ)
  | .createTrip tripUuid _ data _ => some (tripUuid, data.price)
  | _ => none

/-- A new trip has the id and the price that `create` was given. -/
theorem create_tags {tripUuid : TripId} {seatUuid : ℕ → SeatId} {data : TripData}
    {operatorId : OperatorId} {db db' : DB}
    (h : Trips.create tripUuid seatUuid data operatorId db = .ok db') {t : Trip}
    (ht : t ∈ db'.trips) : t ∈ db.trips ∨ t.tag = (tripUuid, data.price) := by
  obtain ⟨-, -, h⟩ := bind_eq_ok.mp h
  obtain ⟨trips, htrips, h⟩ := bind_eq_ok.mp h
  obtain ⟨seats, -, h⟩ := bind_eq_ok.mp h
  cases h
  obtain ⟨-, htrips⟩ := Table.insert_eq_some.mp (orThrow_eq_ok.mp htrips)
  have ht : t ∈ trips := ht
  rw [htrips] at ht
  rcases List.mem_append.mp ht with ht | ht
  · exact Or.inl ht
  · rw [List.mem_singleton.mp ht]
    exact Or.inr rfl

/-- An edit that leaves the supplied columns and the id alone leaves the tag alone. -/
theorem updateMany_tags {p : Trip → Bool} {f : Trip → Trip} {db db' : DB}
    (hdb : db' = { db with trips := Table.updateMany p f db.trips })
    (hf : ∀ t, (f t).tag = t.tag) {t : Trip} (ht : t ∈ db'.trips) :
    ∃ t₀ ∈ db.trips, t₀.tag = t.tag := by
  rw [hdb] at ht
  obtain ⟨t₀, ht₀, rfl⟩ := Table.mem_updateMany.mp ht
  refine ⟨t₀, ht₀, ?_⟩
  split
  · exact (hf t₀).symm
  · rfl

/-- **No operation changes the price of a trip.** -/
theorem exec_tags {op : LedgerOp} {db db' : DB} (h : exec op db = .ok db')
    (hop : op.isConfirm = false) {t : Trip} (ht : t ∈ db'.trips) :
    (∃ t₀ ∈ db.trips, t₀.tag = t.tag) ∨ op.mints = some t.tag := by
  cases op with
  | createTrip tripUuid seatUuid data operatorId =>
    rcases create_tags h ht with hold | hnew
    · exact Or.inl ⟨t, hold, rfl⟩
    · exact Or.inr (congrArg some hnew.symm)
  | deleteTrip id operatorId =>
    obtain ⟨-, -, -, rfl⟩ := Trips.delete_ok h
    exact Or.inl ⟨t, (Table.mem_deleteMany.mp ht).1, rfl⟩
  | toggleActive id operatorId isActive =>
    exact Or.inl (updateMany_tags (Trips.editTrip_ok h) (fun _ => rfl) ht)
  | markFull id operatorId role isFull driverId =>
    exact Or.inl (updateMany_tags (Trips.editTrip_ok h) (fun _ => rfl) ht)
  | setOfflineCount id operatorId role offlineCount driverId =>
    obtain ⟨autoFull, hdb⟩ := Trips.setOfflineCount_ok h
    exact Or.inl (updateMany_tags hdb (fun _ => rfl) ht)
  | holdSeats locked tripId quantity userId now =>
    obtain ⟨r, hr⟩ := map_snd_eq_ok.mp h
    obtain ⟨_, _, _, _, rfl⟩ := Bookings.holdSeats_ok hr
    exact Or.inl ⟨t, ht, rfl⟩
  | hold locked input userId now =>
    obtain ⟨r, hr⟩ := map_snd_eq_ok.mp h
    obtain ⟨_, _, _, _, rfl⟩ := Bookings.holdSeats_ok (Bookings.hold_ok.mp hr).2
    exact Or.inl ⟨t, ht, rfl⟩
  | confirm uuids input userId totalAmount => exact absurd hop (by simp [LedgerOp.isConfirm])
  | releaseSpecificHold seatIds tripId userId =>
    cases h
    exact Or.inl ⟨t, ht, rfl⟩
  | sweepExpiredHolds now =>
    cases h
    exact Or.inl ⟨t, ht, rfl⟩

theorem commit_tags (db : DB) {a : Attempt} (hop : a.op.isConfirm = false) {t : Trip}
    (ht : t ∈ (commit db a).trips) :
    (∃ t₀ ∈ db.trips, t₀.tag = t.tag) ∨ a.op.mints = some t.tag := by
  rw [commit] at ht
  split at ht
  · exact Or.inl ⟨t, ht, rfl⟩
  · split at ht
    · next h => exact exec_tags h hop ht
    · exact Or.inl ⟨t, ht, rfl⟩

end TransHub
