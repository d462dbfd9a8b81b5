import TransHub.Ledger.Trips

/-!
# Walk-in counts, one after the other

`setOfflineCount` stores the count that it is given, and marks the trip full when no seat is left
over.  It never takes that mark back.

* `setOfflineCount_eq_ok`: what an accepted call has checked and stored.
* `setOfflineCount_absolute_iff`: when a first count leaves no trace behind a second.
-/

namespace TransHub
namespace Trips

variable {id : TripId} {operatorId operatorId' : Option OperatorId} {role role' : Role}
  {driverId driverId' : Option DriverId} {k k₁ k₂ : ℕ} {db db' : DB}

/-- A trip once a count was set for it and `available` seats were free. -/
def withOffline (k available : ℕ) (t : Trip) : Trip :=
  { t with offlineCount := k, isFull := t.isFull || decide (available ≤ k) }

/-- The tables once a count was set for a trip. -/
def afterOffline (id : TripId) (k : ℕ) (db : DB) : DB :=
  { db with
    trips := Table.updateMany (fun t => t.id == id)
      (withOffline k (countAvailableSeats id db.seats)) db.trips }

/-- **What an accepted call stores.**  Ids are unique, so it writes the row that it has read. -/
theorem setOfflineCount_eq_ok (hids : (db.trips.map Trip.id).Nodup)
    (h : setOfflineCount id operatorId role k driverId db = .ok db') :
    (∃ t, findUnique id db = some t ∧ k ≤ t.totalSeats) ∧ db' = afterOffline id k db := by
  obtain ⟨current, hcurrent, h⟩ := bind_eq_ok.mp h
  obtain ⟨_, hseats, h⟩ := bind_eq_ok.mp h
  obtain ⟨t, ht, rfl⟩ := Option.map_eq_some_iff.mp (orThrow_eq_ok.mp hcurrent)
  have hfind : db.trips.find? (fun t => t.id = id) = some t := ht
  have hid : t.id = id := by simpa using List.find?_some hfind
  have hle : k ≤ t.totalSeats := of_decide_eq_true (ensure_eq_ok.mp hseats)
  refine ⟨⟨t, ht, hle⟩, ?_⟩
  rw [editTrip_ok h, afterOffline]
  congr 1
  rw [Table.updateMany_eq_iff]
  obtain ⟨_, hany, -⟩ := bind_eq_ok.mp h
  obtain ⟨s, hs, hmatch⟩ := List.any_eq_true.mp (ensure_eq_ok.mp hany)
  have hsid : s.id = id := by
    rw [OwnerFilter.matches, Bool.and_eq_true, Bool.and_eq_true, beq_iff_eq] at hmatch
    exact hmatch.1.1
  intro r hr
  by_cases hrid : r.id = id
  · have hrt : r = t :=
      List.inj_on_of_nodup_map hids hr (List.mem_of_find?_eq_some hfind) (hrid.trans hid.symm)
    have hrs : r = s := List.inj_on_of_nodup_map hids hr hs (hrid.trans hsid.symm)
    have hrow : (r.id == id) = true := beq_iff_eq.mpr hrid
    have hfull : (toListDTO t (countAvailableSeats t.id db.seats)).isFull = r.isFull :=
      hrt ▸ rfl
    rw [if_pos (hrs ▸ hmatch), if_pos hrow, withOffline, hfull]
    have havailable : ((countAvailableSeats id db.seats : ℤ) - k ≤ 0) =
        (countAvailableSeats id db.seats ≤ k) := by
      simp only [eq_iff_iff]
      omega
    simp only [havailable]
    cases r.isFull <;> simp
  · have hrow : ¬ (r.id == id) = true := fun h => hrid (beq_iff_eq.mp h)
    have hmiss : ¬ (ownerFilter role operatorId driverId).matches id r = true := by
      rw [OwnerFilter.matches, Bool.and_eq_true, Bool.and_eq_true]
      exact fun h => hrow h.1.1
    rw [if_neg hmiss, if_neg hrow]

theorem withOffline_id (k available : ℕ) (t : Trip) : (withOffline k available t).id = t.id := rfl

/-- A first count leaves no trace on a trip that was full already, or that it leaves with a seat,
or that the second count fills. -/
theorem withOffline_withOffline_eq_iff {k₁ k₂ available : ℕ} {t : Trip} :
    withOffline k₂ available (withOffline k₁ available t) = withOffline k₂ available t ↔
      t.isFull = true ∨ k₁ < available ∨ available ≤ k₂ := by
  have hfull : withOffline k₂ available (withOffline k₁ available t) =
      withOffline k₂ available t ↔
        ((t.isFull || decide (available ≤ k₁)) || decide (available ≤ k₂)) =
          (t.isFull || decide (available ≤ k₂)) := by
    constructor
    · exact fun h => congrArg Trip.isFull h
    · intro h
      rw [withOffline, withOffline, withOffline, h]
  rw [hfull]
  cases t.isFull with
  | true => simp
  | false =>
    simp only [Bool.false_or, Bool.or_eq_right_iff_imp, decide_eq_true_eq, Bool.false_eq_true,
      false_or]
    omega

/-- Setting a count and then another leaves what setting the other alone does exactly when the
trip was full at first, or the first count leaves a seat, or the second leaves none. -/
theorem setOfflineCount_absolute_iff {db₁ db₁₂ db₂ : DB} (hids : (db.trips.map Trip.id).Nodup)
    (h₁ : setOfflineCount id operatorId role k₁ driverId db = .ok db₁)
    (h₁₂ : setOfflineCount id operatorId' role' k₂ driverId' db₁ = .ok db₁₂)
    (h₂ : setOfflineCount id operatorId' role' k₂ driverId' db = .ok db₂) :
    db₁₂ = db₂ ↔ ∃ t, findUnique id db = some t ∧
      (t.isFull = true ∨ k₁ < countAvailableSeats id db.seats ∨
        countAvailableSeats id db.seats ≤ k₂) := by
  obtain ⟨⟨t, ht, -⟩, rfl⟩ := setOfflineCount_eq_ok hids h₁
  obtain ⟨-, rfl⟩ := setOfflineCount_eq_ok hids h₂
  have hids₁ : ((afterOffline id k₁ db).trips.map Trip.id).Nodup := by
    rw [afterOffline, Table.map_updateMany fun r _ _ => withOffline_id k₁ _ r]
    exact hids
  obtain ⟨-, rfl⟩ := setOfflineCount_eq_ok hids₁ h₁₂
  have hfind : db.trips.find? (fun t => t.id = id) = some t := ht
  have hid : t.id = id := by simpa using List.find?_some hfind
  have hmem : t ∈ db.trips := List.mem_of_find?_eq_some hfind
  have htrips : afterOffline id k₂ (afterOffline id k₁ db) = afterOffline id k₂ db ↔
      Table.updateMany (fun t => t.id == id)
        (withOffline k₂ (countAvailableSeats id db.seats))
        (Table.updateMany (fun t => t.id == id)
          (withOffline k₁ (countAvailableSeats id db.seats)) db.trips) =
      Table.updateMany (fun t => t.id == id)
        (withOffline k₂ (countAvailableSeats id db.seats)) db.trips :=
    ⟨fun h => congrArg DB.trips h, fun h => congrArg (fun trips => { db with trips }) h⟩
  have hkeep : ∀ r : Trip, (r.id == id) = true →
      ((withOffline k₁ (countAvailableSeats id db.seats) r).id == id) = true := fun _ h => h
  rw [htrips, Table.updateMany_updateMany _ hkeep, Table.updateMany_eq_iff]
  constructor
  · intro h
    have hrow := h t hmem
    rw [if_pos (beq_iff_eq.mpr hid), if_pos (beq_iff_eq.mpr hid)] at hrow
    exact ⟨t, ht, withOffline_withOffline_eq_iff.mp hrow⟩
  · rintro ⟨s, hs, hcond⟩ r hr
    split
    · next hrid =>
      have hrt : r = t := List.inj_on_of_nodup_map hids hr hmem ((beq_iff_eq.mp hrid).trans hid.symm)
      obtain rfl : t = s := Option.some.inj (ht.symm.trans hs)
      rw [hrt]
      exact withOffline_withOffline_eq_iff.mpr hcond
    · rfl

/-! ## A mistyped count -/

/-- A trip of operator `3` with two free seats. -/
def twoFree : DB where
  users := []
  trips := [{ id := 1, operatorId := 3, fromCity := "Oyo", toCity := "Aba", departureTime := 0
              arrivalTime := none, price := 5000, totalSeats := 2, vehicleType := "Bus"
              driverId := none, parkName := none, amenities := [] }]
  seats := [{ id := 10, tripId := 1, label := ⟨65, 1⟩ }, { id := 11, tripId := 1, label := ⟨65, 2⟩ }]
  bookings := []
  bookedSeats := []
  passengers := []

/-- A count of one and then of none. -/
theorem setOfflineCount_absolute_oneThenNone :
    afterOffline 1 0 (afterOffline 1 1 twoFree) = afterOffline 1 0 twoFree ↔
      ∃ t, findUnique 1 twoFree = some t ∧
        (t.isFull = true ∨ 1 < countAvailableSeats 1 twoFree.seats ∨
          countAvailableSeats 1 twoFree.seats ≤ 0) :=
  setOfflineCount_absolute_iff (show (twoFree.trips.map Trip.id).Nodup by decide)
    (show setOfflineCount 1 (some 3) .operator 1 none twoFree = .ok _ from rfl)
    (show setOfflineCount 1 (some 3) .operator 0 none _ = .ok _ from rfl)
    (show setOfflineCount 1 (some 3) .operator 0 none twoFree = .ok _ from rfl)

/-- The operator types two for none, and sets it right: the trip stays full. -/
theorem setOfflineCount_twoThenNone : (twoFree.trips.map Trip.id).Nodup ∧
    ∃ db₁ db₁₂ db₂, setOfflineCount 1 (some 3) .operator 2 none twoFree = .ok db₁ ∧
      setOfflineCount 1 (some 3) .operator 0 none db₁ = .ok db₁₂ ∧
      setOfflineCount 1 (some 3) .operator 0 none twoFree = .ok db₂ ∧
      db₁₂ ≠ db₂ ∧ (findUnique 1 db₁₂).map (fun t => (t.offlineCount, t.isFull)) = some (0, true) ∧
      (findUnique 1 db₂).map (fun t => (t.offlineCount, t.isFull)) = some (0, false) :=
  ⟨by decide, _, _, _, rfl, rfl, rfl, by decide, by decide, by decide⟩

end Trips
end TransHub
