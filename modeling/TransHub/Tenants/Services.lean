import TransHub.Tenants.Requests

/-!
# What a request does to the property of an operator

* `Property`, `ApiDB.propertyOf`: what an operator owns; `Property.timetable` leaves out whether
  its trips are full and how many walk-ins they have.
* `Licensed`: what the guards have found out about a call that is being served.
* `work_same`, `trip_effect`, `fleet_kept`: a step of such a call touches the property of the
  operator that its token names, or a load that the token may change.
-/

namespace TransHub
namespace Tenants

open Accounts Fleet Identity

/-! ## What an operator owns -/

def tripOf (o : OperatorId) (t : Trip) : Bool := t.operatorId == o

def driverOf (o : OperatorId) (d : Driver) : Bool := d.operatorId == o

def vehicleOf (o : OperatorId) (v : Vehicle) : Bool := v.operatorId == o

/-- The rows of an operator. -/
structure Property where
  trips : List Trip
  drivers : List Driver
  vehicles : List Vehicle
  deriving DecidableEq

def ApiDB.propertyOf (o : OperatorId) (r : ApiDB) : Property where
  trips := r.trips.filter (tripOf o)
  drivers := r.drivers.filter (driverOf o)
  vehicles := r.vehicles.filter (vehicleOf o)

/-- A trip without its load. -/
def timetable (t : Trip) : Trip := { t with isFull := false, offlineCount := 0 }

def Property.timetable (p : Property) : Property :=
  { p with trips := p.trips.map Tenants.timetable }

/-- A step leaves the rows of an operator alone. -/
structure Leaves (o : OperatorId) (r r' : ApiDB) : Prop where
  trips : Scope.Agree (tripOf o) r'.trips r.trips
  drivers : Scope.Agree (driverOf o) r'.drivers r.drivers
  vehicles : Scope.Agree (vehicleOf o) r'.vehicles r.vehicles

theorem Leaves.of_eq {o : OperatorId} {r r' : ApiDB} (htrips : r'.trips = r.trips)
    (hdrivers : r'.drivers = r.drivers) (hvehicles : r'.vehicles = r.vehicles) :
    Leaves o r r' := by
  refine ⟨?_, ?_, ?_⟩
  · rw [htrips, Scope.Agree]
  · rw [hdrivers, Scope.Agree]
  · rw [hvehicles, Scope.Agree]

theorem Leaves.propertyOf {o : OperatorId} {r r' : ApiDB} (h : Leaves o r r') :
    r'.propertyOf o = r.propertyOf o := by
  have htrips : r'.trips.filter (tripOf o) = r.trips.filter (tripOf o) := h.trips
  have hdrivers : r'.drivers.filter (driverOf o) = r.drivers.filter (driverOf o) := h.drivers
  have hvehicles : r'.vehicles.filter (vehicleOf o) = r.vehicles.filter (vehicleOf o) := h.vehicles
  rw [ApiDB.propertyOf, ApiDB.propertyOf, htrips, hdrivers, hvehicles]

/-! ## What a call may do -/

/-- The token names this operator. -/
def OperatorToken (token : Claims) (o : OperatorId) : Prop :=
  token.role = .operator ∧ token.operatorId = some o

/-- Whose load the token may change. -/
def MayLoad (token : Claims) (t : Trip) : Prop :=
  match token.role with
  | .admin => True
  | .driver => t.driverId = some token.id
  | .operator => token.operatorId = some t.operatorId
  | .passenger => False

def WorkLicensed (token : Claims) : WorkCall → Prop
  | .createTrip _ o | .checkDriver _ o _ | .insertTrip _ o | .deleteTrip _ o
  | .createDriver _ o | .insertDriver _ o | .updateDriver _ o _ | .deactivateDriver _ o =>
      OperatorToken token o
  | .refetchDriver _ | .done _ => True
  | .onboard _ | .createWaybill _ _ | .sendQuote _ _ | .writeQuote _ _ | .refetchWaybill _ => False

def TripLicensed (token : Claims) : TripCall → Prop
  | .toggleActive _ o _ => OperatorToken token o
  | .markFull id operatorId role _ driverId | .setOfflineCount id operatorId role _ driverId _ =>
      ∀ t, (Trips.ownerFilter role operatorId driverId).matches id t = true → MayLoad token t
  | .refetch _ | .done _ => True

def FleetLicensed (token : Claims) (vehicles : List Vehicle) : FleetCall → Prop
  | .addVehicle o _ | .updateVehicle _ o _ | .removeVehicle _ o => OperatorToken token o
  | .write id _ | .softDelete id =>
      ∃ v ∈ vehicles, v.id = id ∧ OperatorToken token v.operatorId
  | .done _ => True

/-- What the guards have found out. -/
def Licensed (token : Claims) (r : ApiDB) : ServiceCall → Prop
  | .work l => WorkLicensed token l ∧ l.Passed r.identity.work
  | .trip l => TripLicensed token l
  | .fleet l => FleetLicensed token r.vehicles l
  | .refused _ => True

/-! ## What the services do -/

section Work

variable {token : Claims} {o : OperatorId} {l l' : WorkCall} {w w' : WorkDB} {x : WorkInput}

theorem ne_of_not_operatorToken {o' : OperatorId} (h : OperatorToken token o')
    (ho : ¬ OperatorToken token o) : o' ≠ o := by
  rintro rfl
  exact ho h

/-- The trips and drivers of an operator are as they were. -/
def SameWork (o : OperatorId) (w w' : WorkDB) : Prop :=
  Scope.Agree (tripOf o) w'.ledger.trips w.ledger.trips ∧
    Scope.Agree (driverOf o) w'.drivers w.drivers

theorem SameWork.refl (o : OperatorId) (w : WorkDB) : SameWork o w w := ⟨rfl, rfl⟩

theorem insertDriver_same {d : Driver} (h : w.insertDriver d = .ok w') (hd : d.operatorId ≠ o) :
    SameWork o w w' := by
  obtain ⟨_, -, h⟩ := bind_eq_ok.mp h
  obtain ⟨drivers, hdrivers, h⟩ := bind_eq_ok.mp h
  cases h
  obtain ⟨-, rfl⟩ := Table.insert_eq_some.mp (orThrow_eq_ok.mp hdrivers)
  exact ⟨rfl, Scope.agree_append (beq_eq_false_iff_ne.mpr hd)⟩

theorem insertTrip_same {input : TripData} {o' : OperatorId}
    (h : w.insertTrip x input o' = .ok w') (ho : o' ≠ o) : SameWork o w w' := by
  obtain ⟨_, -, h⟩ := bind_eq_ok.mp h
  obtain ⟨ledger, hledger, h⟩ := bind_eq_ok.mp h
  cases h
  obtain ⟨_, -, hledger⟩ := bind_eq_ok.mp hledger
  obtain ⟨trips, htrips, hledger⟩ := bind_eq_ok.mp hledger
  obtain ⟨seats, -, hledger⟩ := bind_eq_ok.mp hledger
  cases hledger
  obtain ⟨-, rfl⟩ := Table.insert_eq_some.mp (orThrow_eq_ok.mp htrips)
  exact ⟨Scope.agree_append (beq_eq_false_iff_ne.mpr ho), rfl⟩

theorem deleteTrip_same {id : TripId} {o' : OperatorId} {ledger : DB}
    (h : Trips.delete id o' w.ledger = .ok ledger) (ho : o' ≠ o) :
    SameWork o w { w with ledger } := by
  obtain ⟨-, -, -, rfl⟩ := Trips.delete_ok h
  refine ⟨Scope.agree_deleteMany ?_, rfl⟩
  intro t _ ht
  refine Bool.eq_false_iff.mpr fun howned => ho ?_
  rw [← (Trips.owned_iff.mp howned).2]
  exact eq_of_beq ht

theorem updateDrivers_same {id : DriverId} {o' : OperatorId} {f : Driver → Driver}
    (hf : ∀ d, (f d).operatorId = d.operatorId) (ho : o' ≠ o) :
    SameWork o w { w with drivers := Table.updateMany (Driver.ownedBy id o') f w.drivers } := by
  refine ⟨rfl, Scope.agree_updateMany (fun d => ?_) ?_⟩
  · rw [driverOf, driverOf, hf]
  · intro d _ hd
    refine Bool.eq_false_iff.mpr fun howned => ho ?_
    rw [Driver.ownedBy, Bool.and_eq_true, beq_iff_eq, beq_iff_eq] at howned
    rw [← howned.2]
    exact eq_of_beq hd

/-- **A call for an operator touches rows of that operator alone**, and goes on for him. -/
theorem perform_same (hl : WorkLicensed token l) (h : WorkCall.perform l w x = some (l', w')) :
    WorkLicensed token l' ∧ ∀ o, ¬ OperatorToken token o → SameWork o w w' := by
  cases l with
  | onboard call => cases h
  | done result => cases h
  | createDriver input o' =>
    dsimp only [WorkCall.perform] at h
    split at h <;> cases h
    · exact ⟨trivial, fun o _ => .refl o w⟩
    · exact ⟨hl, fun o _ => .refl o w⟩
  | insertDriver input o' =>
    have h := Option.some.inj h
    cases hinsert : w.insertDriver (Driver.ofInput input o' x.uuid x.salt) with
    | error e =>
      rw [hinsert] at h
      cases h
      exact ⟨trivial, fun o _ => .refl o w⟩
    | ok w₁ =>
      rw [hinsert] at h
      cases h
      exact ⟨trivial, fun o ho => insertDriver_same hinsert (ne_of_not_operatorToken hl ho)⟩
  | updateDriver id o' data =>
    dsimp only [WorkCall.perform] at h
    split at h <;> cases h
    · exact ⟨trivial, fun o ho => updateDrivers_same (fun _ => rfl) (ne_of_not_operatorToken hl ho)⟩
    · exact ⟨trivial, fun o _ => .refl o w⟩
  | refetchDriver id =>
    dsimp only [WorkCall.perform] at h
    split at h <;> cases h <;> exact ⟨trivial, fun o _ => .refl o w⟩
  | deactivateDriver id o' =>
    dsimp only [WorkCall.perform] at h
    split at h <;> cases h
    · exact ⟨trivial, fun o ho => updateDrivers_same (fun _ => rfl) (ne_of_not_operatorToken hl ho)⟩
    · exact ⟨trivial, fun o _ => .refl o w⟩
  | createTrip input o' =>
    have h := Option.some.inj h
    cases hcheck : checkOperator (w.onboard.findById o') with
    | error e =>
      rw [hcheck] at h
      cases h
      exact ⟨trivial, fun o _ => .refl o w⟩
    | ok u =>
      rw [hcheck] at h
      cases h
      refine ⟨?_, fun o _ => .refl o w⟩
      split <;> exact hl
  | checkDriver input o' driverId =>
    have h := Option.some.inj h
    cases hcheck : checkActive (Drivers.findById driverId o' w.drivers) with
    | error e =>
      rw [hcheck] at h
      cases h
      exact ⟨trivial, fun o _ => .refl o w⟩
    | ok u =>
      rw [hcheck] at h
      cases h
      exact ⟨hl, fun o _ => .refl o w⟩
  | insertTrip input o' =>
    dsimp only [WorkCall.perform] at h
    split at h
    · cases h
      exact ⟨trivial, fun o _ => .refl o w⟩
    · next hinsert =>
      cases h
      exact ⟨trivial, fun o ho => insertTrip_same hinsert (ne_of_not_operatorToken hl ho)⟩
  | deleteTrip id o' =>
    dsimp only [WorkCall.perform] at h
    split at h
    · cases h
      exact ⟨trivial, fun o _ => .refl o w⟩
    · next hdelete =>
      cases h
      exact ⟨trivial, fun o ho => deleteTrip_same hdelete (ne_of_not_operatorToken hl ho)⟩
  | createWaybill data retry => exact hl.elim
  | sendQuote id data => exact hl.elim
  | writeQuote id data => exact hl.elim
  | refetchWaybill id => exact hl.elim

theorem work_same {i : ℕ} (hl : WorkLicensed token l)
    (h : WorkCall.step i l w x = some (l', w')) :
    WorkLicensed token l' ∧ ∀ o, ¬ OperatorToken token o → SameWork o w w' := by
  unfold WorkCall.step at h
  split at h
  · exact hl.elim
  · cases h
  · split at h
    · cases h
      exact ⟨trivial, fun o _ => .refl o w⟩
    · exact perform_same hl h

end Work

section Trips

variable {token : Claims} {id : TripId} {l l' : TripCall} {db db' : DB}

/-- An edit of trips that leaves their operators and drivers alone.  It is of trips of the operator
that the token names, or of loads that the token may change. -/
def TripEffect (token : Claims) (trips trips' : List Trip) : Prop :=
  ∃ p f, trips' = Table.updateMany p f trips ∧
    (∀ t, (f t).operatorId = t.operatorId ∧ (f t).driverId = t.driverId) ∧
    ((∀ t, p t = true → OperatorToken token t.operatorId) ∨
      (∀ t, p t = true → MayLoad token t) ∧ ∀ t, timetable (f t) = timetable t)

theorem TripEffect.refl (token : Claims) (trips : List Trip) : TripEffect token trips trips := by
  refine ⟨fun _ => false, id, ?_, fun _ => ⟨rfl, rfl⟩, Or.inl fun _ h => absurd h (by simp)⟩
  exact (List.map_id trips).symm

theorem edited_cases {result : Except Thrown DB} (h : TripCall.edited id db result = (l', db')) :
    TripLicensed token l' ∧ (db' = db ∨ result = .ok db') := by
  cases result with
  | error e =>
    cases h
    exact ⟨trivial, Or.inl rfl⟩
  | ok db₁ =>
    cases h
    exact ⟨trivial, Or.inr rfl⟩

theorem edited_effect {p : Trip → Bool} {f : Trip → Trip}
    (hf : ∀ t, (f t).operatorId = t.operatorId ∧ (f t).driverId = t.driverId)
    (hp : (∀ t, p t = true → OperatorToken token t.operatorId) ∨
      (∀ t, p t = true → MayLoad token t) ∧ ∀ t, timetable (f t) = timetable t)
    (h : TripCall.edited id db (Trips.editTrip p f db) = (l', db')) :
    TripLicensed token l' ∧ TripEffect token db.trips db'.trips := by
  obtain ⟨hl', hsame | hedit⟩ := (edited_cases h : TripLicensed token l' ∧ _)
  · rw [hsame]
    exact ⟨hl', .refl token _⟩
  · rw [Trips.editTrip_ok hedit]
    exact ⟨hl', p, f, rfl, hf, hp⟩

/-- **A call that edits a trip.** -/
theorem trip_effect (hl : TripLicensed token l) (h : l.perform db = some (l', db')) :
    TripLicensed token l' ∧ TripEffect token db.trips db'.trips := by
  cases l with
  | done result => cases h
  | toggleActive id o' isActive =>
    refine edited_effect (fun _ => ⟨?_, ?_⟩) (Or.inl ?_) (Option.some.inj h)
    · rfl
    · rfl
    · intro t howned
      rw [(Trips.owned_iff.mp howned).2]
      exact hl
  | markFull id operatorId role isFull driverId =>
    refine edited_effect (fun _ => ⟨?_, ?_⟩) (Or.inr ⟨hl, fun _ => ?_⟩) (Option.some.inj h)
    all_goals rfl
  | setOfflineCount id operatorId role offlineCount driverId pc =>
    cases pc with
    | find =>
      dsimp only [TripCall.perform] at h
      split at h
      · cases h
        exact ⟨trivial, .refl token _⟩
      · split at h <;> cases h
        · exact ⟨hl, .refl token _⟩
        · exact ⟨trivial, .refl token _⟩
    | count current =>
      cases h
      exact ⟨hl, .refl token _⟩
    | write autoFull =>
      refine edited_effect (fun _ => ⟨?_, ?_⟩) (Or.inr ⟨hl, fun _ => ?_⟩) (Option.some.inj h)
      all_goals rfl
  | refetch id =>
    dsimp only [TripCall.perform] at h
    split at h <;> cases h <;> exact ⟨trivial, .refl token _⟩

end Trips

section Vehicles

variable {token : Claims} {l l' : FleetCall} {r r' : FleetDB} {x : FleetInput}

/-- Vehicles stay, with their ids and operators. -/
def Stay (vehicles vehicles' : List Vehicle) : Prop :=
  ∀ v ∈ vehicles, ∃ v' ∈ vehicles', v'.id = v.id ∧ v'.operatorId = v.operatorId

theorem Stay.refl (vehicles : List Vehicle) : Stay vehicles vehicles :=
  fun v hv => ⟨v, hv, rfl, rfl⟩

theorem FleetLicensed.stay {vehicles vehicles' : List Vehicle} (h : Stay vehicles vehicles')
    (hl : FleetLicensed token vehicles l) : FleetLicensed token vehicles' l := by
  cases l with
  | write id data =>
    obtain ⟨v, hv, hid, hop⟩ := hl
    obtain ⟨v', hv', hid', hop'⟩ := h v hv
    exact ⟨v', hv', hid'.trans hid, hop' ▸ hop⟩
  | softDelete id =>
    obtain ⟨v, hv, hid, hop⟩ := hl
    obtain ⟨v', hv', hid', hop'⟩ := h v hv
    exact ⟨v', hv', hid'.trans hid, hop' ▸ hop⟩
  | _ => exact hl

/-- What a step of the fleet keeps. -/
structure FleetKept (token : Claims) (l' : FleetCall) (vehicles vehicles' : List Vehicle) :
    Prop where
  licensed : FleetLicensed token vehicles' l'
  same : ∀ o, ¬ OperatorToken token o → Scope.Agree (vehicleOf o) vehicles' vehicles
  ids : (vehicles'.map Vehicle.id).Nodup
  stay : Stay vehicles vehicles'

theorem fleetKept_idle {vehicles : List Vehicle} (hids : (vehicles.map Vehicle.id).Nodup)
    (hl' : FleetLicensed token vehicles l') : FleetKept token l' vehicles vehicles :=
  ⟨hl', fun _ _ => rfl, hids, .refl vehicles⟩

/-- A write to the vehicle that has been checked. -/
theorem fleetKept_write {vehicles : List Vehicle} {id : VehicleId} {f : Vehicle → Vehicle}
    (hids : (vehicles.map Vehicle.id).Nodup)
    (hv : ∃ v ∈ vehicles, v.id = id ∧ OperatorToken token v.operatorId)
    (hf : ∀ v, (f v).id = v.id ∧ (f v).operatorId = v.operatorId) (result) :
    FleetKept token (.done result) vehicles
      (Table.updateMany (fun v => v.id == id) f vehicles) where
  licensed := trivial
  same o ho := by
    refine Scope.agree_updateMany (fun v => by rw [vehicleOf, vehicleOf, (hf v).2]) ?_
    intro w hw hown
    refine Bool.eq_false_iff.mpr fun hwid => ho ?_
    obtain ⟨v, hv, hid, htoken⟩ := hv
    have heq : w = v :=
      List.inj_on_of_nodup_map hids hw hv ((eq_of_beq hwid).trans hid.symm)
    rw [← heq, show w.operatorId = o from eq_of_beq hown] at htoken
    exact htoken
  ids := by
    rw [Table.map_updateMany fun v _ _ => (hf v).1]
    exact hids
  stay v hv := by
    refine ⟨_, Table.mem_updateMany_of_mem hv, ?_⟩
    split
    · exact hf v
    · exact ⟨rfl, rfl⟩

/-- The check that `updateVehicle` and `removeVehicle` begin with. -/
theorem checked_vehicle {o : OperatorId} {id : VehicleId} {v : Vehicle}
    (htoken : OperatorToken token o) (h : checkOwned o (r.findById id) = .ok v) :
    ∃ v ∈ r.vehicles, v.id = id ∧ OperatorToken token v.operatorId := by
  obtain ⟨row, hrow, h⟩ := bind_eq_ok.mp h
  obtain ⟨_, hown, h⟩ := bind_eq_ok.mp h
  cases h
  have hfind : r.vehicles.find? (fun v => v.id = id) = some v := orThrow_eq_ok.mp hrow
  refine ⟨v, List.mem_of_find?_eq_some hfind, by simpa using List.find?_some hfind, ?_⟩
  rw [eq_of_beq (ensure_eq_ok.mp hown)]
  exact htoken

/-- **A call on a vehicle touches the vehicles of its operator alone.** -/
theorem fleet_kept (hids : (r.vehicles.map Vehicle.id).Nodup)
    (hl : FleetLicensed token r.vehicles l) (h : FleetCall.step l r x = some (l', r')) :
    FleetKept token l' r.vehicles r'.vehicles := by
  cases l with
  | done result => cases h
  | addVehicle o' data =>
    dsimp only [FleetCall.step] at h
    split at h
    · cases h
      exact fleetKept_idle hids trivial
    · split at h
      · cases h
        exact fleetKept_idle hids trivial
      · unfold FleetDB.create at h
        split at h
        · cases h
          exact fleetKept_idle hids trivial
        · split at h
          · cases h
            exact fleetKept_idle hids trivial
          · next vehicles hinsert =>
            cases h
            obtain ⟨hfresh, rfl⟩ := Table.insert_eq_some.mp hinsert
            refine ⟨trivial, ?_, ?_, ?_⟩
            · exact fun o ho => Scope.agree_append
                (beq_eq_false_iff_ne.mpr (ne_of_not_operatorToken hl ho))
            · rw [List.map_append, List.nodup_append]
              refine ⟨hids, List.nodup_singleton _, ?_⟩
              intro a ha b hb
              obtain ⟨v, hv, rfl⟩ := List.mem_map.mp ha
              rw [List.mem_singleton.mp hb]
              have hclash := hfresh v hv
              rw [Vehicle.clash, Bool.or_eq_false_iff] at hclash
              exact beq_eq_false_iff_ne.mp hclash.1
            · exact fun v hv => ⟨v, List.mem_append_left _ hv, rfl, rfl⟩
  | updateVehicle id o' data =>
    dsimp only [FleetCall.step] at h
    split at h
    · cases h
      exact fleetKept_idle hids trivial
    · split at h
      · cases h
        exact fleetKept_idle hids trivial
      · next hcheck =>
        cases h
        obtain ⟨row, hown, -⟩ := bind_eq_ok.mp hcheck
        exact fleetKept_idle hids (checked_vehicle hl hown)
  | write id data =>
    dsimp only [FleetCall.step] at h
    split at h
    · cases h
      exact fleetKept_idle hids trivial
    · cases hupdate : r.update id data with
      | error e =>
        rw [hupdate] at h
        cases h
        exact fleetKept_idle hids trivial
      | ok p =>
        rw [hupdate] at h
        cases h
        rw [(FleetDB.update_eq_ok hupdate).2]
        refine fleetKept_write hids hl ?_ _
        exact fun _ => ⟨rfl, rfl⟩
  | removeVehicle id o' =>
    dsimp only [FleetCall.step] at h
    split at h
    · cases h
      exact fleetKept_idle hids trivial
    · split at h
      · cases h
        exact fleetKept_idle hids trivial
      · next hcheck =>
        cases h
        exact fleetKept_idle hids (checked_vehicle hl hcheck)
  | softDelete id =>
    dsimp only [FleetCall.step] at h
    split at h
    · cases h
      exact fleetKept_idle hids trivial
    · split at h
      · cases h
        exact fleetKept_idle hids trivial
      · next hdelete =>
        cases h
        rw [FleetDB.softDelete_eq_ok hdelete]
        refine fleetKept_write hids hl ?_ _
        exact fun _ => ⟨rfl, rfl⟩

end Vehicles

end Tenants
end TransHub
