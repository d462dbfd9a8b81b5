import TransHub.Foundation.Machine
import TransHub.Ledger.Schema

/-!
# The fleet of an operator

`vehicles.service` over the `vehicles` table.  `updateVehicle` checks the fields that it is
given together with those of the row it has read, and later writes the given ones alone.

* `assertCapacity`, `FleetDB.create`, `FleetDB.update`, `FleetDB.softDelete`: the rule and
  the statements.
* `FleetCall.step`, `fleet`: any number of calls, one step for each statement.
* `WritesCapacity`: the written fields pass the check with the row they are written to.
* `fleet_capacity_iff`: the runs whose writes do are those that keep the rule.
-/

namespace TransHub
namespace Fleet

abbrev VehicleId := ℕ

/-- The types of vehicle that the schemas accept. -/
inductive VehicleType where
  | bus
  | minibus
  | coaster
  | van
  deriving DecidableEq, Repr

def VehicleType.text : VehicleType → String
  | .bus => "bus"
  | .minibus => "minibus"
  | .coaster => "coaster"
  | .van => "van"

/-- `CreateVehicleInput`. -/
structure CreateVehicleInput where
  plate : String
  make : String
  model : String
  capacity : ℕ
  type : VehicleType
  deriving DecidableEq, Repr

/-- `UpdateVehicleInput`: each field may be left out. -/
structure UpdateVehicleInput where
  plate : Option String := none
  make : Option String := none
  model : Option String := none
  capacity : Option ℕ := none
  type : Option VehicleType := none
  deriving DecidableEq, Repr

/-- A row of `vehicles`. -/
structure Vehicle extends CreateVehicleInput where
  id : VehicleId
  operatorId : OperatorId
  active : Bool := true
  deriving DecidableEq, Repr

/-- `vehicles_pkey` and `vehicles_plate_key`. -/
def Vehicle.clash (a b : Vehicle) : Bool := a.id == b.id || a.plate == b.plate

/-- `MIN_CAPACITY`. -/
def minCapacity : VehicleType → ℕ
  | .bus => 20
  | .minibus => 10
  | .coaster => 30
  | .van => 5

def assertCapacity (type : VehicleType) (capacity : ℕ) : Except Thrown Unit :=
  ensure (minCapacity type ≤ capacity)
    (.app (.conflictError ("A " ++ type.text ++ " must have at least " ++
      toString (minCapacity type) ++ " seats (got " ++ toString capacity ++ ")")))

theorem assertCapacity_eq_ok {type : VehicleType} {capacity : ℕ} {u : Unit} :
    assertCapacity type capacity = .ok u ↔ minCapacity type ≤ capacity := by
  rw [assertCapacity, ensure_eq_ok, decide_eq_true_eq]

/-! ## The table -/

/-- The operators that the foreign key may name, and the vehicles. -/
structure FleetDB where
  operators : List OperatorId
  vehicles : List Vehicle
  deriving DecidableEq

/-- `data: { ...data }`: the row with the given fields in place of its own. -/
def UpdateVehicleInput.merge (data : UpdateVehicleInput) (v : Vehicle) : Vehicle :=
  { v with
    plate := data.plate.getD v.plate
    make := data.make.getD v.make
    model := data.model.getD v.model
    capacity := data.capacity.getD v.capacity
    type := data.type.getD v.type }

/-- The plate of an update is that of another vehicle. -/
def plateTaken (id : VehicleId) (data : UpdateVehicleInput) (vehicles : List Vehicle) : Bool :=
  data.plate.any fun plate => vehicles.any fun v => v.id != id && v.plate == plate

namespace FleetDB

def findById (id : VehicleId) (r : FleetDB) : Option Vehicle :=
  r.vehicles.find? fun v => v.id = id

def create (operatorId : OperatorId) (data : CreateVehicleInput) (uuid : VehicleId)
    (r : FleetDB) : Except Thrown (Vehicle × FleetDB) :=
  if !r.operators.contains operatorId then .error (.db .foreignKeyViolation)
  else match Table.insert Vehicle.clash r.vehicles { data with id := uuid, operatorId } with
    | none => .error (.db .uniqueViolation)
    | some vehicles => .ok ({ data with id := uuid, operatorId }, { r with vehicles })

def update (id : VehicleId) (data : UpdateVehicleInput) (r : FleetDB) :
    Except Thrown (Vehicle × FleetDB) :=
  match r.findById id with
  | none => .error (.db .failed)
  | some v =>
      if plateTaken id data r.vehicles then .error (.db .uniqueViolation)
      else .ok (data.merge v,
        { r with vehicles := Table.updateMany (fun v => v.id == id) data.merge r.vehicles })

def softDelete (id : VehicleId) (r : FleetDB) : Except Thrown FleetDB :=
  match r.findById id with
  | none => .error (.db .failed)
  | some _ => .ok { r with
      vehicles := Table.updateMany (fun v => v.id == id) (fun v => { v with active := false })
        r.vehicles }

variable {r r' : FleetDB} {v : Vehicle}

theorem create_eq_ok {operatorId : OperatorId} {data : CreateVehicleInput} {uuid : VehicleId}
    (h : r.create operatorId data uuid = .ok (v, r')) :
    v = { data with id := uuid, operatorId } ∧ r'.vehicles = r.vehicles ++ [v] := by
  unfold create at h
  split at h
  · cases h
  · split at h
    · cases h
    · next vehicles hinsert =>
      cases h
      exact ⟨rfl, (Table.insert_eq_some.mp hinsert).2⟩

theorem update_eq_ok {id : VehicleId} {data : UpdateVehicleInput}
    (h : r.update id data = .ok (v, r')) : plateTaken id data r.vehicles = false ∧
      r' = { r with
        vehicles := Table.updateMany (fun v => v.id == id) data.merge r.vehicles } := by
  unfold update at h
  split at h
  · cases h
  · split at h
    · cases h
    · next hplate =>
      cases h
      exact ⟨Bool.eq_false_iff.mpr hplate, rfl⟩

/-- An update goes through on a stored row whose new plate is free. -/
theorem update_of_mem {id : VehicleId} {data : UpdateVehicleInput} (hv : v ∈ r.vehicles)
    (hid : v.id = id) (hplate : plateTaken id data r.vehicles = false) :
    ∃ w, r.update id data = .ok (w, { r with
      vehicles := Table.updateMany (fun v => v.id == id) data.merge r.vehicles }) := by
  have hsome : (r.findById id).isSome = true :=
    List.find?_isSome.mpr ⟨v, hv, decide_eq_true hid⟩
  obtain ⟨w, hw⟩ := Option.isSome_iff_exists.mp hsome
  refine ⟨data.merge w, ?_⟩
  rw [update, hw]
  dsimp only
  rw [hplate]
  rfl

theorem softDelete_eq_ok {id : VehicleId} (h : r.softDelete id = .ok r') :
    r'.vehicles = Table.updateMany (fun v => v.id == id) (fun v => { v with active := false })
      r.vehicles := by
  unfold softDelete at h
  split at h
  · cases h
  · cases h
    rfl

end FleetDB

/-! ## The calls -/

/-- What `updateVehicle` and `removeVehicle` begin with. -/
def checkOwned (operatorId : OperatorId) (row : Option Vehicle) : Except Thrown Vehicle := do
  let vehicle ← orThrow row (.app (.notFoundError "Vehicle not found"))
  ensure (vehicle.operatorId == operatorId)
    (.app (.forbiddenError "You do not own this vehicle"))
  .ok vehicle

/-- `updateVehicle` up to its write. -/
def checkUpdate (operatorId : OperatorId) (data : UpdateVehicleInput) (row : Option Vehicle) :
    Except Thrown Vehicle := do
  let vehicle ← checkOwned operatorId row
  let newType := data.type.getD vehicle.type
  let newCapacity := data.capacity.getD vehicle.capacity
  assertCapacity newType newCapacity
  .ok vehicle

/-- Where a call stands.  At `write` and `softDelete` it has read the row and passed its
checks. -/
inductive FleetCall where
  | addVehicle (operatorId : OperatorId) (data : CreateVehicleInput)
  | updateVehicle (id : VehicleId) (operatorId : OperatorId) (data : UpdateVehicleInput)
  | write (id : VehicleId) (data : UpdateVehicleInput)
  | removeVehicle (id : VehicleId) (operatorId : OperatorId)
  | softDelete (id : VehicleId)
  | done (result : Except Thrown (Option Vehicle))
  deriving DecidableEq

/-- What is called. -/
inductive FleetOp where
  | addVehicle (operatorId : OperatorId) (data : CreateVehicleInput)
  | updateVehicle (id : VehicleId) (operatorId : OperatorId) (data : UpdateVehicleInput)
  | removeVehicle (id : VehicleId) (operatorId : OperatorId)

/-- Whether the statement of a step fails, and the id that the database generates. -/
structure FleetInput where
  fault : Bool
  uuid : VehicleId

namespace FleetCall

/-- A call that has thrown. -/
def thrown (e : Thrown) : FleetCall := .done (.error e)

/-- The end of a call that returns the row it has written. -/
def returns (r : FleetDB) : Except Thrown (Vehicle × FleetDB) → FleetCall × FleetDB
  | .error e => (thrown e, r)
  | .ok (v, r') => (.done (.ok (some v)), r')

/-- The next step of a call. -/
def step (l : FleetCall) (r : FleetDB) (x : FleetInput) : Option (FleetCall × FleetDB) :=
  match l with
  | .done _ => none
  | .addVehicle operatorId data =>
      match assertCapacity data.type data.capacity with
      | .error e => some (thrown e, r)
      | .ok _ =>
          if x.fault then some (thrown (.db .failed), r)
          else some (returns r (r.create operatorId data x.uuid))
  | .updateVehicle id operatorId data =>
      if x.fault then some (thrown (.db .failed), r)
      else match checkUpdate operatorId data (r.findById id) with
        | .error e => some (thrown e, r)
        | .ok _ => some (.write id data, r)
  | .write id data =>
      if x.fault then some (thrown (.db .failed), r)
      else some (returns r (r.update id data))
  | .removeVehicle id operatorId =>
      if x.fault then some (thrown (.db .failed), r)
      else match checkOwned operatorId (r.findById id) with
        | .error e => some (thrown e, r)
        | .ok _ => some (.softDelete id, r)
  | .softDelete id =>
      if x.fault then some (thrown (.db .failed), r)
      else match r.softDelete id with
        | .error e => some (thrown e, r)
        | .ok r' => some (.done (.ok none), r')

/-- **What a step can do to the table.**  A call adds a vehicle that passes the check, or
writes the fields of an update, or retires a vehicle. -/
theorem step_table {l l' : FleetCall} {r r' : FleetDB} {x : FleetInput}
    (h : step l r x = some (l', r')) :
    r'.vehicles = r.vehicles ∨
    (∃ v : Vehicle, minCapacity v.type ≤ v.capacity ∧ r'.vehicles = r.vehicles ++ [v]) ∨
    (∃ id data, l = .write id data ∧ x.fault = false ∧ plateTaken id data r.vehicles = false ∧
      r'.vehicles = Table.updateMany (fun v => v.id == id) data.merge r.vehicles) ∨
    (∃ id, r'.vehicles =
      Table.updateMany (fun v => v.id == id) (fun v => { v with active := false }) r.vehicles) := by
  cases l with
  | done result => cases h
  | addVehicle operatorId data =>
    dsimp only [step] at h
    split at h
    · cases h
      exact Or.inl rfl
    · next hcap =>
      split at h
      · cases h
        exact Or.inl rfl
      · cases hcreate : r.create operatorId data x.uuid with
        | error e =>
          rw [hcreate] at h
          cases h
          exact Or.inl rfl
        | ok p =>
          rw [hcreate] at h
          cases h
          obtain ⟨hv, hrows⟩ := FleetDB.create_eq_ok hcreate
          refine Or.inr (Or.inl ⟨p.1, ?_, hrows⟩)
          rw [hv]
          exact assertCapacity_eq_ok.mp hcap
  | updateVehicle id operatorId data =>
    dsimp only [step] at h
    split at h
    · cases h
      exact Or.inl rfl
    · split at h <;> cases h <;> exact Or.inl rfl
  | write id data =>
    dsimp only [step] at h
    split at h
    · cases h
      exact Or.inl rfl
    · next hfault =>
      cases hupdate : r.update id data with
      | error e =>
        rw [hupdate] at h
        cases h
        exact Or.inl rfl
      | ok p =>
        rw [hupdate] at h
        cases h
        obtain ⟨hplate, hr⟩ := FleetDB.update_eq_ok hupdate
        exact Or.inr (Or.inr (Or.inl ⟨id, data, rfl, Bool.eq_false_iff.mpr hfault, hplate,
          congrArg FleetDB.vehicles hr⟩))
  | removeVehicle id operatorId =>
    dsimp only [step] at h
    split at h
    · cases h
      exact Or.inl rfl
    · split at h <;> cases h <;> exact Or.inl rfl
  | softDelete id =>
    dsimp only [step] at h
    split at h
    · cases h
      exact Or.inl rfl
    · split at h
      · cases h
        exact Or.inl rfl
      · next hdelete =>
        cases h
        exact Or.inr (Or.inr (Or.inr ⟨id, FleetDB.softDelete_eq_ok hdelete⟩))

end FleetCall

/-- Calls over the table; an operator may sign up at any time. -/
def fleetMachine : Machine FleetDB FleetCall FleetOp FleetInput OperatorId where
  start
    | .addVehicle operatorId data => .addVehicle operatorId data
    | .updateVehicle id operatorId data => .updateVehicle id operatorId data
    | .removeVehicle id operatorId => .removeVehicle id operatorId
  step _ := FleetCall.step
  env r operatorId := some { r with operators := operatorId :: r.operators }

/-- Runs of calls that start with no vehicle. -/
def fleet : System (Config FleetDB FleetCall) (Act FleetOp FleetInput OperatorId) :=
  fleetMachine.system fun r => r.vehicles = []

/-! ## The rule -/

/-- Every vehicle has the seats that its type asks for. -/
def CapacityRule (r : FleetDB) : Prop := ∀ v ∈ r.vehicles, minCapacity v.type ≤ v.capacity

/-- The fields that an update writes pass the check together with those of the row that it
finds. -/
def WritesCapacity (c : Config FleetDB FleetCall) (a : Act FleetOp FleetInput OperatorId) : Prop :=
  ∀ (i : ℕ) (x : FleetInput) (id : VehicleId) (data : UpdateVehicleInput) (row : Vehicle),
    a = .run i x → x.fault = false → c.procs[i]? = some (.write id data) →
    row ∈ c.shared.vehicles → row.id = id → plateTaken id data c.shared.vehicles = false →
    minCapacity (data.type.getD row.type) ≤ data.capacity.getD row.capacity

variable {c c' : Config FleetDB FleetCall} {a : Act FleetOp FleetInput OperatorId}

/-- A write that passes the check with the row it finds keeps the rule. -/
theorem CapacityRule.next (hrule : CapacityRule c.shared) (hwrite : WritesCapacity c a)
    (hs : fleet.step c a = some c') : CapacityRule c'.shared := by
  rcases Machine.next_cases hs with ⟨o, -, rfl⟩ | ⟨i, x, l, l', r', rfl, hi, hstep, rfl⟩ |
    ⟨operatorId, r', -, henv, rfl⟩
  · exact hrule
  · intro v hv
    rcases FleetCall.step_table hstep with hrows | ⟨w, hw, hrows⟩ |
      ⟨id, data, rfl, hfault, hplate, hrows⟩ | ⟨id, hrows⟩
    · exact hrule v (hrows ▸ hv)
    · rw [hrows] at hv
      rcases List.mem_append.mp hv with hv | hv
      · exact hrule v hv
      · rw [List.mem_singleton.mp hv]
        exact hw
    · rw [hrows] at hv
      obtain ⟨row, hrow, rfl⟩ := Table.mem_updateMany.mp hv
      split
      · next hid => exact hwrite i x id data row rfl hfault hi hrow (beq_iff_eq.mp hid) hplate
      · exact hrule row hrow
    · rw [hrows] at hv
      obtain ⟨row, hrow, rfl⟩ := Table.mem_updateMany.mp hv
      split <;> exact hrule row hrow
  · cases henv
    exact hrule

/-- Any other write breaks it. -/
theorem exists_breach (hwrite : ¬ WritesCapacity c a) :
    ∃ c', fleet.step c a = some c' ∧ ¬ CapacityRule c'.shared := by
  unfold WritesCapacity at hwrite
  push Not at hwrite
  obtain ⟨i, x, id, data, row, rfl, hfault, hi, hrow, hid, hplate, hlt⟩ := hwrite
  obtain ⟨w, hw⟩ := FleetDB.update_of_mem hrow hid hplate
  have hstep : FleetCall.step (.write id data) c.shared x = some (.done (.ok (some w)),
      { c.shared with vehicles :=
          Table.updateMany (fun v => v.id == id) data.merge c.shared.vehicles }) := by
    rw [FleetCall.step, hfault, hw]
    rfl
  refine ⟨_, Machine.next_run.mpr ⟨_, _, _, hi, hstep, rfl⟩, ?_⟩
  · intro hrule
    have hmem := Table.mem_updateMany_of_mem (p := fun v => v.id == id) (f := data.merge) hrow
    rw [if_pos (beq_iff_eq.mpr hid)] at hmem
    exact absurd (hrule _ hmem) (Nat.not_le.mpr hlt)

/-- **The runs that keep the rule.**  They are those whose updates find a row that still passes
the check with what they write. -/
theorem fleet_capacity_iff (operators : List OperatorId)
    (acts : List (Act FleetOp FleetInput OperatorId)) :
    fleet.AllSteps WritesCapacity ⟨⟨operators, []⟩, []⟩ acts ↔
      ∀ m ∈ fleet.trace ⟨⟨operators, []⟩, []⟩ acts, CapacityRule m.shared := by
  refine System.allSteps_iff_forall_trace (S := fleet)
    (P := fun m : Config FleetDB FleetCall => CapacityRule m.shared) ?_ ?_
    (System.Reachable.of_init ⟨rfl, rfl⟩) ?_
  · exact fun _ _ _ _ hrule hwrite hs => hrule.next hwrite hs
  · exact fun _ _ _ hwrite => exists_breach hwrite
  · exact fun v hv => absurd hv (by simp)

/-! ## Two updates at once -/

/-- A van of 25 seats; one update makes it a bus, another gives it five seats, and each is
checked before the other writes. -/
def busOfFive : List (Act FleetOp FleetInput OperatorId) :=
  [.spawn (.addVehicle 3 ⟨"LAG 123 XY", "Toyota", "Hiace", 25, .van⟩), .run 0 ⟨false, 1⟩,
    .spawn (.updateVehicle 1 3 { type := some .bus }),
    .spawn (.updateVehicle 1 3 { capacity := some 5 }),
    .run 1 ⟨false, 0⟩, .run 2 ⟨false, 0⟩, .run 1 ⟨false, 0⟩, .run 2 ⟨false, 0⟩]

/-- The run ends with a bus of five seats. -/
theorem fleet_busOfFive : ∃ c, fleet.run ⟨⟨[3], []⟩, []⟩ busOfFive = some c ∧
    (c.shared.vehicles.map fun v => (v.type, v.capacity)) = [(.bus, 5)] ∧
    ¬ CapacityRule c.shared := by
  refine ⟨_, rfl, rfl, ?_⟩
  intro hrule
  exact absurd (hrule _ List.mem_cons_self) (by decide)

end Fleet
end TransHub
