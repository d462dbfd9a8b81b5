import TransHub.Accounts.Atomicity
import TransHub.Fleet.Drivers
import TransHub.Ledger.Trips
import TransHub.Waybills.Schema

/-!
# Who the work is given to

Operators are approved, hire drivers and create trips, and waybills are quoted for an operator.
Each of the services reads what it checks before it writes.

* `WorkDB`, `WorkCall`, `WorkCall.step`: the tables and the calls, one step for each statement.
* `WorkEffect`, `step_effect`: what a step can do to the tables.
* `workOutline`: trips and their drivers stay inside an approved operator in every run.
* `QuotesApproved`: quotes name approved operators; `work_assigned_iff`: the runs in which
  waybills do as well.
-/

namespace TransHub
namespace Fleet

open Accounts (Application OnboardCall OnboardDB OnboardEffect OnboardInput OnboardOp
  OnboardOutcome Operator User)

/-- The tables.  `ledger` has the trips and their seats. -/
structure WorkDB where
  onboard : OnboardDB
  drivers : List Driver
  ledger : DB
  waybills : List Waybill
  events : List (WaybillId × WaybillEvent)

/-- What a call returns. -/
inductive WorkResult where
  | driver (d : DriverDTO)
  | trip (t : Option Trips.TripDTO)
  | waybill (w : Waybill)
  | nothing
  deriving DecidableEq

/-- Where a call stands.  `insertDriver`, `checkDriver`, `insertTrip` and `writeQuote` come after
the checks before them have passed, `refetchDriver` and `refetchWaybill` after the write. -/
inductive WorkCall where
  | onboard (l : OnboardCall)
  | createDriver (input : CreateDriverInput) (operatorId : OperatorId)
  | insertDriver (input : CreateDriverInput) (operatorId : OperatorId)
  | updateDriver (id : DriverId) (operatorId : OperatorId) (data : UpdateDriverInput)
  | refetchDriver (id : DriverId)
  | deactivateDriver (id : DriverId) (operatorId : OperatorId)
  | createTrip (input : TripData) (operatorId : OperatorId)
  | checkDriver (input : TripData) (operatorId : OperatorId) (driverId : DriverId)
  | insertTrip (input : TripData) (operatorId : OperatorId)
  | deleteTrip (id : TripId) (operatorId : OperatorId)
  | createWaybill (data : WaybillRequest) (retry : Bool)
  | sendQuote (id : WaybillId) (data : WaybillQuote)
  | writeQuote (id : WaybillId) (data : WaybillQuote)
  | refetchWaybill (id : WaybillId)
  | done (result : Except Thrown WorkResult)

/-- What is called.  A request for a waybill comes without its number. -/
inductive WorkOp where
  | onboard (o : OnboardOp)
  | createDriver (input : CreateDriverInput) (operatorId : OperatorId)
  | updateDriver (id : DriverId) (operatorId : OperatorId) (data : UpdateDriverInput)
  | deactivateDriver (id : DriverId) (operatorId : OperatorId)
  | createTrip (input : TripData) (operatorId : OperatorId)
  | deleteTrip (id : TripId) (operatorId : OperatorId)
  | createWaybill (data : WaybillRequest)
  | sendQuote (id : WaybillId) (data : WaybillQuote)

/-- What the outside world decides in a step; `waybillNo` is what `generate` returns. -/
structure WorkInput extends OnboardInput where
  seatUuid : ℕ → SeatId
  waybillNo : ℕ

/-! ## The statements -/

namespace WorkDB

variable (r : WorkDB)

/-- The operator of a foreign key is there. -/
def hasOperator (id : OperatorId) : Bool := r.onboard.operators.any fun op => op.id == id

/-- `driversRepository.create`. -/
def insertDriver (d : Driver) : Except Thrown WorkDB := do
  ensure (r.hasOperator d.operatorId) (.db .foreignKeyViolation)
  let drivers ← orThrow (Table.insert Driver.clash r.drivers d) (.db .uniqueViolation)
  .ok { r with drivers }

/-- `tripsRepository.create`, with the foreign keys to `operators` and `drivers`. -/
def insertTrip (x : WorkInput) (input : TripData) (operatorId : OperatorId) :
    Except Thrown WorkDB := do
  ensure (r.hasOperator operatorId && input.driverId.all fun id => r.drivers.any fun d => d.id == id)
    (.db .foreignKeyViolation)
  let ledger ← Trips.create x.uuid x.seatUuid input operatorId r.ledger
  .ok { r with ledger }

/-- `waybills_pkey` and `waybills_waybillNo_key`. -/
def waybillClash (a b : Waybill) : Bool := a.id == b.id || a.waybillNo == b.waybillNo

/-- `waybillsRepository.create`. -/
def insertWaybill (x : WorkInput) (data : WaybillRequest) : Except Thrown (Waybill × WorkDB) := do
  let w := Waybills.create x.uuid { data with waybillNo := x.waybillNo }
  let waybills ← orThrow (Table.insert waybillClash r.waybills w) (.db .uniqueViolation)
  .ok (w, { r with waybills, events := r.events ++ [(w.id, Waybills.createdEvent x.now)] })

def findWaybill (id : WaybillId) : Option Waybill := r.waybills.find? fun w => w.id = id

/-- The transaction of `waybillsRepository.sendQuote`: all that the database asks of the operator
is that it is there. -/
def sendQuote (id : WaybillId) (data : WaybillQuote) (now : Time) : Except Thrown WorkDB := do
  ensure (r.findWaybill id).isSome (.db .failed)
  ensure (r.hasOperator data.assignedOperatorId) (.db .foreignKeyViolation)
  .ok { r with
    waybills := Table.updateMany (fun w => w.id == id) (Waybills.sendQuote data now) r.waybills
    events := r.events ++ [(id, Waybills.quoteEvent data now)] }

end WorkDB

/-! ## The calls -/

/-- The check of the operator in `tripsService.create`. -/
def checkOperator (op : Option Operator) : Except Thrown Unit := do
  let operator ← orThrow op (.app (.notFoundError "Operator not found"))
  ensure (operator.status == .approved)
    (.app (.conflictError "Only approved operators can create trips"))

/-- `driversService.getById` and the check of the driver in `tripsService.create`. -/
def checkActive (driver : Option DriverDTO) : Except Thrown Unit := do
  let driver ← orThrow driver (.app (.notFoundError "Driver not found"))
  ensure driver.isActive (.app (.conflictError "The assigned driver is not active"))

namespace WorkCall

def thrown (e : Thrown) : WorkCall := .done (.error e)

/-- The next call and the new tables after a statement that writes, or the exception. -/
def after (r : WorkDB) (next : WorkCall) : Except Thrown WorkDB → WorkCall × WorkDB
  | .error e => (thrown e, r)
  | .ok r' => (next, r')

/-- Go on after a check that writes nothing. -/
def checked (r : WorkDB) (next : WorkCall) : Except Thrown Unit → WorkCall × WorkDB
  | .error e => (thrown e, r)
  | .ok _ => (next, r)

/-- The next step of a call whose statement does not fail. -/
def perform (l : WorkCall) (r : WorkDB) (x : WorkInput) : Option (WorkCall × WorkDB) :=
  match l with
  | .onboard _ => none
  | .done _ => none
  | .createDriver input operatorId => match Drivers.findByPhone input.phone r.drivers with
      | some _ => some (thrown (.app
          (.conflictError "A driver with this phone number already exists")), r)
      | none => some (.insertDriver input operatorId, r)
  | .insertDriver input operatorId =>
      let d := Driver.ofInput input operatorId x.uuid x.salt
      some (after r (.done (.ok (.driver d.toDriverDTO))) (r.insertDriver d))
  | .updateDriver id operatorId data =>
      if r.drivers.any (Driver.ownedBy id operatorId) then
        some (.refetchDriver id, { r with
          drivers := Table.updateMany (Driver.ownedBy id operatorId) (Driver.patch data) r.drivers })
      else some (thrown (.app (.notFoundError "Driver not found")), r)
  | .refetchDriver id => match Drivers.findUnique id r.drivers with
      | none => some (thrown (.app (.notFoundError "Driver not found")), r)
      | some d => some (.done (.ok (.driver d)), r)
  | .deactivateDriver id operatorId =>
      if r.drivers.any (Driver.ownedBy id operatorId) then
        some (.done (.ok .nothing), { r with
          drivers := Table.updateMany (Driver.ownedBy id operatorId) Driver.retire r.drivers })
      else some (thrown (.app (.notFoundError "Driver not found")), r)
  | .createTrip input operatorId =>
      let next := match input.driverId with
        | none => .insertTrip input operatorId
        | some driverId => .checkDriver input operatorId driverId
      some (checked r next (checkOperator (r.onboard.findById operatorId)))
  | .checkDriver input operatorId driverId => some (checked r (.insertTrip input operatorId)
      (checkActive (Drivers.findById driverId operatorId r.drivers)))
  | .insertTrip input operatorId => match r.insertTrip x input operatorId with
      | .error e => some (thrown e, r)
      | .ok r' => some (.done (.ok (.trip (Trips.findById x.uuid r'.ledger))), r')
  | .deleteTrip id operatorId => match Trips.delete id operatorId r.ledger with
      | .error e => some (thrown e, r)
      | .ok ledger => some (.done (.ok .nothing), { r with ledger })
  | .createWaybill data retry => match r.insertWaybill x data with
      | .error (.db .uniqueViolation) =>
          if retry then some (thrown (.db .uniqueViolation), r)
          else some (.createWaybill data true, r)
      | .error e => some (thrown e, r)
      | .ok (w, r') => some (.done (.ok (.waybill w)), r')
  | .sendQuote id data => match (WaybillWrite.sendQuote data).check (r.findWaybill id) with
      | .error e => some (thrown e, r)
      | .ok _ => some (.writeQuote id data, r)
  | .writeQuote id data => some (after r (.refetchWaybill id) (r.sendQuote id data x.now))
  | .refetchWaybill id => match r.findWaybill id with
      | none => some (thrown (.db .failed), r)
      | some w => some (.done (.ok (.waybill w)), r)

/-- The next step of the `i`-th call. -/
def step (i : ℕ) (l : WorkCall) (r : WorkDB) (x : WorkInput) : Option (WorkCall × WorkDB) :=
  match l with
  | .onboard l => (l.step i r.onboard x.toOnboardInput).map fun p =>
      (.onboard p.1, { r with onboard := p.2 })
  | .done _ => none
  | l => if x.fault then some (thrown (.db .failed), r) else perform l r x

end WorkCall

/-- Calls of the services; nothing else writes their tables here. -/
def workMachine : Machine WorkDB WorkCall WorkOp WorkInput Empty where
  start
    | .onboard o => .onboard (Accounts.onboardMachine.start o)
    | .createDriver input operatorId => .createDriver input operatorId
    | .updateDriver id operatorId data => .updateDriver id operatorId data
    | .deactivateDriver id operatorId => .deactivateDriver id operatorId
    | .createTrip input operatorId => .createTrip input operatorId
    | .deleteTrip id operatorId => .deleteTrip id operatorId
    | .createWaybill data => .createWaybill data false
    | .sendQuote id data => .sendQuote id data
  step := WorkCall.step
  env _ e := e.elim

/-- No operator yet, and so no work. -/
def workStart (users : List User) : WorkDB where
  onboard := ⟨users, [], [], [], [], []⟩
  drivers := []
  ledger := ⟨[], [], [], [], [], []⟩
  waybills := []
  events := []

/-- Runs of calls that start so, with any accounts. -/
def work : System (Config WorkDB WorkCall) (Act WorkOp WorkInput Empty) :=
  workMachine.system fun r => ∃ users, r = workStart users

/-! ## What a step does to the tables -/

/-- The effects of the steps of the call `l`. -/
inductive WorkEffect (l : WorkCall) (r : WorkDB) (x : WorkInput) : WorkDB → Prop where
  | idle : WorkEffect l r x r
  | onboard (i : ℕ) (call : OnboardCall) (onboard : OnboardDB)
      (h : OnboardEffect i call r.onboard onboard) : WorkEffect l r x { r with onboard }
  | hire (d : Driver) : WorkEffect l r x { r with drivers := r.drivers ++ [d] }
  | edit (p : Driver → Bool) (f : Driver → Driver)
      (hf : ∀ d, (f d).id = d.id ∧ (f d).operatorId = d.operatorId) :
      WorkEffect l r x { r with drivers := Table.updateMany p f r.drivers }
  | create (input : TripData) (operatorId : OperatorId) (ledger : DB) (t : Trip)
      (hl : l = .insertTrip input operatorId) (hop : t.operatorId = operatorId)
      (hdriver : t.driverId = input.driverId) (h : ledger.trips = r.ledger.trips ++ [t]) :
      WorkEffect l r x { r with ledger }
  | delete (ledger : DB) (h : ∀ t ∈ ledger.trips, t ∈ r.ledger.trips) :
      WorkEffect l r x { r with ledger }
  | request (w : Waybill) (events : List (WaybillId × WaybillEvent))
      (hw : w.assignedOperatorId = none) :
      WorkEffect l r x { r with waybills := r.waybills ++ [w], events }
  | quote (id : WaybillId) (data : WaybillQuote) (events : List (WaybillId × WaybillEvent))
      (hl : l = .writeQuote id data) (hfault : x.fault = false)
      (hw : (r.findWaybill id).isSome = true)
      (hop : r.hasOperator data.assignedOperatorId = true) :
      WorkEffect l r x { r with
        waybills :=
          Table.updateMany (fun w => w.id == id) (Waybills.sendQuote data x.now) r.waybills
        events }

section Effects

variable {l l' next : WorkCall} {r r' : WorkDB} {x : WorkInput}

theorem checked_effect {result : Except Thrown Unit}
    (h : WorkCall.checked r next result = (l', r')) : WorkEffect l r x r' := by
  cases result <;> cases h <;> exact .idle

theorem insertDriver_effect {d : Driver}
    (h : WorkCall.after r next (r.insertDriver d) = (l', r')) : WorkEffect l r x r' := by
  cases hresult : r.insertDriver d with
  | error e =>
    rw [hresult] at h
    cases h
    exact .idle
  | ok r₁ =>
    rw [hresult] at h
    cases h
    obtain ⟨_, -, hresult⟩ := bind_eq_ok.mp hresult
    obtain ⟨drivers, hdrivers, hresult⟩ := bind_eq_ok.mp hresult
    cases hresult
    obtain ⟨-, rfl⟩ := Table.insert_eq_some.mp (orThrow_eq_ok.mp hdrivers)
    exact .hire d

theorem insertTrip_effect {input : TripData} {operatorId : OperatorId}
    (h : r.insertTrip x input operatorId = .ok r') :
    WorkEffect (.insertTrip input operatorId) r x r' := by
  obtain ⟨_, -, h⟩ := bind_eq_ok.mp h
  obtain ⟨ledger, hledger, h⟩ := bind_eq_ok.mp h
  cases h
  obtain ⟨_, -, hledger⟩ := bind_eq_ok.mp hledger
  obtain ⟨trips, htrips, hledger⟩ := bind_eq_ok.mp hledger
  obtain ⟨seats, -, hledger⟩ := bind_eq_ok.mp hledger
  cases hledger
  obtain ⟨-, rfl⟩ := Table.insert_eq_some.mp (orThrow_eq_ok.mp htrips)
  exact .create input operatorId _ _ rfl rfl rfl rfl

theorem deleteTrip_effect {id : TripId} {operatorId : OperatorId} {ledger : DB}
    (h : Trips.delete id operatorId r.ledger = .ok ledger) :
    WorkEffect l r x { r with ledger } := by
  refine .delete ledger ?_
  intro t ht
  obtain ⟨-, -, -, rfl⟩ := Trips.delete_ok h
  exact (Table.mem_deleteMany.mp ht).1

theorem insertWaybill_effect {data : WaybillRequest} {w : Waybill}
    (h : r.insertWaybill x data = .ok (w, r')) : WorkEffect l r x r' := by
  obtain ⟨waybills, hwaybills, h⟩ := bind_eq_ok.mp h
  cases h
  obtain ⟨-, rfl⟩ := Table.insert_eq_some.mp (orThrow_eq_ok.mp hwaybills)
  exact .request _ _ rfl

theorem sendQuote_effect {id : WaybillId} {data : WaybillQuote} (hfault : x.fault = false)
    (h : WorkCall.after r next (r.sendQuote id data x.now) = (l', r')) :
    WorkEffect (.writeQuote id data) r x r' := by
  cases hresult : r.sendQuote id data x.now with
  | error e =>
    rw [hresult] at h
    cases h
    exact .idle
  | ok r₁ =>
    rw [hresult] at h
    cases h
    obtain ⟨_, hw, hresult⟩ := bind_eq_ok.mp hresult
    obtain ⟨_, hop, hresult⟩ := bind_eq_ok.mp hresult
    cases hresult
    exact .quote id data _ rfl hfault (ensure_eq_ok.mp hw) (ensure_eq_ok.mp hop)

theorem perform_effect (hfault : x.fault = false)
    (h : WorkCall.perform l r x = some (l', r')) : WorkEffect l r x r' := by
  cases l with
  | onboard call => cases h
  | done result => cases h
  | createDriver input operatorId =>
    dsimp only [WorkCall.perform] at h
    split at h <;> cases h <;> exact .idle
  | insertDriver input operatorId => exact insertDriver_effect (Option.some.inj h)
  | updateDriver id operatorId data =>
    dsimp only [WorkCall.perform] at h
    split at h <;> cases h
    · exact .edit _ _ fun _ => ⟨rfl, rfl⟩
    · exact .idle
  | refetchDriver id =>
    dsimp only [WorkCall.perform] at h
    split at h <;> cases h <;> exact .idle
  | deactivateDriver id operatorId =>
    dsimp only [WorkCall.perform] at h
    split at h <;> cases h
    · exact .edit _ _ fun _ => ⟨rfl, rfl⟩
    · exact .idle
  | createTrip input operatorId => exact checked_effect (Option.some.inj h)
  | checkDriver input operatorId driverId => exact checked_effect (Option.some.inj h)
  | insertTrip input operatorId =>
    dsimp only [WorkCall.perform] at h
    split at h
    · cases h
      exact .idle
    · next hinsert =>
      cases h
      exact insertTrip_effect hinsert
  | deleteTrip id operatorId =>
    dsimp only [WorkCall.perform] at h
    split at h
    · cases h
      exact .idle
    · next hdelete =>
      cases h
      exact deleteTrip_effect hdelete
  | createWaybill data retry =>
    dsimp only [WorkCall.perform] at h
    split at h
    · split at h <;> cases h <;> exact .idle
    · cases h
      exact .idle
    · next hinsert =>
      cases h
      exact insertWaybill_effect hinsert
  | sendQuote id data =>
    dsimp only [WorkCall.perform] at h
    split at h <;> cases h <;> exact .idle
  | writeQuote id data => exact sendQuote_effect hfault (Option.some.inj h)
  | refetchWaybill id =>
    dsimp only [WorkCall.perform] at h
    split at h <;> cases h <;> exact .idle

/-- **What a step can do to the tables.** -/
theorem step_effect {i : ℕ} (h : WorkCall.step i l r x = some (l', r')) : WorkEffect l r x r' := by
  unfold WorkCall.step at h
  split at h
  · next call =>
    obtain ⟨p, hp, h⟩ := Option.map_eq_some_iff.mp h
    cases h
    exact .onboard i call p.2 (Accounts.onboard_effect hp)
  · cases h
  · split at h
    · cases h
      exact .idle
    · next hfault => exact perform_effect (Bool.eq_false_iff.mpr hfault) h

end Effects

/-! ## What every run keeps -/

/-- A stored operator with this id is approved. -/
def Approved (id : OperatorId) (r : WorkDB) : Prop :=
  ∃ op ∈ r.onboard.operators, op.id = id ∧ op.status = .approved

/-- A trip of an approved operator, which employs its driver. -/
structure TripInside (r : WorkDB) (t : Trip) : Prop where
  operator : Approved t.operatorId r
  driver : ∀ id, t.driverId = some id → Drivers.Employs t.operatorId id r.drivers

/-- Work is assigned inside an approved company. -/
structure AssignedInside (r : WorkDB) : Prop where
  trips : ∀ t ∈ r.ledger.trips, TripInside r t
  waybills : ∀ w ∈ r.waybills, ∀ id, w.assignedOperatorId = some id → Approved id r

/-- What the checks of a call that is about to insert a trip have found. -/
def WorkCall.Passed (l : WorkCall) (r : WorkDB) : Prop :=
  match l with
  | .checkDriver input operatorId driverId =>
      Approved operatorId r ∧ input.driverId = some driverId
  | .insertTrip input operatorId => Approved operatorId r ∧
      ∀ id, input.driverId = some id → Drivers.Employs operatorId id r.drivers
  | _ => True

section Runs

variable {i : ℕ} {l l' : WorkCall} {r r' : WorkDB} {x : WorkInput}

/-- No step takes an approval back. -/
theorem WorkEffect.approved (he : WorkEffect l r x r') {id : OperatorId} (h : Approved id r) :
    Approved id r' := by
  cases he with
  | onboard i call onboard he =>
    obtain ⟨op, hop, hid, hst⟩ := h
    exact ⟨op, Accounts.reviewed_stays he hop (by rw [hst]; simp), hid, hst⟩
  | _ => exact h

/-- No step moves a driver to another operator. -/
theorem WorkEffect.employs (he : WorkEffect l r x r') {operatorId : OperatorId} {id : DriverId}
    (h : Drivers.Employs operatorId id r.drivers) : Drivers.Employs operatorId id r'.drivers := by
  cases he with
  | hire d => exact h.snoc d
  | edit p f hf => exact h.of_edit hf
  | _ => exact h

theorem WorkEffect.passed (he : WorkEffect l r x r') {m : WorkCall} (h : m.Passed r) :
    m.Passed r' := by
  cases m with
  | checkDriver input operatorId driverId => exact ⟨he.approved h.1, h.2⟩
  | insertTrip input operatorId =>
    exact ⟨he.approved h.1, fun id hid => he.employs (h.2 id hid)⟩
  | _ => exact h

theorem WorkEffect.tripInside (he : WorkEffect l r x r') {t : Trip} (h : TripInside r t) :
    TripInside r' t :=
  ⟨he.approved h.operator, fun id hid => he.employs (h.driver id hid)⟩

/-- **A step keeps the trips inside.** -/
theorem WorkEffect.trips (he : WorkEffect l r x r') (hl : l.Passed r)
    (h : ∀ t ∈ r.ledger.trips, TripInside r t) : ∀ t ∈ r'.ledger.trips, TripInside r' t := by
  intro t ht
  have hold : t ∈ r.ledger.trips → TripInside r' t := fun ht => he.tripInside (h t ht)
  cases he with
  | create input operatorId ledger s hl' hop hdriver htrips =>
    rw [htrips] at ht
    rcases List.mem_append.mp ht with ht | ht
    · exact hold ht
    · obtain rfl := List.mem_singleton.mp ht
      subst hl'
      refine ⟨hop ▸ hl.1, ?_⟩
      intro id hid
      rw [hop]
      exact hl.2 id (hdriver ▸ hid)
  | delete ledger hsub => exact hold (hsub t ht)
  | _ => exact hold ht

theorem checked_passed {next : WorkCall} {result : Except Thrown Unit}
    (h : WorkCall.checked r next result = (l', r')) (hnext : result = .ok () → next.Passed r) :
    l'.Passed r' := by
  cases result with
  | error e =>
    cases h
    trivial
  | ok u =>
    cases h
    exact hnext rfl

theorem after_passed {next : WorkCall} {result : Except Thrown WorkDB}
    (h : WorkCall.after r next result = (l', r')) (hnext : ∀ r, next.Passed r) :
    l'.Passed r' := by
  cases result with
  | error e =>
    cases h
    trivial
  | ok r₁ =>
    cases h
    exact hnext _

theorem approved_of_check {id : OperatorId}
    (h : checkOperator (r.onboard.findById id) = .ok ()) : Approved id r := by
  obtain ⟨op, hop, h⟩ := bind_eq_ok.mp h
  have hfind : r.onboard.operators.find? (fun op => op.id = id) = some op := orThrow_eq_ok.mp hop
  exact ⟨op, List.mem_of_find?_eq_some hfind, by simpa using List.find?_some hfind,
    by simpa using ensure_eq_ok.mp h⟩

theorem employs_of_check {operatorId : OperatorId} {id : DriverId}
    (h : checkActive (Drivers.findById id operatorId r.drivers) = .ok ()) :
    Drivers.Employs operatorId id r.drivers := by
  obtain ⟨d, hd, -⟩ := bind_eq_ok.mp h
  exact Drivers.employs_of_findById (orThrow_eq_ok.mp hd)

/-- **A call goes to the insert of a trip through its checks.** -/
theorem perform_passed (hl : l.Passed r) (h : WorkCall.perform l r x = some (l', r')) :
    l'.Passed r' := by
  cases l with
  | onboard call => cases h
  | done result => cases h
  | createTrip input operatorId =>
    refine checked_passed (Option.some.inj h) ?_
    intro hcheck
    have happroved := approved_of_check hcheck
    cases hdriver : input.driverId with
    | none => exact ⟨happroved, fun id hid => absurd (hdriver.symm.trans hid) (by simp)⟩
    | some driverId => exact ⟨happroved, hdriver⟩
  | checkDriver input operatorId driverId =>
    refine checked_passed (Option.some.inj h) ?_
    intro hcheck
    refine ⟨hl.1, ?_⟩
    intro id hid
    obtain rfl := Option.some.inj (hl.2.symm.trans hid)
    exact employs_of_check hcheck
  | insertDriver input operatorId => exact after_passed (Option.some.inj h) fun _ => trivial
  | writeQuote id data => exact after_passed (Option.some.inj h) fun _ => trivial
  | createWaybill data retry =>
    dsimp only [WorkCall.perform] at h
    split at h
    · split at h <;> cases h <;> trivial
    · cases h
      trivial
    · cases h
      trivial
  | _ =>
    dsimp only [WorkCall.perform] at h
    split at h <;> cases h <;> trivial

theorem step_passed (hl : l.Passed r) (h : WorkCall.step i l r x = some (l', r')) :
    l'.Passed r' := by
  unfold WorkCall.step at h
  split at h
  · obtain ⟨p, -, h⟩ := Option.map_eq_some_iff.mp h
    cases h
    trivial
  · cases h
  · split at h
    · cases h
      trivial
    · exact perform_passed hl h

/-- **The proof outline of the work.**  It needs nothing of the quotes. -/
theorem workOutline : workMachine.Outline (fun _ => True) (fun r => ∃ users, r = workStart users)
    (fun _ r => ∀ t ∈ r.ledger.trips, TripInside r t) (fun _ l r => l.Passed r) where
  init := by
    rintro r ⟨users, rfl⟩ t ht
    exact absurd ht (by simp [workStart])
  spawn _ _ _ _ h := h
  start n o r _ _ := by cases o <;> trivial
  shared n i x l r l' r' _ _ h hl hs := (step_effect hs).trips hl h
  self n i x l r l' r' _ _ _ hl hs := step_passed hl hs
  other n i x l r l' r' j m _ _ _ _ _ hm hs := (step_effect hs).passed hm
  env_shared n e := e.elim
  env_other n e := e.elim

end Runs

/-- **Trips stay inside in every run.** -/
theorem trips_inside {c : Config WorkDB WorkCall} (h : work.Reachable c) :
    ∀ t ∈ c.shared.ledger.trips, TripInside c.shared t :=
  (workOutline.invariant h.by_any).1

/-! ## Quotes -/

/-- A quote that is about to be written for a stored waybill and a stored operator names one that
is approved. -/
def QuotesApproved (c : Config WorkDB WorkCall) (a : Act WorkOp WorkInput Empty) : Prop :=
  ∀ (i : ℕ) (x : WorkInput) (id : WaybillId) (data : WaybillQuote), a = .run i x →
    x.fault = false → c.procs[i]? = some (.writeQuote id data) →
    (c.shared.findWaybill id).isSome = true →
    c.shared.hasOperator data.assignedOperatorId = true →
    Approved data.assignedOperatorId c.shared

variable {c c' : Config WorkDB WorkCall} {a : Act WorkOp WorkInput Empty}

/-- A quote that is written for an approved operator keeps the waybills inside. -/
theorem AssignedInside.next (hreach : work.Reachable c) (hin : AssignedInside c.shared)
    (hquote : QuotesApproved c a) (hs : work.step c a = some c') : AssignedInside c'.shared := by
  refine ⟨trips_inside (hreach.step hs), ?_⟩
  rcases Machine.next_cases hs with ⟨o, -, rfl⟩ | ⟨i, x, l, l', r', rfl, hi, hstep, rfl⟩ |
    ⟨e, -, -, -, -⟩
  · exact hin.waybills
  · have he := step_effect hstep
    intro w hw o ho
    have hold : w ∈ c.shared.waybills → Approved o r' := fun hw =>
      he.approved (hin.waybills w hw o ho)
    cases he with
    | request v events hv =>
      rcases List.mem_append.mp hw with hw | hw
      · exact hold hw
      · rw [List.mem_singleton.mp hw, hv] at ho
        cases ho
    | quote id data events hl hfault hfound hop =>
      obtain ⟨v, hv, rfl⟩ := Table.mem_updateMany.mp hw
      split at ho
      · cases ho
        exact hquote i x id data rfl hfault (hl ▸ hi) hfound hop
      · exact hin.waybills v hv o ho
    | _ => exact hold hw
  · exact e.elim

/-- Any other quote takes a waybill outside. -/
theorem exists_outside (hquote : ¬ QuotesApproved c a) :
    ∃ c', work.step c a = some c' ∧ ¬ AssignedInside c'.shared := by
  unfold QuotesApproved at hquote
  push Not at hquote
  obtain ⟨i, x, id, data, rfl, hfault, hi, hfound, hop, hnot⟩ := hquote
  have hsend : c.shared.sendQuote id data x.now = .ok { c.shared with
      waybills :=
        Table.updateMany (fun w => w.id == id) (Waybills.sendQuote data x.now) c.shared.waybills
      events := c.shared.events ++ [(id, Waybills.quoteEvent data x.now)] } := by
    rw [WorkDB.sendQuote, hfound, hop]
    rfl
  have hstep : WorkCall.step i (.writeQuote id data) c.shared x =
      some (WorkCall.after c.shared (.refetchWaybill id) (c.shared.sendQuote id data x.now)) := by
    simp only [WorkCall.step, hfault]
    rfl
  rw [hsend] at hstep
  refine ⟨_, Machine.next_run.mpr ⟨_, _, _, hi, hstep, rfl⟩, ?_⟩
  obtain ⟨w, hw⟩ := Option.isSome_iff_exists.mp hfound
  obtain ⟨hmem, hid⟩ := Table.mem_of_find? hw
  intro hin
  have hquoted := Table.mem_updateMany_of_mem (p := fun w => w.id == id)
    (f := Waybills.sendQuote data x.now) hmem
  rw [if_pos (beq_iff_eq.mpr hid)] at hquoted
  exact hnot (hin.waybills _ hquoted _ rfl)

/-- **The runs that assign work inside approved companies.**  They are those whose quotes name
approved operators. -/
theorem work_assigned_iff (users : List User) (acts : List (Act WorkOp WorkInput Empty)) :
    work.AllSteps QuotesApproved ⟨workStart users, []⟩ acts ↔
      ∀ m ∈ work.trace ⟨workStart users, []⟩ acts, AssignedInside m.shared := by
  refine System.allSteps_iff_forall_trace (S := work)
    (P := fun m : Config WorkDB WorkCall => AssignedInside m.shared) ?_ ?_
    (System.Reachable.of_init ⟨⟨users, rfl⟩, rfl⟩) ?_
  · exact fun _ _ _ hreach hin hquote hs => hin.next hreach hquote hs
  · exact fun _ _ _ hquote => exists_outside hquote
  · refine ⟨?_, ?_⟩
    · intro t ht
      exact absurd ht (by simp [workStart])
    · intro w hw
      exact absurd hw (by simp [workStart])

/-! ## A quote for an applicant -/

/-- A step that goes through. -/
def plain (uuid : ℕ) : WorkInput := ⟨⟨false, 1000, uuid, "temp", 0⟩, fun i => i, uuid⟩

/-- A company applies, a customer sends a parcel, and the admin quotes for that company. -/
def quoteForApplicant : List (Act WorkOp WorkInput Empty) :=
  [.spawn (.onboard (.registerOperator Accounts.swift)), .run 0 (plain 3), .run 0 (plain 3),
    .spawn (.createWaybill ⟨0, 7, "Ada", "08032222222", "Obi", "08033333333", "Oyo", "Aba"⟩),
    .run 1 (plain 1), .spawn (.sendQuote 1 ⟨3, 4500, none⟩), .run 2 (plain 0), .run 2 (plain 0)]

/-- The parcel is assigned to a company that nobody has approved. -/
theorem work_quoteForApplicant : ∃ c, work.run ⟨workStart [], []⟩ quoteForApplicant = some c ∧
    (c.shared.onboard.operators.map fun op => (op.id, op.status)) = [(3, .pending)] ∧
    (c.shared.waybills.map Waybill.assignedOperatorId) = [some 3] ∧ ¬ AssignedInside c.shared := by
  refine ⟨_, rfl, rfl, rfl, ?_⟩
  intro hin
  obtain ⟨op, hop, -, hst⟩ := hin.waybills _ List.mem_cons_self 3 rfl
  rw [List.mem_singleton.mp hop] at hst
  cases hst

end Fleet
end TransHub
