import TransHub.Fleet.Vehicles
import TransHub.Foundation.Owners
import TransHub.Identity.Authority

/-!
# Requests that write the property of operators

The routes of `trips`, `drivers` and `vehicles` that write, from the token in the header on:
`authenticate`, `requireRole`, the check of the controller, and then the service, one step for
each statement.  They run beside the calls that sign tokens, over the same tables.

* `ResourceOp.admit`: the guards of a route and of its controller, and the call they let through.
* `TripCall.step`, `ServiceCall.step`: the services.
* `ApiCall.step`, `api`: any number of requests and other calls at a time.
-/

namespace TransHub
namespace Tenants

open Accounts Fleet Identity

/-! ## What is asked for -/

/-- A request for a route that writes, with its validated body. -/
inductive ResourceOp where
  | createTrip (input : TripData)
  | toggleActive (id : TripId) (isActive : Bool)
  | removeTrip (id : TripId)
  | markFull (id : TripId) (isFull : Bool)
  | setOfflineCount (id : TripId) (offlineCount : ℕ)
  | createDriver (input : CreateDriverInput)
  | updateDriver (id : DriverId) (data : UpdateDriverInput)
  | deactivateDriver (id : DriverId)
  | addVehicle (data : CreateVehicleInput)
  | updateVehicle (id : VehicleId) (data : UpdateVehicleInput)
  | removeVehicle (id : VehicleId)

/-- The calls on the routes that do not write trips, drivers or vehicles. -/
inductive OtherOp where
  | onboard (o : OnboardOp)
  | createWaybill (data : WaybillRequest)
  | sendQuote (id : WaybillId) (data : WaybillQuote)
  | reset (o : ResetOp)
  | login (email : Email) (password : String)
  | driverLogin (phone : String) (password : String)
  | me (userId : UserId) (role : Role)
  | updateProfile (userId : UserId) (input : UpdateProfileInput)
  | changePassword (userId : UserId) (currentPassword newPassword : String)

def OtherOp.toIdentityOp : OtherOp → IdentityOp
  | .onboard o => .work (.onboard o)
  | .createWaybill data => .work (.createWaybill data)
  | .sendQuote id data => .work (.sendQuote id data)
  | .reset o => .reset o
  | .login email password => .login email password
  | .driverLogin phone password => .driverLogin phone password
  | .me userId role => .me userId role
  | .updateProfile userId input => .updateProfile userId input
  | .changePassword userId currentPassword newPassword =>
      .changePassword userId currentPassword newPassword

/-! ## The services -/

/-- Where a call of `setOfflineCount` stands. -/
inductive OfflinePc where
  | find
  | count (current : Trips.TripDTO)
  | write (autoFull : Bool)
  deriving DecidableEq

/-- Where a call that edits a trip stands. -/
inductive TripCall where
  | toggleActive (id : TripId) (operatorId : OperatorId) (isActive : Bool)
  | markFull (id : TripId) (operatorId : Option OperatorId) (role : Role) (isFull : Bool)
      (driverId : Option DriverId)
  | setOfflineCount (id : TripId) (operatorId : Option OperatorId) (role : Role)
      (offlineCount : ℕ) (driverId : Option DriverId) (pc : OfflinePc)
  | refetch (id : TripId)
  | done (result : Except Thrown Trips.TripDTO)

namespace TripCall

def thrown (e : Thrown) : TripCall := .done (.error e)

/-- After the `updateMany` of an edit, which is an error when it matches no row. -/
def edited (id : TripId) (db : DB) : Except Thrown DB → TripCall × DB
  | .error e => (thrown e, db)
  | .ok db' => (.refetch id, db')

/-- The next step of a call whose statement does not fail. -/
def perform (l : TripCall) (db : DB) : Option (TripCall × DB) :=
  match l with
  | .done _ => none
  | .toggleActive id operatorId isActive =>
      some (edited id db (Trips.toggleActive id operatorId isActive db))
  | .markFull id operatorId role isFull driverId =>
      some (edited id db (Trips.markFull id operatorId role isFull driverId db))
  | .setOfflineCount id operatorId role offlineCount driverId pc => match pc with
      | .find => match Trips.findById id db with
          | none => some (thrown (.app (.notFoundError "Trip not found")), db)
          | some current =>
              if offlineCount ≤ current.totalSeats then
                some (.setOfflineCount id operatorId role offlineCount driverId (.count current),
                  db)
              else some (thrown (.app
                (.conflictError "Offline count cannot exceed total seats")), db)
      | .count current =>
          let dbAvailable := Trips.countAvailableSeats id db.seats
          let effectiveAvailable : ℤ := (dbAvailable : ℤ) - offlineCount
          let autoFull := decide (effectiveAvailable ≤ 0) && !current.isFull
          some (.setOfflineCount id operatorId role offlineCount driverId (.write autoFull), db)
      | .write autoFull => some (edited id db
          (Trips.editTrip ((Trips.ownerFilter role operatorId driverId).matches id)
            (fun t => { t with offlineCount, isFull := if autoFull then true else t.isFull }) db))
  | .refetch id => match Trips.findById id db with
      | none => some (thrown (.app (.notFoundError "Trip not found")), db)
      | some trip => some (.done (.ok trip), db)

end TripCall

/-- The tables: those of the other services, and the vehicles. -/
structure ApiDB where
  identity : IdentityDB
  vehicles : List Vehicle

namespace ApiDB

variable (r : ApiDB)

def users : List User := r.identity.users

def drivers : List Driver := r.identity.work.drivers

def trips : List Trip := r.identity.work.ledger.trips

/-- What `vehicles.service` sees. -/
def fleetDB : FleetDB := ⟨r.identity.work.onboard.operators.map Operator.id, r.vehicles⟩

def withLedger (ledger : DB) : ApiDB :=
  { r with identity := { r.identity with work := { r.identity.work with ledger } } }

end ApiDB

/-- What the outside world decides in a step. -/
structure ApiInput extends IdentityInput where
  vehicleUuid : VehicleId

def ApiInput.toFleetInput (x : ApiInput) : FleetInput := ⟨x.fault, x.vehicleUuid⟩

/-- A call of a service, past the guards of its route. -/
inductive ServiceCall where
  | work (l : WorkCall)
  | trip (l : TripCall)
  | fleet (l : FleetCall)
  | refused (e : Thrown)

/-- The next step of the `i`-th call. -/
def ServiceCall.step (i : ℕ) (l : ServiceCall) (r : ApiDB) (x : ApiInput) :
    Option (ServiceCall × ApiDB) :=
  match l with
  | .work l => (l.step i r.identity.work x.toWorkInput).map fun p =>
      (.work p.1, { r with identity := r.identity.afterWork l p.1 p.2 })
  | .trip l =>
      if x.fault then some (.trip (.thrown (.db .failed)), r)
      else (l.perform r.identity.work.ledger).map fun p => (.trip p.1, r.withLedger p.2)
  | .fleet l => (l.step r.fleetDB x.toFleetInput).map fun p =>
      (.fleet p.1, { r with vehicles := p.2.vehicles })
  | .refused _ => none

/-! ## The guards -/

/-- `req.user?.operatorId`, or the error of the controllers of trips and vehicles. -/
def linkedOperator (user : AuthUser) : Except Thrown OperatorId :=
  orThrow user.operatorId
    (.app (.forbiddenError "Your account is not linked to an operator profile"))

/-- The same in the controller of drivers. -/
def employer (user : AuthUser) : Except Thrown OperatorId :=
  orThrow user.operatorId (.app (.forbiddenError "No operator profile linked to this account"))

/-- The check of `markFull` and `setOfflineCount`. -/
def checkLinked (user : AuthUser) : Except Thrown Unit :=
  ensure (user.role == .admin || user.role == .driver || user.operatorId.isSome)
    (.app (.forbiddenError "Your account is not linked to an operator profile"))

/-- `role === "driver" ? req.user!.id : undefined`. -/
def driverIdOf (user : AuthUser) : Option DriverId :=
  if user.role = .driver then some user.id else none

/-- A route for operators alone. -/
def operatorOnly (user : AuthUser) (operatorId : AuthUser → Except Thrown OperatorId)
    (call : OperatorId → ServiceCall) : Except Thrown ServiceCall := do
  requireRole [.operator] user
  let operatorId ← operatorId user
  .ok (call operatorId)

/-- A route on the load of a trip, which drivers and admins have as well. -/
def loadOf (user : AuthUser) (call : TripCall) : Except Thrown ServiceCall := do
  requireRole [.operator, .admin, .driver] user
  checkLinked user
  .ok (.trip call)

/-- The guards of a route and of its controller, and the call of the service. -/
def ResourceOp.admit (user : AuthUser) : ResourceOp → Except Thrown ServiceCall
  | .createTrip input => operatorOnly user linkedOperator fun o => .work (.createTrip input o)
  | .toggleActive id isActive =>
      operatorOnly user linkedOperator fun o => .trip (.toggleActive id o isActive)
  | .removeTrip id => operatorOnly user linkedOperator fun o => .work (.deleteTrip id o)
  | .markFull id isFull =>
      loadOf user (.markFull id user.operatorId user.role isFull (driverIdOf user))
  | .setOfflineCount id offlineCount => loadOf user
      (.setOfflineCount id user.operatorId user.role offlineCount (driverIdOf user) .find)
  | .createDriver input => operatorOnly user employer fun o => .work (.createDriver input o)
  | .updateDriver id data => operatorOnly user employer fun o => .work (.updateDriver id o data)
  | .deactivateDriver id => operatorOnly user employer fun o => .work (.deactivateDriver id o)
  | .addVehicle data => operatorOnly user linkedOperator fun o => .fleet (.addVehicle o data)
  | .updateVehicle id data =>
      operatorOnly user linkedOperator fun o => .fleet (.updateVehicle id o data)
  | .removeVehicle id => operatorOnly user linkedOperator fun o => .fleet (.removeVehicle id o)

/-! ## The requests -/

/-- A request that has arrived with a token, or is served by now, or another call. -/
inductive ApiCall where
  | other (l : IdentityCall)
  | received (token : Claims) (op : ResourceOp)
  | serving (token : Claims) (l : ServiceCall)

/-- What is sent to the server.  A request may carry any token. -/
inductive ApiOp where
  | other (o : OtherOp)
  | request (token : Claims) (op : ResourceOp)

/-- The guards, as one step.  `authenticate` accepts the tokens that have been signed. -/
def receive (token : Claims) (op : ResourceOp) (r : ApiDB) : ServiceCall :=
  if r.identity.signed.contains token then
    match op.admit token.toAuthUser with
    | .error e => .refused e
    | .ok l => l
  else .refused (.app (.unauthorizedError "Invalid or expired token"))

/-- The next step of the `i`-th call. -/
def ApiCall.step (verify : Verify) (hashResetToken : RawToken → TokenHash) (i : ℕ)
    (l : ApiCall) (r : ApiDB) (x : ApiInput) : Option (ApiCall × ApiDB) :=
  match l with
  | .other l => (l.step verify hashResetToken i r.identity x.toIdentityInput).map fun p =>
      (.other p.1, { r with identity := p.2 })
  | .received token op => some (.serving token (receive token op r), r)
  | .serving token l => (l.step i r x).map fun p => (.serving token p.1, p.2)

/-- Requests and other calls; nothing else writes these tables here. -/
def apiMachine (verify : Verify) (hashResetToken : RawToken → TokenHash) :
    Machine ApiDB ApiCall ApiOp ApiInput Empty where
  start
    | .other o => .other ((identityMachine verify hashResetToken).start o.toIdentityOp)
    | .request token op => .received token op
  step := ApiCall.step verify hashResetToken
  env _ e := e.elim

/-- Some accounts, and no operator or token yet. -/
def api (verify : Verify) (hashResetToken : RawToken → TokenHash) :
    System (Config ApiDB ApiCall) (Act ApiOp ApiInput Empty) :=
  (apiMachine verify hashResetToken).system fun r => ∃ users, Table.Unique User.clash users ∧
    (∀ u ∈ users, u.operatorId = none) ∧ r = ⟨identityStart users, []⟩

end Tenants
end TransHub
