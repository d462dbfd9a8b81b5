import TransHub.Accounts.SingleUse
import TransHub.Fleet.Assignment
import TransHub.Foundation.Provenance
import TransHub.Shared.Access

/-!
# Accounts, sessions and passwords

The calls that read or write who somebody is, together: signing up and the onboarding of
operators, the drivers, password resets, and

* `login`, `driverLogin` and `me` of `auth.service`,
* `updateProfile` and `changePassword` of `users.service`,

one step for each statement on the database.  Tokens are signed in the step that has read the
row they are made from.

* `Claims`, `claimsOf`, `driverClaims`: what a token says.
* `Verify`, `Verify.Sound`: the package `argon2`, as far as the calls rely on it.
* `IdentityDB`: the tables and, as histories, the claims signed and the passwords written.
* `IdentityCall.step`, `identity`: the calls and any number of them at a time.
-/

namespace TransHub
namespace Identity

open Accounts Fleet

/-! ## What a token says -/

/-- `AuthUser` of `types/auth`, the claims of a token; the guards read the part that is in
`toAuthUser`. -/
structure Claims extends AuthUser where
  email : Option Email := none
  fullName : String
  phone : String
  deriving DecidableEq, Repr

/-- `usersService.toAuthUser`. -/
def claimsOf (user : User) : Claims where
  id := user.id
  email := some user.email
  fullName := user.fullName
  phone := user.phone
  role := user.role
  operatorId := user.operatorId

/-- The `AuthUser` of a driver, in `verifyCredentials` and `getAuthUserById`: it has no email. -/
def driverClaims (driver : DriverDTO) : Claims where
  id := driver.id
  fullName := driver.fullName
  phone := driver.phone
  role := .driver
  operatorId := some driver.operatorId

/-- `SafeUser`: a row of `users` without its password. -/
structure SafeUser where
  id : UserId
  email : Email
  fullName : String
  phone : String
  role : Role
  operatorId : Option OperatorId
  deriving DecidableEq, Repr

def toSafeUser (user : User) : SafeUser where
  id := user.id
  email := user.email
  fullName := user.fullName
  phone := user.phone
  role := user.role
  operatorId := user.operatorId

/-- `argon2.verify`, which the services are given; false where it throws. -/
abbrev Verify := PasswordHash → String → Bool

/-- A hash is verified by no password but the one it was made from. -/
def Verify.Sound (verify : Verify) : Prop :=
  ∀ hash password, verify hash password = true → hash.password = password

/-- The hash that is checked when there is no account. -/
def dummyHash : PasswordHash := ⟨"noop", 0⟩

/-! ## The tables -/

/-- A password, written for an account by a call that presented the one before, by a reset
link, or with the account itself. -/
abbrev PasswordWrite := Provenance.Write UserId String TokenHash

/-- The tables of the other services and of password resets, and, as histories, the claims of
the tokens that have been signed and the passwords that have been written. -/
structure IdentityDB where
  work : WorkDB
  tokens : List PasswordResetToken
  resets : List PasswordResetRequested
  grants : List (Grants.Event UserId TokenHash)
  signed : List Claims
  passwords : List PasswordWrite

/-- `UpdateProfileInput`; the `data` that is written has the columns by their names. -/
structure UpdateProfileInput where
  name : Option String := none
  email : Option Email := none
  phone : Option String := none
  deriving DecidableEq, Repr

/-- The `data` of `updateProfile`. -/
structure ProfileData where
  fullName : Option String := none
  email : Option Email := none
  phone : Option String := none
  deriving DecidableEq, Repr

/-- A row after `updateProfile`. -/
def ProfileData.patch (data : ProfileData) (user : User) : User :=
  { user with
    fullName := data.fullName.getD user.fullName
    email := data.email.getD user.email
    phone := data.phone.getD user.phone }

namespace IdentityDB

variable (r : IdentityDB)

def users : List User := r.work.onboard.users

def withUsers (users : List User) : IdentityDB :=
  { r with work := { r.work with onboard := { r.work.onboard with users } } }

/-- What the calls of `auth.service` that reset passwords see. -/
def resetDB : ResetDB := ⟨r.users, r.tokens, r.resets, r.grants⟩

def withResetDB (s : ResetDB) : IdentityDB :=
  { r.withUsers s.users with tokens := s.tokens, resets := s.emitted, grants := s.log }

def findByEmail (email : Email) : Option User := r.users.find? fun u => u.email = email

def findById (id : UserId) : Option User := r.users.find? fun u => u.id = id

/-- `signAccessToken`. -/
def sign (claims : Claims) : IdentityDB := { r with signed := claims :: r.signed }

def record (w : PasswordWrite) : IdentityDB := { r with passwords := w :: r.passwords }

/-- The row that `updateProfile` writes clashes with another one. -/
def clashes (user : User) : Bool := r.users.any fun u => u.id != user.id && u.clash user

def updateUser (id : UserId) (f : User → User) : IdentityDB :=
  r.withUsers (Table.updateMany (fun u => u.id == id) f r.users)

end IdentityDB

/-! ## The calls -/

/-- How a call ends.  `auth` is `AuthResult`, `profile` is `UpdatedProfile`. -/
inductive IdentityOutcome where
  | auth (token : Claims)
  | profile (user : SafeUser) (token : Claims)
  | me (user : Claims)
  | returned
  | thrown (e : Thrown)
  deriving DecidableEq

/-- Where a call of `updateProfile` stands. -/
inductive ProfilePc where
  | find
  | checkEmail (data : ProfileData) (email : Email)
  | write (data : ProfileData)
  deriving DecidableEq

/-- Where a call of `changePassword` stands. -/
inductive PasswordPc where
  | find
  | write
  deriving DecidableEq

inductive IdentityCall where
  | work (l : WorkCall)
  | reset (l : ResetCall)
  | login (email : Email) (password : String)
  | driverLogin (phone : String) (password : String)
  | me (userId : UserId) (role : Role)
  | updateProfile (userId : UserId) (input : UpdateProfileInput) (pc : ProfilePc)
  | changePassword (userId : UserId) (currentPassword newPassword : String) (pc : PasswordPc)
  | done (o : IdentityOutcome)

/-- What is called. -/
inductive IdentityOp where
  | work (o : WorkOp)
  | reset (o : ResetOp)
  | login (email : Email) (password : String)
  | driverLogin (phone : String) (password : String)
  | me (userId : UserId) (role : Role)
  | updateProfile (userId : UserId) (input : UpdateProfileInput)
  | changePassword (userId : UserId) (currentPassword newPassword : String)

/-- What the outside world decides in a step, with the random token of a reset link. -/
structure IdentityInput extends WorkInput where
  rawToken : RawToken

def IdentityInput.toResetInput (x : IdentityInput) : ResetInput :=
  ⟨x.fault, x.now, x.rawToken, x.salt⟩

/-- The account that a step of the other services has opened. -/
def openedBy : WorkCall → WorkCall → Option User
  | .onboard (.register _ .create), .onboard (.register _ (.done (.user u))) => some u
  | .onboard (.approve _ (.commit _ _ u)), .onboard (.approve _ (.refetch _ _)) => some u
  | _, _ => none

/-- The account whose token `register` signs. -/
def registeredBy : WorkCall → WorkCall → Option User
  | .onboard (.register _ .create), .onboard (.register _ (.done (.user u))) => some u
  | _, _ => none

/-- The password that a step of `resetPassword` has written. -/
def resetBy : ResetCall → ResetCall → Option PasswordWrite
  | .redeem _ newPassword (.write token), .redeem _ _ (.purge _) =>
      some ⟨token.userId, newPassword, .granted token.tokenHash⟩
  | _, _ => none

namespace IdentityDB

/-- The histories after a step of the other services. -/
def afterWork (r : IdentityDB) (l l' : WorkCall) (work : WorkDB) : IdentityDB :=
  { r with
    work
    signed := ((registeredBy l l').map claimsOf).toList ++ r.signed
    passwords := ((openedBy l l').map fun u =>
      ⟨u.id, u.password.password, .opened⟩).toList ++ r.passwords }

/-- The history of passwords after a step of a reset. -/
def afterReset (r : IdentityDB) (l l' : ResetCall) (s : ResetDB) : IdentityDB :=
  { r.withResetDB s with passwords := (resetBy l l').toList ++ r.passwords }

end IdentityDB

namespace IdentityCall

def thrown (e : Thrown) : IdentityCall := .done (.thrown e)

/-- `authService.login`. -/
def stepLogin (verify : Verify) (email : Email) (password : String) (r : IdentityDB) :
    IdentityCall × IdentityDB :=
  let user := r.findByEmail email
  let passwordValid := verify ((user.map User.password).getD dummyHash) password
  match user with
  | some user =>
      if passwordValid then (.done (.auth (claimsOf user)), r.sign (claimsOf user))
      else (thrown (.app (.unauthorizedError "Invalid email or password")), r)
  | none => (thrown (.app (.unauthorizedError "Invalid email or password")), r)

/-- `driverLogin`, with `driversService.verifyCredentials`. -/
def stepDriverLogin (verify : Verify) (phone password : String) (r : IdentityDB) :
    IdentityCall × IdentityDB :=
  let row := Drivers.findByPhone phone r.work.drivers
  let valid := verify ((row.map Driver.password).getD dummyHash) password
  match row with
  | some row =>
      if !valid then (thrown (.app (.unauthorizedError "Invalid phone number or password")), r)
      else if !row.isActive then
        (thrown (.app (.unauthorizedError "Driver account has been deactivated")), r)
      else (.done (.auth (driverClaims row.toDriverDTO)), r.sign (driverClaims row.toDriverDTO))
  | none => (thrown (.app (.unauthorizedError "Invalid phone number or password")), r)

/-- `authService.me`, with `driversService.getAuthUserById`. -/
def stepMe (userId : UserId) (role : Role) (r : IdentityDB) : IdentityCall :=
  if role = .driver then
    match Drivers.findUnique userId r.work.drivers with
    | none => thrown (.app (.unauthorizedError "Driver account no longer exists"))
    | some driver =>
        if driver.isActive then .done (.me (driverClaims driver))
        else thrown (.app (.unauthorizedError "Driver account has been deactivated"))
  else
    match r.findById userId with
    | none => thrown (.app (.unauthorizedError "Account no longer exists"))
    | some user => .done (.me (claimsOf user))

/-- The next step of the `i`-th call, one of `updateProfile`.  The write waits for the insert of
another open transaction that has the new email, and the database refuses it when a committed
row has. -/
def stepProfile (i : ℕ) (userId : UserId) (input : UpdateProfileInput) (pc : ProfilePc)
    (r : IdentityDB) : Option (IdentityCall × IdentityDB) :=
  match pc with
  | .find => match r.findById userId with
      | none => some (thrown (.app (.notFoundError "User not found")), r)
      | some current =>
          let data : ProfileData := { fullName := input.name, phone := input.phone }
          match input.email with
          | none => some (.updateProfile userId input (.write data), r)
          | some email =>
              if email = current.email then some (.updateProfile userId input (.write data), r)
              else some (.updateProfile userId input (.checkEmail data email), r)
  | .checkEmail data email => match r.findByEmail email with
      | some _ => some (thrown (.app (.conflictError "That email is already in use")), r)
      | none => some (.updateProfile userId input (.write { data with email := some email }), r)
  | .write data => match r.findById userId with
      | none => some (thrown (.db .failed), r)
      | some user =>
          let updated := data.patch user
          if data.email.isSome && r.work.onboard.insertedByOther i updated then none
          else if data.email.isSome && r.clashes updated then
            some (thrown (.db .uniqueViolation), r)
          else some (.done (.profile (toSafeUser updated) (claimsOf updated)),
            (r.updateUser userId data.patch).sign (claimsOf updated))

/-- The next step of a call of `changePassword`. -/
def stepPassword (verify : Verify) (userId : UserId) (currentPassword newPassword : String)
    (pc : PasswordPc) (r : IdentityDB) (salt : ℕ) : IdentityCall × IdentityDB :=
  match pc with
  | .find => match r.findById userId with
      | none => (thrown (.app (.notFoundError "User not found")), r)
      | some user =>
          if verify user.password currentPassword then
            (.changePassword userId currentPassword newPassword .write, r)
          else (thrown (.app (.validationError "Current password is incorrect")), r)
  | .write => match r.findById userId with
      | none => (thrown (.db .failed), r)
      | some _ => (.done .returned,
          (r.updateUser userId fun u => { u with password := ⟨newPassword, salt⟩ }).record
            ⟨userId, newPassword, .presented currentPassword⟩)

/-- The next step of a call whose statement does not fail. -/
def perform (verify : Verify) (i : ℕ) (l : IdentityCall) (r : IdentityDB)
    (x : IdentityInput) : Option (IdentityCall × IdentityDB) :=
  match l with
  | .work _ => none
  | .reset _ => none
  | .done _ => none
  | .login email password => some (stepLogin verify email password r)
  | .driverLogin phone password => some (stepDriverLogin verify phone password r)
  | .me userId role => some (stepMe userId role r, r)
  | .updateProfile userId input pc => stepProfile i userId input pc r
  | .changePassword userId currentPassword newPassword pc =>
      some (stepPassword verify userId currentPassword newPassword pc r x.salt)

/-- The next step of the `i`-th call. -/
def step (verify : Verify) (hashResetToken : RawToken → TokenHash) (i : ℕ) (l : IdentityCall)
    (r : IdentityDB) (x : IdentityInput) : Option (IdentityCall × IdentityDB) :=
  match l with
  | .work l => (l.step i r.work x.toWorkInput).map fun p => (.work p.1, r.afterWork l p.1 p.2)
  | .reset l => (l.step hashResetToken i r.resetDB x.toResetInput).map fun p =>
      (.reset p.1, r.afterReset l p.1 p.2)
  | .done _ => none
  | l => if x.fault then some (thrown (.db .failed), r) else perform verify i l r x

end IdentityCall

/-- Calls of the services; nothing else writes their tables here. -/
def identityMachine (verify : Verify) (hashResetToken : RawToken → TokenHash) :
    Machine IdentityDB IdentityCall IdentityOp IdentityInput Empty where
  start
    | .work o => .work (workMachine.start o)
    | .reset o => .reset ((resetMachine hashResetToken).start o)
    | .login email password => .login email password
    | .driverLogin phone password => .driverLogin phone password
    | .me userId role => .me userId role
    | .updateProfile userId input => .updateProfile userId input .find
    | .changePassword userId currentPassword newPassword =>
        .changePassword userId currentPassword newPassword .find
  step := IdentityCall.step verify hashResetToken
  env _ e := e.elim

/-- The passwords that accounts begin with. -/
def openings (users : List User) : List PasswordWrite :=
  users.map fun u => ⟨u.id, u.password.password, .opened⟩

/-- Some accounts, of no operator, and no token signed or sent. -/
def identityStart (users : List User) : IdentityDB where
  work := workStart users
  tokens := []
  resets := []
  grants := []
  signed := []
  passwords := openings users

/-- Runs of calls that start so. -/
def identity (verify : Verify) (hashResetToken : RawToken → TokenHash) :
    System (Config IdentityDB IdentityCall) (Act IdentityOp IdentityInput Empty) :=
  (identityMachine verify hashResetToken).system fun r => ∃ users, Table.Unique User.clash users ∧
    (∀ u ∈ users, u.operatorId = none) ∧ r = identityStart users

end Identity
end TransHub
