import TransHub.Accounts.Schema
import TransHub.Foundation.Grants
import TransHub.Foundation.Machine
import TransHub.Shared.Errors

/-!
# Password resets

`requestPasswordReset` and `resetPassword` of `auth.service`, one step for each call of a
repository.  A step may fail, which ends its call, so a call may stop after any of them.

* `RequestPc`, `RedeemPc`, `ResetCall`: the calls and where they stand.
* `ResetCall.step`: their steps.
* `resetMachine`, `resets`: any number of calls over the two tables.
-/

namespace TransHub
namespace Accounts

/-- The token that is emailed: 32 random bytes. -/
abbrev RawToken := ℕ

/-- `PASSWORD_RESET_TTL_MS`. -/
def passwordResetTtlMs : Time := 60 * 60 * 1000

/-- The payload of `auth.password_reset_requested`; the URL is given by its token. -/
structure PasswordResetRequested where
  email : Email
  fullName : String
  resetUrl : RawToken
  deriving DecidableEq

/-- The two tables, what has been emitted, and, as a history, which tokens have been
issued, looked up and used. -/
structure ResetDB where
  users : List User
  tokens : List PasswordResetToken
  emitted : List PasswordResetRequested
  log : List (Grants.Event UserId TokenHash)

namespace ResetDB

/-- `findByEmail`. -/
def findByEmail (email : Email) (r : ResetDB) : Option User :=
  r.users.find? fun u => u.email = email

/-- `deleteResetTokensForUser`. -/
def deleteResetTokensForUser (userId : UserId) (r : ResetDB) : ResetDB :=
  { r with tokens := Table.deleteMany (fun row => row.userId == userId) r.tokens }

/-- `createResetToken`. -/
def createResetToken (row : PasswordResetToken) (r : ResetDB) : Except Thrown ResetDB := do
  ensure (r.users.any fun u => u.id == row.userId) (.db .foreignKeyViolation)
  let tokens ← orThrow (Table.insert PasswordResetToken.clash r.tokens row) (.db .uniqueViolation)
  .ok { r with tokens, log := .issued row.userId row.tokenHash :: r.log }

/-- `findResetTokenByHash`. -/
def findResetTokenByHash (tokenHash : TokenHash) (r : ResetDB) : Option PasswordResetToken :=
  r.tokens.find? fun row => row.tokenHash = tokenHash

/-- `updatePassword`, by call `i`. -/
def updatePassword (i : ℕ) (row : PasswordResetToken) (passwordHash : PasswordHash)
    (r : ResetDB) : Except Thrown ResetDB := do
  ensure (r.users.any fun u => u.id == row.userId) (.db .failed)
  .ok { r with
    users := Table.updateMany (fun u => u.id == row.userId)
      (fun u => { u with password := passwordHash }) r.users
    log := .redeemed i row.userId row.tokenHash :: r.log }

end ResetDB

/-- How a call ends. -/
inductive ResetOutcome where
  | returned
  | thrown (e : Thrown)
  deriving DecidableEq

/-- Where a call of `requestPasswordReset` stands. -/
inductive RequestPc where
  | find
  | delete (user : User) (rawToken : RawToken) (expiresAt : Time)
  | create (user : User) (rawToken : RawToken) (expiresAt : Time)
  | emit (user : User) (rawToken : RawToken)
  | done (o : ResetOutcome)
  deriving DecidableEq

/-- Where a call of `resetPassword` stands. -/
inductive RedeemPc where
  | lookUp
  | write (token : PasswordResetToken)
  | purge (token : PasswordResetToken)
  | done (o : ResetOutcome)
  deriving DecidableEq

inductive ResetCall where
  | request (email : Email) (pc : RequestPc)
  | redeem (rawToken : RawToken) (newPassword : String) (pc : RedeemPc)
  deriving DecidableEq

/-- What is called. -/
inductive ResetOp where
  | requestPasswordReset (email : Email)
  | resetPassword (rawToken : RawToken) (newPassword : String)

/-- What the outside world decides in a step: whether it fails, the clock, the random
token and the salt. -/
structure ResetInput where
  fault : Bool
  now : Time
  rawToken : RawToken
  salt : ℕ

/-- A row that `resetPassword` accepts. -/
def PasswordResetToken.valid (row : PasswordResetToken) (now : Time) : Bool :=
  row.usedAt.isNone && !decide (row.expiresAt < now)

/-- The one error of `resetPassword` for every token it does not accept. -/
def invalid : Thrown :=
  .app ⟨.validation, 400, "This password reset link is invalid or has expired", "VALIDATION_ERROR"⟩

namespace ResetCall

/-- The next step of a call of `requestPasswordReset`. -/
def stepRequest (hashResetToken : RawToken → TokenHash) (pc : RequestPc) (email : Email)
    (r : ResetDB) (x : ResetInput) : Option (RequestPc × ResetDB) :=
  match pc with
  | .done _ => none
  | .find =>
      if x.fault then some (.done (.thrown (.db .failed)), r)
      else match r.findByEmail email with
        | none => some (.done .returned, r)
        | some user => some (.delete user x.rawToken (x.now + passwordResetTtlMs), r)
  | .delete user rawToken expiresAt =>
      if x.fault then some (.done (.thrown (.db .failed)), r)
      else some (.create user rawToken expiresAt, r.deleteResetTokensForUser user.id)
  | .create user rawToken expiresAt =>
      if x.fault then some (.done (.thrown (.db .failed)), r)
      else match r.createResetToken
          { userId := user.id, tokenHash := hashResetToken rawToken, expiresAt } with
        | .error e => some (.done (.thrown e), r)
        | .ok r' => some (.emit user rawToken, r')
  | .emit user rawToken =>
      if x.fault then some (.done (.thrown (.db .failed)), r)
      else some (.done .returned,
        { r with emitted := ⟨user.email, user.fullName, rawToken⟩ :: r.emitted })

/-- The next step of the `i`-th call, one of `resetPassword`. -/
def stepRedeem (hashResetToken : RawToken → TokenHash) (i : ℕ) (pc : RedeemPc)
    (rawToken : RawToken) (newPassword : String) (r : ResetDB) (x : ResetInput) :
    Option (RedeemPc × ResetDB) :=
  match pc with
  | .done _ => none
  | .lookUp =>
      if x.fault then some (.done (.thrown (.db .failed)), r)
      else match r.findResetTokenByHash (hashResetToken rawToken) with
        | none => some (.done (.thrown invalid), r)
        | some token =>
            if token.valid x.now then
              some (.write token, { r with log := .lookedUp i token.tokenHash :: r.log })
            else some (.done (.thrown invalid), r)
  | .write token =>
      if x.fault then some (.done (.thrown (.db .failed)), r)
      else match r.updatePassword i token ⟨newPassword, x.salt⟩ with
        | .error e => some (.done (.thrown e), r)
        | .ok r' => some (.purge token, r')
  | .purge token =>
      if x.fault then some (.done (.thrown (.db .failed)), r)
      else some (.done .returned, r.deleteResetTokensForUser token.userId)

/-- The next step of the `i`-th call. -/
def step (hashResetToken : RawToken → TokenHash) (i : ℕ) (l : ResetCall) (r : ResetDB)
    (x : ResetInput) : Option (ResetCall × ResetDB) :=
  match l with
  | .request email pc =>
      (stepRequest hashResetToken pc email r x).map fun p => (.request email p.1, p.2)
  | .redeem rawToken newPassword pc =>
      (stepRedeem hashResetToken i pc rawToken newPassword r x).map fun p =>
        (.redeem rawToken newPassword p.1, p.2)

end ResetCall

/-- Calls of the two services; nothing else writes their tables here. -/
def resetMachine (hashResetToken : RawToken → TokenHash) :
    Machine ResetDB ResetCall ResetOp ResetInput Empty where
  start
    | .requestPasswordReset email => .request email .find
    | .resetPassword rawToken newPassword => .redeem rawToken newPassword .lookUp
  step := ResetCall.step hashResetToken
  env _ e := e.elim

/-- Runs of calls by any registered users, with no token issued yet. -/
def resets (hashResetToken : RawToken → TokenHash) :
    System (Config ResetDB ResetCall) (Act ResetOp ResetInput Empty) :=
  (resetMachine hashResetToken).system fun r => ∃ users, r = ⟨users, [], [], []⟩

end Accounts
end TransHub
