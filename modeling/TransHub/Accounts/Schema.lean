import TransHub.Foundation.Table
import TransHub.Ledger.Schema

/-!
# The tables of accounts and operators

`schema.prisma`: the rows of `users`, `password_reset_tokens` and `operators`, with the
columns that signing up, password resets and the onboarding of operators read or write,
and their unique constraints.
-/

namespace TransHub
namespace Accounts

/-- An email, as `toLowerCase().trim()` leaves it. -/
abbrev Email := String

/-- The SHA-256 of a token. -/
abbrev TokenHash := ℕ

/-- An argon2id hash, by what it was made from. -/
structure PasswordHash where
  password : String
  salt : ℕ
  deriving DecidableEq, Repr

/-- A row of `users`. -/
structure User where
  id : UserId
  email : Email
  password : PasswordHash
  fullName : String
  phone : String
  role : Role := .passenger
  operatorId : Option OperatorId := none
  deriving DecidableEq, Repr

/-- A row of `password_reset_tokens`. -/
structure PasswordResetToken where
  userId : UserId
  tokenHash : TokenHash
  expiresAt : Time
  usedAt : Option Time := none
  deriving DecidableEq, Repr

inductive OperatorStatus where
  | pending
  | approved
  | declined
  deriving DecidableEq, Repr

def OperatorStatus.text : OperatorStatus → String
  | .pending => "pending"
  | .approved => "approved"
  | .declined => "declined"

/-- `RegisterOperatorInput`, as far as approving an application reads it. -/
structure Application where
  companyName : String
  contactName : String
  email : Email
  phone : String
  deriving DecidableEq, Repr

/-- A row of `operators`. -/
structure Operator extends Application where
  id : OperatorId
  status : OperatorStatus := .pending
  reviewedAt : Option Time := none
  deriving DecidableEq, Repr

/-! ## Constraints -/

/-- `users_pkey`, `users_email_key` and `users_operatorId_key`; two nulls do not clash. -/
def User.clash (a b : User) : Bool :=
  a.id == b.id || a.email == b.email || (a.operatorId.isSome && a.operatorId == b.operatorId)

/-- `password_reset_tokens_tokenHash_key`. -/
def PasswordResetToken.clash (a b : PasswordResetToken) : Bool := a.tokenHash == b.tokenHash

/-- `operators_pkey` and `operators_email_key`. -/
def Operator.clash (a b : Operator) : Bool := a.id == b.id || a.email == b.email

end Accounts
end TransHub
