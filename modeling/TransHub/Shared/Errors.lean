import Mathlib.Tactic.Common

/-!
# Application errors

`shared/errors`: the typed errors that services throw, with their HTTP status,
message and code, and what else a call can throw.
-/

namespace TransHub

/-- The classes of `shared/errors`, all of them subclasses of `AppError`. -/
inductive ErrorClass where
  | validation
  | unauthorized
  | forbidden
  | notFound
  | conflict
  | insufficientSeats
  | holdExpired
  | tooManyRequests
  deriving DecidableEq, Repr

/-- `class AppError`. -/
structure AppError where
  cls : ErrorClass
  statusCode : ℕ
  message : String
  code : String
  deriving DecidableEq, Repr

namespace AppError

def validationError (message : String := "Invalid request") : AppError :=
  ⟨.validation, 400, message, "VALIDATION_ERROR"⟩

def unauthorizedError (message : String := "Authentication required") : AppError :=
  ⟨.unauthorized, 401, message, "UNAUTHORIZED"⟩

def forbiddenError (message : String := "You do not have access to this resource") : AppError :=
  ⟨.forbidden, 403, message, "FORBIDDEN"⟩

def notFoundError (message : String := "Resource not found") : AppError :=
  ⟨.notFound, 404, message, "NOT_FOUND"⟩

def conflictError (message : String := "Resource conflict") (code : String := "CONFLICT") :
    AppError :=
  ⟨.conflict, 409, message, code⟩

def insufficientSeatsError : AppError :=
  ⟨.insufficientSeats, 409, "Not enough seats available on this trip", "INSUFFICIENT_SEATS"⟩

def holdExpiredError
    (message : String := "Hold has expired or seats are no longer available") : AppError :=
  ⟨.holdExpired, 409, message, "HOLD_EXPIRED"⟩

end AppError

/-- The errors Prisma raises that the source tells apart, by their code where they
have one, and `failed` for every other failure of a statement. -/
inductive DbError where
  | uniqueViolation
  | foreignKeyViolation
  | valueOutOfRange
  | failed
  deriving DecidableEq, Repr

/-- What a call can throw.  `emptyJoin` is the `TypeError` of `Prisma.join([])`. -/
inductive Thrown where
  | app (e : AppError)
  | db (e : DbError)
  | emptyJoin
  deriving DecidableEq, Repr

/-- `err instanceof ConflictError`: `InsufficientSeatsError` and `HoldExpiredError`
extend it. -/
def Thrown.isConflictError : Thrown → Bool
  | .app e => match e.cls with
    | .conflict | .insufficientSeats | .holdExpired => true
    | _ => false
  | .db _ | .emptyJoin => false

/-! ## Calls that may throw -/

/-- Throw `e` unless `b`. -/
def ensure (b : Bool) (e : Thrown) : Except Thrown Unit :=
  if b then .ok () else .error e

/-- The value of a statement, or the exception that stands for its absence. -/
def orThrow {α : Type} (o : Option α) (e : Thrown) : Except Thrown α :=
  match o with
  | some a => .ok a
  | none => .error e

theorem ensure_eq_ok {b : Bool} {e : Thrown} {x : Unit} : ensure b e = .ok x ↔ b = true := by
  cases b <;> simp [ensure]

theorem ensure_eq_error {b : Bool} {e e' : Thrown} :
    ensure b e = .error e' ↔ b = false ∧ e = e' := by
  cases b <;> simp [ensure]

theorem orThrow_eq_ok {α : Type} {o : Option α} {e : Thrown} {a : α} :
    orThrow o e = .ok a ↔ o = some a := by
  cases o <;> simp [orThrow]

theorem orThrow_eq_error {α : Type} {o : Option α} {e e' : Thrown} :
    orThrow o e = .error e' ↔ o = none ∧ e = e' := by
  cases o <;> simp [orThrow]

/-- A sequence of calls returns when each of them does. -/
theorem bind_eq_ok {α β : Type} {x : Except Thrown α} {f : α → Except Thrown β} {b : β} :
    (x >>= f) = .ok b ↔ ∃ a, x = .ok a ∧ f a = .ok b := by
  cases x with
  | error e => simp [bind, Except.bind]
  | ok a => simp [bind, Except.bind]

/-- A sequence of calls throws when its first call does or the rest does. -/
theorem bind_eq_error {α β : Type} {x : Except Thrown α} {f : α → Except Thrown β}
    {e : Thrown} :
    (x >>= f) = .error e ↔ x = .error e ∨ ∃ a, x = .ok a ∧ f a = .error e := by
  cases x with
  | error e' => simp [bind, Except.bind]
  | ok a => simp [bind, Except.bind]

end TransHub
