import TransHub.Accounts.Schema
import TransHub.Foundation.Machine
import TransHub.Shared.Errors

/-!
# Signing up and the onboarding of operators

`register` of `auth.service` and `register`, `approve` and `decline` of
`operators.service`, one step for each statement on the database.

* `OnboardDB`: the committed tables, and what the open transactions have locked and
  inserted.  A statement sees committed rows, waits for a row that another transaction has
  locked, and waits while its insert clashes with one that is not committed yet.
* `OnboardCall`, `OnboardCall.step`: the calls and their steps.  A step may fail; inside the
  transaction of `approve` that rolls it back.
* `onboardMachine`, `onboarding`: any number of calls over the two tables.
-/

namespace TransHub
namespace Accounts

/-- `RegisterInput`. -/
structure RegisterInput where
  fullName : String
  email : Email
  phone : String
  password : String
  deriving DecidableEq

/-- The payload of `operator.approved`, and which call emits it. -/
structure OperatorApproved where
  byCall : ℕ
  email : Email
  contactName : String
  companyName : String
  tempPassword : String
  deriving DecidableEq

/-- The committed tables, the row locks and the inserts of the open transactions, what has
been emitted, and, as a history, which call approved which operator. -/
structure OnboardDB where
  users : List User
  operators : List Operator
  locks : List (OperatorId × ℕ)
  inserts : List (ℕ × User)
  emitted : List OperatorApproved
  approvals : List (OperatorId × ℕ)

namespace OnboardDB

def findUserByEmail (email : Email) (r : OnboardDB) : Option User :=
  r.users.find? fun u => u.email = email

def findOperatorByEmail (email : Email) (r : OnboardDB) : Option Operator :=
  r.operators.find? fun op => op.email = email

def findById (id : OperatorId) (r : OnboardDB) : Option Operator :=
  r.operators.find? fun op => op.id = id

/-- A row of `operators` that another open transaction has locked. -/
def lockedByOther (r : OnboardDB) (i : ℕ) (id : OperatorId) : Bool :=
  r.locks.any fun l => l.1 == id && l.2 != i

/-- A row that clashes with an insert of another open transaction. -/
def insertedByOther (r : OnboardDB) (i : ℕ) (u : User) : Bool :=
  r.inserts.any fun s => s.1 != i && s.2.clash u

/-- The `WHERE` of `markReviewedIfPending`. -/
def pendingRow (id : OperatorId) (op : Operator) : Bool := op.id == id && op.status == .pending

/-- Its `data`. -/
def reviewed (status : OperatorStatus) (now : Time) (op : Operator) : Operator :=
  { op with status, reviewedAt := some now }

/-- The end of the transaction of call `i`. -/
def close (r : OnboardDB) (i : ℕ) : OnboardDB :=
  { r with
    locks := r.locks.filter fun l => l.2 != i
    inserts := r.inserts.filter fun s => s.1 != i }

/-- The commit of an approval. -/
def approved (r : OnboardDB) (i : ℕ) (id : OperatorId) (u : User) (now : Time) : OnboardDB :=
  ({ r with
    users := r.users ++ [u]
    operators := Table.updateMany (pendingRow id) (reviewed .approved now) r.operators
    approvals := (id, i) :: r.approvals }).close i

end OnboardDB

/-- How a call ends. -/
inductive OnboardOutcome where
  | user (u : User)
  | operator (op : Option Operator)
  | thrown (e : Thrown)
  deriving DecidableEq

/-- Where a call of one of the two `register`s stands. -/
inductive SignUpPc where
  | find
  | create
  | done (o : OnboardOutcome)
  deriving DecidableEq

/-- Where a call of `approve` stands; `op` is the application as it was first read. -/
inductive ApprovePc where
  | find
  | checkUser (op : Operator)
  | mark (op : Operator)
  | insert (op : Operator) (reviewedAt : Time)
  | commit (op : Operator) (reviewedAt : Time) (u : User)
  | refetch (op : Operator) (tempPassword : String)
  | done (o : OnboardOutcome)
  deriving DecidableEq

/-- Where a call of `decline` stands. -/
inductive DeclinePc where
  | find
  | mark
  | refetch
  | done (o : OnboardOutcome)
  deriving DecidableEq

inductive OnboardCall where
  | register (input : RegisterInput) (pc : SignUpPc)
  | registerOperator (input : Application) (pc : SignUpPc)
  | approve (id : OperatorId) (pc : ApprovePc)
  | decline (id : OperatorId) (pc : DeclinePc)
  deriving DecidableEq

/-- What is called. -/
inductive OnboardOp where
  | register (input : RegisterInput)
  | registerOperator (input : Application)
  | approve (id : OperatorId)
  | decline (id : OperatorId)

/-- What the outside world decides in a step: whether it fails, the clock, the id that the
database generates, the temporary password and the salt. -/
structure OnboardInput where
  fault : Bool
  now : Time
  uuid : ℕ
  tempPassword : String
  salt : ℕ

def dbFailed : Thrown := .db .failed

/-- `throw new ConflictError(message)`. -/
def conflict (message : String) : OnboardOutcome := .thrown (.app (.conflictError message))

/-- The check that `approve` and `decline` begin with. -/
def checkPending (op : Option Operator) : Except Thrown Operator := do
  let op ← orThrow op (.app (.notFoundError "Operator not found"))
  ensure (op.status == .pending)
    (.app (.conflictError ("Application is already " ++ op.status.text)))
  .ok op

/-- The account of a passenger. -/
def RegisterInput.account (input : RegisterInput) (x : OnboardInput) : User where
  id := x.uuid
  email := input.email
  password := ⟨input.password, x.salt⟩
  fullName := input.fullName
  phone := input.phone

/-- The account of an operator, with its temporary password. -/
def Operator.account (op : Operator) (x : OnboardInput) : User where
  id := x.uuid
  email := op.email
  password := ⟨x.tempPassword, x.salt⟩
  fullName := op.contactName
  phone := op.phone
  role := .operator
  operatorId := some op.id

namespace OnboardCall

/-- The next step of `authService.register`. -/
def stepRegister (i : ℕ) (input : RegisterInput) (pc : SignUpPc) (r : OnboardDB)
    (x : OnboardInput) : Option (SignUpPc × OnboardDB) :=
  match pc with
  | .done _ => none
  | .find =>
      if x.fault then some (.done (.thrown dbFailed), r)
      else match r.findUserByEmail input.email with
        | some _ => some (.done (conflict "An account with this email already exists"), r)
        | none => some (.create, r)
  | .create =>
      if x.fault then some (.done (.thrown dbFailed), r)
      else if r.insertedByOther i (input.account x) then none
      else match Table.insert User.clash r.users (input.account x) with
        | none => some (.done (conflict "An account with this email already exists"), r)
        | some users => some (.done (.user (input.account x)), { r with users })

/-- The next step of `operatorsService.register`. -/
def stepRegisterOperator (input : Application) (pc : SignUpPc) (r : OnboardDB)
    (x : OnboardInput) : Option (SignUpPc × OnboardDB) :=
  match pc with
  | .done _ => none
  | .find =>
      if x.fault then some (.done (.thrown dbFailed), r)
      else match r.findOperatorByEmail input.email with
        | some _ => some (.done (conflict "An application with this email already exists"), r)
        | none => some (.create, r)
  | .create =>
      if x.fault then some (.done (.thrown dbFailed), r)
      else match Table.insert Operator.clash r.operators { input with id := x.uuid } with
        | none => some (.done (conflict "An application with this email already exists"), r)
        | some operators =>
            some (.done (.operator (some { input with id := x.uuid })), { r with operators })

/-- The next step of `approve`.  Its transaction is open at `insert` and `commit`. -/
def stepApprove (i : ℕ) (id : OperatorId) (pc : ApprovePc) (r : OnboardDB) (x : OnboardInput) :
    Option (ApprovePc × OnboardDB) :=
  match pc with
  | .done _ => none
  | .find =>
      if x.fault then some (.done (.thrown dbFailed), r)
      else match checkPending (r.findById id) with
        | .error e => some (.done (.thrown e), r)
        | .ok op => some (.checkUser op, r)
  | .checkUser op =>
      if x.fault then some (.done (.thrown dbFailed), r)
      else match r.findUserByEmail op.email with
        | some _ => some (.done (conflict
            "A user account already exists for this email — contact support to link the accounts"),
            r)
        | none => some (.mark op, r)
  | .mark op =>
      if x.fault then some (.done (.thrown dbFailed), r)
      else if r.lockedByOther i id then none
      else if r.operators.any (OnboardDB.pendingRow id) then
        some (.insert op x.now, { r with locks := (id, i) :: r.locks })
      else some (.done (conflict "Application is no longer pending"), r)
  | .insert op reviewedAt =>
      if x.fault then some (.done (.thrown dbFailed), r.close i)
      else if !r.operators.any (fun row => row.id == op.id) then
        -- `operator: { connect }` finds no row
        some (.done (.thrown dbFailed), r.close i)
      else if r.insertedByOther i (op.account x) then none
      else match Table.insert User.clash r.users (op.account x) with
        | none => some (.done (.thrown (.db .uniqueViolation)), r.close i)
        | some _ => some (.commit op reviewedAt (op.account x),
            { r with inserts := (i, op.account x) :: r.inserts })
  | .commit op reviewedAt u =>
      if x.fault then some (.done (.thrown dbFailed), r.close i)
      else some (.refetch op u.password.password, r.approved i id u reviewedAt)
  | .refetch op tempPassword =>
      if x.fault then some (.done (.thrown dbFailed), r)
      else some (.done (.operator (r.findById id)), { r with
        emitted := ⟨i, op.email, op.contactName, op.companyName, tempPassword⟩ :: r.emitted })

/-- The next step of `decline`. -/
def stepDecline (i : ℕ) (id : OperatorId) (pc : DeclinePc) (r : OnboardDB) (x : OnboardInput) :
    Option (DeclinePc × OnboardDB) :=
  match pc with
  | .done _ => none
  | .find =>
      if x.fault then some (.done (.thrown dbFailed), r)
      else match checkPending (r.findById id) with
        | .error e => some (.done (.thrown e), r)
        | .ok _ => some (.mark, r)
  | .mark =>
      if x.fault then some (.done (.thrown dbFailed), r)
      else if r.lockedByOther i id then none
      else if r.operators.any (OnboardDB.pendingRow id) then
        some (.refetch, { r with
          operators := Table.updateMany (OnboardDB.pendingRow id)
            (OnboardDB.reviewed .declined x.now) r.operators })
      else some (.done (conflict "Application is no longer pending"), r)
  | .refetch =>
      if x.fault then some (.done (.thrown dbFailed), r)
      else some (.done (.operator (r.findById id)), r)

/-- The next step of the `i`-th call. -/
def step (i : ℕ) (l : OnboardCall) (r : OnboardDB) (x : OnboardInput) :
    Option (OnboardCall × OnboardDB) :=
  match l with
  | .register input pc => (stepRegister i input pc r x).map fun p => (.register input p.1, p.2)
  | .registerOperator input pc =>
      (stepRegisterOperator input pc r x).map fun p => (.registerOperator input p.1, p.2)
  | .approve id pc => (stepApprove i id pc r x).map fun p => (.approve id p.1, p.2)
  | .decline id pc => (stepDecline i id pc r x).map fun p => (.decline id p.1, p.2)

end OnboardCall

/-- Calls of the four services; nothing else writes their tables here. -/
def onboardMachine : Machine OnboardDB OnboardCall OnboardOp OnboardInput Empty where
  start
    | .register input => .register input .find
    | .registerOperator input => .registerOperator input .find
    | .approve id => .approve id .find
    | .decline id => .decline id .find
  step := OnboardCall.step
  env _ e := e.elim

/-- Runs of calls that start with no operator, and any accounts that belong to none. -/
def onboarding : System (Config OnboardDB OnboardCall) (Act OnboardOp OnboardInput Empty) :=
  onboardMachine.system fun r => ∃ users, Table.Unique User.clash users ∧
    (∀ u ∈ users, u.operatorId = none) ∧ r = ⟨users, [], [], [], [], []⟩

end Accounts
end TransHub
