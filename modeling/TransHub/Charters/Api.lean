import TransHub.Charters.Process
import TransHub.Listings.Queries

/-!
# The charter endpoints

`charters.routes`, `charters.controller` and the parts of `chartersService` behind them that
do not work on one row: a request from its route guard to its response, over the table
of all charters.

* `Endpoint`, `Endpoint.guard`, `Endpoint.view`: the routes, their `requireRole` guards and
  what the controller shows of a charter.
* `exec`: a call of `chartersService` on one charter, statement by statement, on the table.
* `handle`, `charterApi`: one request, and runs of requests and of payment webhooks.
-/

namespace TransHub
namespace CharterApi

open Listings

/-! ## Requests -/

/-- `CreateCharterInput`. -/
structure CreateCharterInput where
  vehicleType : String
  fromLocation : String
  toLocation : String
  departureAt : Time
  returnAt : Option Time := none
  passengerCount : ℕ
  notes : Option String := none
  contactName : Option String := none
  contactPhone : Option String := none
  contactEmail : Option String := none
  deriving DecidableEq, Repr

/-- The routes of `chartersRouter`. -/
inductive Endpoint where
  | createCharter (data : CreateCharterInput)
  | listMyCharters (filter : CharterListFilter) (pagination : PaginationQuery)
  | listAllCharters (filter : CharterListFilter) (pagination : PaginationQuery)
  | getCharter (id : CharterId)
  | sendQuote (id : CharterId) (data : CharterQuote)
  | acceptQuote (id : CharterId)
  | rejectQuote (id : CharterId)
  | initiatePayment (id : CharterId)
  | verifyPayment (id : CharterId)
  | adminConfirmBooking (id : CharterId) (data : ConfirmBookingInput)
  | completeCharter (id : CharterId)
  | cancelCharter (id : CharterId)
  deriving DecidableEq

namespace Endpoint

/-- The `requireRole` guard of the route, if it has one. -/
def guard (user : AuthUser) : Endpoint → Except Thrown Unit
  | createCharter _ | listMyCharters _ _ | acceptQuote _ | rejectQuote _ | initiatePayment _
  | verifyPayment _ => requireRole [.passenger] user
  | listAllCharters _ _ | sendQuote _ _ | adminConfirmBooking _ _ | completeCharter _ =>
      requireRole [.admin] user
  | getCharter _ | cancelCharter _ => .ok ()

/-- What the controller shows of a charter. -/
def view (user : AuthUser) (charter : CharterRow) : Endpoint → CharterRow
  | createCharter _ | listMyCharters _ _ | acceptQuote _ | rejectQuote _ | initiatePayment _
  | verifyPayment _ => Charters.forPassenger charter
  | listAllCharters _ _ | sendQuote _ _ | adminConfirmBooking _ _ | completeCharter _ => charter
  | getCharter _ | cancelCharter _ =>
      if user.role = .passenger then Charters.forPassenger charter else charter

/-- The call that the controller makes on one charter. -/
def call (user : AuthUser) : Endpoint → Option (CharterId × CharterOp)
  | createCharter _ | listMyCharters _ _ | listAllCharters _ _ | getCharter _ => none
  | sendQuote id data => some (id, .write (.sendQuote data))
  | acceptQuote id => some (id, .write (.acceptQuote user.id))
  | rejectQuote id => some (id, .write (.rejectQuote user.id))
  | initiatePayment id => some (id, .initiatePayment user.id)
  | verifyPayment id => some (id, .verifyPayment user.id)
  | adminConfirmBooking id data => some (id, .write (.adminConfirmBooking data))
  | completeCharter id => some (id, .write .completeCharter)
  | cancelCharter id => some (id, .write (.cancelCharter user.id user.role))

end Endpoint

/-- What the outside world decides in a request: the rate limiter, the clock, the ids, the
account that the row is joined with, whether a lone statement fails, and, for a call on one
charter, its statements one by one. -/
structure ApiInput where
  throttled : Bool := false
  now : Time := 0
  newId : CharterId := 0
  referenceNo : String := ""
  account : Account
  fault : Bool := false
  statements : List CharterInput := []

inductive CharterResponse where
  | charter (charter : CharterRow)
  | charters (listed : Listed CharterRow)
  | payment (reference : Ref)
  | verified (state : TxState) (charter : CharterRow)
  deriving DecidableEq

/-- The charters whose contents a response returns. -/
def CharterResponse.shows : CharterResponse → List CharterRow
  | charter c | verified _ c => [c]
  | charters listed => listed.items
  | payment _ => []

/-! ## `chartersService` on the table -/

/-- `charters_pkey`, `charters_referenceNo_key` and `charters_paymentRef_key`. -/
def clash (a b : CharterRow) : Bool :=
  a.id == b.id || (a.referenceNo.isSome && a.referenceNo == b.referenceNo) ||
    (a.paymentRef.isSome && a.paymentRef == b.paymentRef)

def findById (id : CharterId) (rows : List CharterRow) : Option CharterRow :=
  rows.find? fun c => c.id = id

/-- `MIN_LEAD_TIME_MS`. -/
def minLeadTimeMs : ℕ := 24 * 60 * 60 * 1000

/-- The row that `create` stores. -/
def createRow (passengerId : UserId) (data : CreateCharterInput) (x : ApiInput) : CharterRow where
  id := x.newId
  referenceNo := some x.referenceNo
  passengerId := passengerId
  passengerName := x.account.fullName
  passengerEmail := x.account.email
  passengerPhone := x.account.phone
  vehicleType := data.vehicleType
  fromLocation := data.fromLocation
  toLocation := data.toLocation
  departureAt := data.departureAt
  returnAt := data.returnAt
  passengerCount := data.passengerCount
  notes := data.notes
  contactName := data.contactName
  contactPhone := data.contactPhone
  contactEmail := data.contactEmail
  createdAt := x.now
  updatedAt := x.now

def dbFailed : Thrown := .db .failed

/-- `requestCharter`. -/
def requestCharter (passengerId : UserId) (data : CreateCharterInput) (x : ApiInput)
    (rows : List CharterRow) : Except Thrown (CharterRow × List CharterRow) := do
  ensure (x.now + minLeadTimeMs ≤ data.departureAt)
    (.app (.conflictError "Charter departure must be at least 24 hours from now"
      "CHARTER_LEAD_TIME"))
  ensure (data.returnAt.all fun returnAt => data.departureAt < returnAt)
    (.app (.conflictError "returnAt must be after departureAt" "CHARTER_RETURN_BEFORE_DEP"))
  ensure (!x.fault) dbFailed
  let row := createRow passengerId data x
  let rows' ← orThrow (Table.insert clash rows row) (.db .uniqueViolation)
  return (row, rows')

/-- `getCharterById`. -/
def getCharterById (id : CharterId) (requestingUserId : UserId) (role : Role) (x : ApiInput)
    (rows : List CharterRow) : Except Thrown CharterRow := do
  ensure (!x.fault) dbFailed
  let charter ← orThrow (findById id rows) Charters.charterNotFound
  ensure (!(role == .passenger && charter.passengerId != requestingUserId)) Charters.noAccess
  return charter

/-! ## Calls on one charter -/

/-- The row as a call on it reads it. -/
def stored (id : CharterId) (rows : List CharterRow) : CharterDB :=
  ⟨(findById id rows).map fun c => c.toCharter, [], none⟩

/-- The places right after an `UPDATE` of the row. -/
def wrote : CharterPc → Bool
  | .done (.returned _) | .done (.payment _) | .notify _ _ _ => true
  | _ => false

/-- The table after an `UPDATE … WHERE id`. -/
def save (id : CharterId) (now : Time) (row : Option Charter) (rows : List CharterRow) :
    List CharterRow :=
  match row with
  | none => rows
  | some c =>
      Table.updateMany (fun old => old.id == id)
        (fun old => { old with toCharter := c, updatedAt := now }) rows

/-- The call `l`, as far as the statements at hand take it. -/
def exec (id : CharterId) :
    List CharterInput → CharterProc → List CharterRow → CharterProc × List CharterRow
  | [], l, rows => (l, rows)
  | x :: xs, l, rows => match l.step id 0 (stored id rows) x with
      | none => (l, rows)
      | some (l', r') => exec id xs l' (if wrote l'.pc then save id x.now r'.row rows else rows)

/-- A charter that a call returns, with the columns that the call does not read. -/
def whole (id : CharterId) (c : Charter) (rows : List CharterRow) : Option CharterRow :=
  (findById id rows).map fun row => { row with toCharter := c }

/-- The response to a call; a call that has not ended has none. -/
def Endpoint.response (endpoint : Endpoint) (user : AuthUser) (id : CharterId)
    (rows : List CharterRow) (pc : CharterPc) : Option (Except Thrown CharterResponse) :=
  match pc with
  | .done (.returned c) =>
      (whole id c rows).map fun row => .ok (.charter (endpoint.view user row))
  | .done (.verified state c) =>
      (whole id c rows).map fun row => .ok (.verified state (endpoint.view user row))
  | .done (.payment reference) => some (.ok (.payment reference))
  | .done (.thrown e) => some (.error e)
  | _ => none

/-! ## Requests, one after the other -/

section
variable (text : SearchText)

/-- A request that its guard has let through. -/
def serve (user : AuthUser) (endpoint : Endpoint) (x : ApiInput) (rows : List CharterRow) :
    Option (Except Thrown CharterResponse) × List CharterRow :=
  match endpoint with
  | .createCharter data =>
      if x.throttled then
        (some (.error (.app ⟨.tooManyRequests, 429,
          "Too many requests — please slow down and try again later", "RATE_LIMITED"⟩)), rows)
      else match requestCharter user.id data x rows with
        | .error e => (some (.error e), rows)
        | .ok (row, rows') => (some (.ok (.charter (endpoint.view user row))), rows')
  | .listMyCharters filter pagination =>
      (some (do
        ensure (!x.fault) dbFailed
        return .charters (← Charters.getMyCharters text user.id filter pagination rows)), rows)
  | .listAllCharters filter pagination =>
      (some (do
        ensure (!x.fault) dbFailed
        return .charters (← Charters.getAllCharters text filter pagination rows)), rows)
  | .getCharter id =>
      (some (do
        let charter ← getCharterById id user.id user.role x rows
        return .charter (endpoint.view user charter)), rows)
  | endpoint => match endpoint.call user with
      | none => (none, rows)
      | some (id, op) =>
          let (l, rows') := exec id x.statements { op } rows
          (endpoint.response user id rows' l.pc, rows')

/-- A request of an authenticated user. -/
def handle (user : AuthUser) (endpoint : Endpoint) (x : ApiInput) (rows : List CharterRow) :
    Option (Except Thrown CharterResponse) × List CharterRow :=
  match endpoint.guard user with
  | .error e => (some (.error e), rows)
  | .ok () => serve text user endpoint x rows

/-- What reaches the charters: a request, or the listener of a payment webhook. -/
inductive ApiAct where
  | request (user : AuthUser) (endpoint : Endpoint) (x : ApiInput)
  | webhook (id : CharterId) (body : WebhookBody) (statements : List CharterInput)

/-- The table after an act. -/
def after (rows : List CharterRow) : ApiAct → List CharterRow
  | .request user endpoint x => (handle text user endpoint x rows).2
  | .webhook id body statements => (exec id statements { op := .webhook body } rows).2

/-- Any sequence of requests and webhooks, on a table that starts empty. -/
def charterApi : System (List CharterRow) ApiAct where
  init rows := rows = []
  step rows act := some (after text rows act)

end

end CharterApi
end TransHub
