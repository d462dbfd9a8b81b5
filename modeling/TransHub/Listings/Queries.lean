import TransHub.Listings.Schema
import TransHub.Shared.Access

/-!
# The list endpoints

The filters of the list endpoints, the `where` clauses built from them, the services that
impose a requester's scope, and the routes with their guards.

* `buildBookingWhere`, `buildWaybillWhere`, `buildCharterWhere`, `buildConditions`: one
  condition for each filter value that is set.
* `Bookings.list`, `Waybills.listMyWaybills`, `Waybills.listWaybills`, `Charters.getMyCharters`,
  `Charters.getAllCharters`, `Transactions.list`: the services.
* `respond`: a request to one of the routes, through its `requireRole` guard.

A filter value that the code tests for truth is `none` when it is missing or empty.
-/

namespace TransHub
namespace Listings

section
variable (text : SearchText)

/-- The statements of a repository's `findAll`: Prisma refuses an invalid date. -/
def select {ρ : Type} (createdAt : ρ → Time) (created : Option (Range (Option ℤ)))
    (condition : ρ → Bool) (rows : List ρ) (pagination : PaginationQuery) :
    Except Thrown (Page ρ) := do
  ensure (created.all fun r => r.valid) (.db .failed)
  return findPage createdAt condition rows pagination

theorem select_congr {ρ : Type} {createdAt : ρ → Time} {condition : ρ → Bool} {rows rows' : List ρ}
    (created : Option (Range (Option ℤ))) (pagination : PaginationQuery)
    (h : rows.filter condition = rows'.filter condition) :
    select createdAt created condition rows pagination =
      select createdAt created condition rows' pagination := by
  rw [select, select, findPage_congr pagination h]

theorem select_eq_ok {ρ : Type} {createdAt : ρ → Time} {created : Option (Range (Option ℤ))}
    {condition : ρ → Bool} {rows : List ρ} {pagination : PaginationQuery} {page : Page ρ}
    (h : select createdAt created condition rows pagination = .ok page) :
    page = findPage createdAt condition rows pagination := by
  rw [select] at h
  obtain ⟨_, -, h⟩ := bind_eq_ok.mp h
  exact (Except.ok.inj h).symm

/-- What a list endpoint answers. -/
structure Listed (α : Type) where
  items : List α
  pagination : PageMeta
  deriving DecidableEq, Repr

/-- A page of rows as the endpoint shows them. -/
def Listed.of {ρ α : Type} (view : ρ → α) (page : Page ρ) (pagination : PaginationQuery) :
    Listed α where
  items := page.items.map view
  pagination := pageMeta page.total pagination

/-! ## Bookings -/

structure BookingListFilter where
  status : Option BookingStatus := none
  operatorId : Option OperatorId := none
  minAmount : Option ℤ := none
  maxAmount : Option ℤ := none
  dateFrom : Option IsoDate := none
  dateTo : Option IsoDate := none
  search : Option String := none
  deriving DecidableEq, Repr

/-- The columns that a booking search reads. -/
def BookingRecord.searched (b : BookingRecord) : List String :=
  text.uuid b.id :: (b.paymentRef.map text.reference).toList ++
    (b.user.map fun u => [u.fullName, u.email, u.phone]).getD [] ++
    (b.trip.map fun trip => [trip.fromCity, trip.toCity]).getD []

def buildBookingWhere (filter : BookingListFilter) : List (BookingRecord → Bool) :=
  pushIf filter.status (fun status b => b.status == status) ++
  pushIf filter.operatorId (fun operatorId b =>
    b.trip.any fun trip => trip.operatorId == operatorId) ++
  pushIf (toNumberRange filter.minAmount filter.maxAmount) (fun amount b =>
    amount.contains b.totalAmount) ++
  pushIf (toDateRange filter.dateFrom filter.dateTo) (fun created b =>
    created.containsTime b.createdAt) ++
  pushIf filter.search fun s b => (b.searched text).any (text.contains s)

/-- `findAll`, `findByOperator` and `findByUser`: a scope and the filters within it. -/
def findBookings (scope : BookingRecord → Bool) (filter : BookingListFilter)
    (pagination : PaginationQuery) (t : Tables) : Except Thrown (Page BookingRecord) :=
  select (fun b => b.createdAt) (toDateRange filter.dateFrom filter.dateTo)
    (fun b => scope b && allOf (buildBookingWhere text filter) b) t.bookingRecords pagination

def Bookings.findAll (filter : BookingListFilter) (pagination : PaginationQuery) (t : Tables) :
    Except Thrown (Page BookingRecord) :=
  findBookings text (fun _ => true) filter pagination t

def Bookings.findByOperator (operatorId : OperatorId) (filter : BookingListFilter)
    (pagination : PaginationQuery) (t : Tables) : Except Thrown (Page BookingRecord) :=
  findBookings text (fun b => b.trip.any fun trip => trip.operatorId == operatorId)
    { filter with operatorId := none } pagination t

def Bookings.findByUser (userId : UserId) (filter : BookingListFilter)
    (pagination : PaginationQuery) (t : Tables) : Except Thrown (Page BookingRecord) :=
  findBookings text (fun b => b.userId == userId) { filter with operatorId := none } pagination t

/-- `bookingsService.list`. -/
def Bookings.list (user : AuthUser) (filter : BookingListFilter) (pagination : PaginationQuery)
    (t : Tables) : Except Thrown (Listed BookingItem) := do
  let page ← match user.role, user.operatorId with
    | .admin, _ => Bookings.findAll text filter pagination t
    | .operator, some operatorId => Bookings.findByOperator text operatorId filter pagination t
    | _, _ => Bookings.findByUser text user.id filter pagination t
  return Listed.of (fun b => b.toBookingItem) page pagination

/-! ## Waybills -/

structure WaybillListFilter where
  status : Option WaybillStatus := none
  tripId : Option TripId := none
  assignedOperatorId : Option OperatorId := none
  userId : Option UserId := none
  dateFrom : Option IsoDate := none
  dateTo : Option IsoDate := none
  search : Option String := none
  deriving DecidableEq, Repr

/-- The columns that a waybill search reads. -/
def WaybillRecord.searched (w : WaybillRecord) : List String :=
  [text.waybillNo w.waybillNo, w.senderName, w.senderPhone, w.recipientName, w.recipientPhone,
    w.fromLocation, w.toLocation, w.description]

def buildWaybillWhere (filter : WaybillListFilter) : List (WaybillRecord → Bool) :=
  pushIf filter.status (fun status w => w.status == status) ++
  pushIf filter.tripId (fun tripId w => w.tripId == some tripId) ++
  pushIf filter.assignedOperatorId (fun operatorId w => w.assignedOperatorId == some operatorId) ++
  pushIf filter.userId (fun userId w => w.userId == userId) ++
  pushIf (toDateRange filter.dateFrom filter.dateTo) (fun created w =>
    created.containsTime w.createdAt) ++
  pushIf filter.search fun s w => (w.searched text).any (text.contains s)

def Waybills.findAll (filter : WaybillListFilter) (pagination : PaginationQuery) (t : Tables) :
    Except Thrown (Page WaybillRecord) :=
  select (fun w => w.createdAt) (toDateRange filter.dateFrom filter.dateTo)
    (allOf (buildWaybillWhere text filter)) t.waybillRecords pagination

def Waybills.listMyWaybills (userId : UserId) (filter : WaybillListFilter)
    (pagination : PaginationQuery) (t : Tables) : Except Thrown (Listed WaybillItem) := do
  let page ← Waybills.findAll text { filter with userId := some userId } pagination t
  return Listed.of (fun w => w.toWaybillItem) page pagination

def Waybills.listWaybills (filters : WaybillListFilter) (requester : Requester)
    (pagination : PaginationQuery) (t : Tables) : Except Thrown (Listed WaybillItem) := do
  match requester.role, requester.operatorId with
  | .operator, none => return ⟨[], pageMeta 0 pagination⟩
  | .operator, some operatorId =>
      let page ← Waybills.findAll text { filters with assignedOperatorId := some operatorId }
        pagination t
      return Listed.of (fun w => w.toWaybillItem) page pagination
  | _, _ =>
      let page ← Waybills.findAll text filters pagination t
      return Listed.of (fun w => w.toWaybillItem) page pagination

/-! ## Charters -/

structure CharterListFilter where
  status : Option CharterStatus := none
  passengerId : Option UserId := none
  dateFrom : Option IsoDate := none
  dateTo : Option IsoDate := none
  search : Option String := none
  deriving DecidableEq, Repr

/-- The columns that a charter search reads. -/
def CharterRow.searched (c : CharterRow) : List String :=
  c.referenceNo.toList ++ [c.fromLocation, c.toLocation] ++ c.contactName.toList ++
    c.contactPhone.toList ++ [c.passengerName, c.passengerEmail, c.passengerPhone]

def buildCharterWhere (filter : CharterListFilter) : List (CharterRow → Bool) :=
  pushIf filter.status (fun status c => c.status == status) ++
  pushIf filter.passengerId (fun passengerId c => c.passengerId == passengerId) ++
  pushIf (toDateRange filter.dateFrom filter.dateTo) (fun created c =>
    created.containsTime c.createdAt) ++
  pushIf filter.search fun s c => c.searched.any (text.contains s)

def Charters.findAll (filter : CharterListFilter) (pagination : PaginationQuery)
    (rows : List CharterRow) : Except Thrown (Page CharterRow) :=
  select (fun c => c.createdAt) (toDateRange filter.dateFrom filter.dateTo)
    (allOf (buildCharterWhere text filter)) rows pagination

/-- `forPassenger`: the keys it leaves out are `none`. -/
def Charters.forPassenger (c : CharterRow) : CharterRow :=
  { c with operatorName := none, operatorCost := none, serviceFee := none }

def Charters.getMyCharters (passengerId : UserId) (filter : CharterListFilter)
    (pagination : PaginationQuery) (rows : List CharterRow) :
    Except Thrown (Listed CharterRow) := do
  let page ← Charters.findAll text { filter with passengerId := some passengerId } pagination rows
  return Listed.of Charters.forPassenger page pagination

def Charters.getAllCharters (filter : CharterListFilter) (pagination : PaginationQuery)
    (rows : List CharterRow) : Except Thrown (Listed CharterRow) := do
  let page ← Charters.findAll text filter pagination rows
  return Listed.of (fun c => c) page pagination

/-! ## Transactions -/

structure TransactionFilter where
  type : Option TransactionType := none
  status : Option String := none
  operatorId : Option OperatorId := none
  userId : Option UserId := none
  minAmount : Option ℚ := none
  maxAmount : Option ℚ := none
  dateFrom : Option IsoDate := none
  dateTo : Option IsoDate := none
  search : Option String := none
  deriving DecidableEq, Repr

/-- The columns that a transaction search reads. -/
def TransactionRow.searched (r : TransactionRow) : List String :=
  [text.reference r.reference, r.customerName, r.customerEmail, r.description]

/-- `buildConditions`.  A charter has no operator, so that no operator's id selects it. -/
def buildConditions (filter : TransactionFilter) : List (TransactionRow → Bool) :=
  pushIf filter.type (fun type r => r.type == type) ++
  pushIf filter.status (fun status r => r.status == status) ++
  pushIf filter.operatorId (fun operatorId r => r.operatorId == some operatorId) ++
  pushIf filter.userId (fun userId r => r.userId == userId) ++
  pushIf (toNumberRange filter.minAmount filter.maxAmount) (fun amount r =>
    amount.contains r.amount) ++
  pushIf (toDateRange filter.dateFrom filter.dateTo) (fun created r =>
    created.containsTime r.createdAt) ++
  pushIf filter.search fun s r => (r.searched text).any (text.contains s)

def Transactions.findAll (filter : TransactionFilter) (pagination : PaginationQuery) (t : Tables) :
    Except Thrown (Page TransactionRow) :=
  select (fun r => r.createdAt) (toDateRange filter.dateFrom filter.dateTo)
    (allOf (buildConditions text filter)) (union t) pagination

/-- The scope that `transactionsService.list` imposes. -/
def Transactions.scoped (filter : TransactionFilter) (requester : AuthUser) : TransactionFilter :=
  match requester.role with
  | .operator => { filter with operatorId := requester.operatorId }
  | .passenger => { filter with userId := some requester.id, operatorId := none }
  | _ => filter

/-- `transactionsService.list`. -/
def Transactions.list (filter : TransactionFilter) (requester : AuthUser)
    (pagination : PaginationQuery) (t : Tables) : Except Thrown (Listed TransactionDTO) := do
  let page ← Transactions.findAll text (Transactions.scoped filter requester) pagination t
  return Listed.of (fun r => r.toTransactionDTO) page pagination

/-! ## Routes -/

/-- A request to a list endpoint. -/
inductive ListQuery where
  | bookings (filter : BookingListFilter)
  | waybills (filter : WaybillListFilter)
  | myWaybills (filter : WaybillListFilter)
  | myCharters (filter : CharterListFilter)
  | transactions (filter : TransactionFilter)
  deriving DecidableEq, Repr

inductive ListResponse where
  | bookings (listed : Listed BookingItem)
  | waybills (listed : Listed WaybillItem)
  | charters (listed : Listed CharterRow)
  | transactions (listed : Listed TransactionDTO)
  deriving DecidableEq, Repr

/-- The route of a request, from its guard to the response. -/
def respond (user : AuthUser) (query : ListQuery) (pagination : PaginationQuery) (t : Tables) :
    Except Thrown ListResponse :=
  match query with
  | .bookings filter => do
      requireRole [.passenger, .admin, .operator] user
      return .bookings (← Bookings.list text user filter pagination t)
  | .waybills filter => do
      requireRole [.admin, .operator] user
      return .waybills
        (← Waybills.listWaybills text filter ⟨user.role, user.operatorId⟩ pagination t)
  | .myWaybills filter => do
      return .waybills (← Waybills.listMyWaybills text user.id filter pagination t)
  | .myCharters filter => do
      requireRole [.passenger] user
      return .charters (← Charters.getMyCharters text user.id filter pagination t.charters)
  | .transactions filter => do
      requireRole [.admin, .operator, .passenger] user
      ensure (!(user.role == .operator && user.operatorId.isNone))
        (.app (.forbiddenError "No operator profile linked to this account"))
      return .transactions (← Transactions.list text filter user pagination t)

end

end Listings
end TransHub
