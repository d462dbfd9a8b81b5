import TransHub.Foundation.Scope
import TransHub.Listings.Queries

/-!
# What a list tells its requester

The list endpoints answer an operator or a passenger from the requester's own rows: two
states of the tables that agree on these give the same answer, totals included, whatever
filters the requester sends.

* `TenantScope`, `tenantScope`, `scopeOf`: which joined rows are a requester's own.
* `findBookings_congr`, `waybills_congr`, `charters_congr`, `transactions_congr`: one lemma for
  each service.
* `lists_isolated`, `own_shipments_listed`.
-/

namespace TransHub
namespace Listings

/-! ## Scopes -/

/-- A choice of joined rows. -/
structure TenantScope where
  bookings : BookingRecord → Bool
  charters : CharterRow → Bool
  waybills : WaybillRecord → Bool

/-- The tables hold the same rows of the scope, joined with the same rows. -/
def TenantScope.Agree (s : TenantScope) (t t' : Tables) : Prop :=
  Scope.Agree s.bookings t.bookingRecords t'.bookingRecords ∧
    Scope.Agree s.charters t.charters t'.charters ∧
    Scope.Agree s.waybills t.waybillRecords t'.waybillRecords

instance (s : TenantScope) (t t' : Tables) : Decidable (s.Agree t t') :=
  inferInstanceAs (Decidable (_ ∧ _ ∧ _))

/-- An operator account with its operator, or a passenger. -/
def IsTenant (user : AuthUser) : Prop :=
  (user.role = .operator ∧ user.operatorId.isSome) ∨ user.role = .passenger

instance (user : AuthUser) : Decidable (IsTenant user) :=
  inferInstanceAs (Decidable (_ ∨ _))

/-- The bookings of an operator's trips and the waybills assigned to it; a passenger's own
bookings, charters and waybills. -/
def tenantScope (user : AuthUser) : TenantScope :=
  match user.role, user.operatorId with
  | .operator, some operatorId =>
      { bookings := fun b => b.trip.any fun trip => trip.operatorId == operatorId
        charters := fun _ => false
        waybills := fun w => w.assignedOperatorId == some operatorId }
  | .passenger, _ =>
      { bookings := fun b => b.userId == user.id
        charters := fun c => c.passengerId == user.id
        waybills := fun w => w.userId == user.id }
  | _, _ => ⟨fun _ => false, fun _ => false, fun _ => false⟩

/-- The scope of a request: `listMyWaybills` lists the waybills that the requester has
submitted, whatever its role. -/
def scopeOf (user : AuthUser) (query : ListQuery) : TenantScope :=
  match query with
  | .myWaybills _ => { tenantScope user with waybills := fun w => w.userId == user.id }
  | _ => tenantScope user

/-- The transactions of a scope. -/
def TenantScope.transaction (s : TenantScope) (t : Tables) (r : TransactionRow) : Prop :=
  (∃ b ∈ t.bookingRecords, s.bookings b = true ∧ ofBooking b = some r) ∨
    (∃ c ∈ t.charters, s.charters c = true ∧ ofCharter c = some r) ∨
    ∃ w ∈ t.waybillRecords, s.waybills w = true ∧ ofWaybill w = some r

/-- Every item listed shows a row of the scope. -/
def ListResponse.Within (s : TenantScope) (t : Tables) : ListResponse → Prop
  | .bookings listed => ∀ item ∈ listed.items,
      ∃ b ∈ t.bookingRecords, s.bookings b = true ∧ b.toBookingItem = item
  | .waybills listed => ∀ item ∈ listed.items,
      ∃ w ∈ t.waybillRecords, s.waybills w = true ∧ w.toWaybillItem = item
  | .charters listed => ∀ item ∈ listed.items,
      ∃ c ∈ t.charters, s.charters c = true ∧ Charters.forPassenger c = item
  | .transactions listed => ∀ item ∈ listed.items,
      ∃ r, s.transaction t r ∧ r.toTransactionDTO = item

/-- **What isolation asks of one answer.**  It is the same in both states, and lists rows of
the scope only. -/
def Isolated (s : TenantScope) (t : Tables) (answer answer' : Except Thrown ListResponse) : Prop :=
  answer = answer' ∧ ∀ response, answer = .ok response → response.Within s t

section
variable {ρ α : Type} {createdAt : ρ → Time} {created : Option (Range (Option ℤ))}
  {condition own : ρ → Bool} {rows rows' : List ρ} {pagination : PaginationQuery} {view : ρ → α}

/-- A service whose condition stays inside the scope answers from the scope. -/
theorem listed_congr (hown : ∀ r, condition r = true → own r = true)
    (h : Scope.Agree own rows rows') :
    (do let page ← select createdAt created condition rows pagination
        return Listed.of view page pagination) =
      (do let page ← select createdAt created condition rows' pagination
          return Listed.of view page pagination) := by
  rw [select_congr created pagination (h.filter hown)]

/-- And it shows rows of the scope. -/
theorem listed_within (hown : ∀ r, condition r = true → own r = true) {listed : Listed α}
    (h : (do let page ← select createdAt created condition rows pagination
             return Listed.of view page pagination) = Except.ok listed) :
    ∀ item ∈ listed.items, ∃ r ∈ rows, own r = true ∧ view r = item := by
  obtain ⟨page, hpage, hlisted⟩ := bind_eq_ok.mp h
  cases hlisted
  rw [select_eq_ok hpage]
  intro item hitem
  obtain ⟨r, hr, hview⟩ := List.mem_map.mp hitem
  obtain ⟨hmem, hcond⟩ := mem_findPage hr
  exact ⟨r, hmem, hown r hcond, hview⟩

end

/-! ## The scope that each service imposes -/

section
variable {text : SearchText}

/-- A filter value that the service has set narrows the list to it. -/
theorem waybillWhere_user {userId : UserId} {filter : WaybillListFilter} {w : WaybillRecord}
    (h : allOf (buildWaybillWhere text { filter with userId := some userId }) w = true) :
    (w.userId == userId) = true := by
  have hmem : (fun w : WaybillRecord => w.userId == userId) ∈
      buildWaybillWhere text { filter with userId := some userId } := by
    simp [buildWaybillWhere, pushIf]
  exact allOf_eq_true.mp h _ hmem

theorem waybillWhere_operator {operatorId : OperatorId} {filter : WaybillListFilter}
    {w : WaybillRecord}
    (h : allOf (buildWaybillWhere text { filter with assignedOperatorId := some operatorId }) w =
      true) : (w.assignedOperatorId == some operatorId) = true := by
  have hmem : (fun w : WaybillRecord => w.assignedOperatorId == some operatorId) ∈
      buildWaybillWhere text { filter with assignedOperatorId := some operatorId } := by
    simp [buildWaybillWhere, pushIf]
  exact allOf_eq_true.mp h _ hmem

theorem charterWhere_passenger {passengerId : UserId} {filter : CharterListFilter} {c : CharterRow}
    (h : allOf (buildCharterWhere text { filter with passengerId := some passengerId }) c = true) :
    (c.passengerId == passengerId) = true := by
  have hmem : (fun c : CharterRow => c.passengerId == passengerId) ∈
      buildCharterWhere text { filter with passengerId := some passengerId } := by
    simp [buildCharterWhere, pushIf]
  exact allOf_eq_true.mp h _ hmem

theorem conditions_operator {operatorId : OperatorId} {filter : TransactionFilter}
    {r : TransactionRow} (hset : filter.operatorId = some operatorId)
    (h : allOf (buildConditions text filter) r = true) :
    (r.operatorId == some operatorId) = true := by
  have hmem : (fun r : TransactionRow => r.operatorId == some operatorId) ∈
      buildConditions text filter := by
    simp [buildConditions, pushIf, hset]
  exact allOf_eq_true.mp h _ hmem

theorem conditions_user {userId : UserId} {filter : TransactionFilter} {r : TransactionRow}
    (hset : filter.userId = some userId) (h : allOf (buildConditions text filter) r = true) :
    (r.userId == userId) = true := by
  have hmem : (fun r : TransactionRow => r.userId == userId) ∈ buildConditions text filter := by
    simp [buildConditions, pushIf, hset]
  exact allOf_eq_true.mp h _ hmem

/-- `q` selects transactions of the scope. -/
structure TenantScope.Covers (s : TenantScope) (q : TransactionRow → Bool) : Prop where
  booking : ∀ b r, ofBooking b = some r → q r = true → s.bookings b = true
  charter : ∀ c r, ofCharter c = some r → q r = true → s.charters c = true
  waybill : ∀ w r, ofWaybill w = some r → q r = true → s.waybills w = true

/-- The scope of the transactions feed. -/
theorem TenantScope.Covers.agree {s : TenantScope} {q : TransactionRow → Bool} (hs : s.Covers q)
    {t t' : Tables} (h : s.Agree t t') : Scope.Agree q (union t) (union t') :=
  ((h.1.filterMap hs.booking).append (h.2.1.filterMap hs.charter)).append
    (h.2.2.filterMap hs.waybill)

theorem TenantScope.Covers.within {s : TenantScope} {q : TransactionRow → Bool} (hs : s.Covers q)
    {t : Tables} {r : TransactionRow} (hr : r ∈ union t) (hq : q r = true) :
    s.transaction t r := by
  rcases List.mem_append.mp hr with hr | hr
  · rcases List.mem_append.mp hr with hr | hr
    · obtain ⟨b, hmem, hof⟩ := List.mem_filterMap.mp hr
      exact Or.inl ⟨b, hmem, hs.booking b r hof hq, hof⟩
    · obtain ⟨c, hmem, hof⟩ := List.mem_filterMap.mp hr
      exact Or.inr (Or.inl ⟨c, hmem, hs.charter c r hof hq, hof⟩)
  · obtain ⟨w, hmem, hof⟩ := List.mem_filterMap.mp hr
    exact Or.inr (Or.inr ⟨w, hmem, hs.waybill w r hof hq, hof⟩)

/-- An operator's transactions are those of its trips and waybills. -/
theorem covers_operator {user : AuthUser} {operatorId : OperatorId} (hrole : user.role = .operator)
    (hop : user.operatorId = some operatorId) :
    (tenantScope user).Covers fun r => r.operatorId == some operatorId where
  booking b r hof hr := by
    simp only [tenantScope, hrole, hop]
    rw [(ofBooking_eq_some hof).1] at hr
    cases htrip : b.trip with
    | none => simp [htrip] at hr
    | some trip => simpa [htrip] using hr
  charter c r hof hr := by
    rw [(ofCharter_eq_some hof).1] at hr
    exact absurd hr (by simp)
  waybill w r hof hr := by
    simp only [tenantScope, hrole, hop]
    rwa [(ofWaybill_eq_some hof).1] at hr

/-- A passenger's are those of its own records. -/
theorem covers_passenger {user : AuthUser} (hrole : user.role = .passenger) :
    (tenantScope user).Covers fun r => r.userId == user.id where
  booking b r hof hr := by
    simp only [tenantScope, hrole]
    rwa [(ofBooking_eq_some hof).2] at hr
  charter c r hof hr := by
    simp only [tenantScope, hrole]
    rwa [(ofCharter_eq_some hof).2] at hr
  waybill w r hof hr := by
    simp only [tenantScope, hrole]
    rwa [(ofWaybill_eq_some hof).2] at hr

/-! ## One lemma for each service -/

variable {user : AuthUser} {t t' : Tables} {pagination : PaginationQuery}

/-- A service answers alike in both states, with rows of the scope. -/
def ServiceIsolated {α : Type} (s : TenantScope) (t : Tables) (response : Listed α → ListResponse)
    (answer answer' : Except Thrown (Listed α)) : Prop :=
  answer = answer' ∧ ∀ listed, answer = .ok listed → (response listed).Within s t

theorem bookings_isolated (htenant : IsTenant user) (h : (tenantScope user).Agree t t')
    (filter : BookingListFilter) :
    ServiceIsolated (tenantScope user) t .bookings (Bookings.list text user filter pagination t)
      (Bookings.list text user filter pagination t') := by
  rcases htenant with ⟨hrole, hop⟩ | hrole
  · obtain ⟨operatorId, hop⟩ := Option.isSome_iff_exists.mp hop
    simp only [Bookings.list, hrole, hop]
    have hown : ∀ b, (b.trip.any (fun trip => trip.operatorId == operatorId) &&
        allOf (buildBookingWhere text { filter with operatorId := none }) b) = true →
          (tenantScope user).bookings b = true := by
      intro b hb
      simp only [tenantScope, hrole, hop]
      exact (Bool.and_eq_true_iff.mp hb).1
    exact ⟨listed_congr hown h.1, fun listed hlisted => listed_within hown hlisted⟩
  · simp only [Bookings.list, hrole]
    have hown : ∀ b, (b.userId == user.id &&
        allOf (buildBookingWhere text { filter with operatorId := none }) b) = true →
          (tenantScope user).bookings b = true := by
      intro b hb
      simp only [tenantScope, hrole]
      exact (Bool.and_eq_true_iff.mp hb).1
    exact ⟨listed_congr hown h.1, fun listed hlisted => listed_within hown hlisted⟩

/-- `listMyWaybills` answers from the waybills that the requester has submitted. -/
theorem myWaybills_isolated {s : TenantScope} (hs : s.waybills = fun w => w.userId == user.id)
    (h : s.Agree t t') (filter : WaybillListFilter) :
    ServiceIsolated s t .waybills (Waybills.listMyWaybills text user.id filter pagination t)
      (Waybills.listMyWaybills text user.id filter pagination t') := by
  have hown : ∀ w, allOf (buildWaybillWhere text { filter with userId := some user.id }) w = true →
      s.waybills w = true := by
    intro w hw
    rw [hs]
    exact waybillWhere_user hw
  exact ⟨listed_congr hown h.2.2, fun listed hlisted => listed_within hown hlisted⟩

/-- `listWaybills` answers an operator from the waybills assigned to it. -/
theorem waybills_isolated {operatorId : OperatorId} (hrole : user.role = .operator)
    (hop : user.operatorId = some operatorId) (h : (tenantScope user).Agree t t')
    (filter : WaybillListFilter) :
    ServiceIsolated (tenantScope user) t .waybills
      (Waybills.listWaybills text filter ⟨user.role, user.operatorId⟩ pagination t)
      (Waybills.listWaybills text filter ⟨user.role, user.operatorId⟩ pagination t') := by
  simp only [Waybills.listWaybills, hrole, hop]
  have hown : ∀ w, allOf (buildWaybillWhere text
      { filter with assignedOperatorId := some operatorId }) w = true →
        (tenantScope user).waybills w = true := by
    intro w hw
    simp only [tenantScope, hrole, hop]
    exact waybillWhere_operator hw
  exact ⟨listed_congr hown h.2.2, fun listed hlisted => listed_within hown hlisted⟩

theorem charters_isolated (hrole : user.role = .passenger) (h : (tenantScope user).Agree t t')
    (filter : CharterListFilter) :
    ServiceIsolated (tenantScope user) t .charters
      (Charters.getMyCharters text user.id filter pagination t.charters)
      (Charters.getMyCharters text user.id filter pagination t'.charters) := by
  have hown : ∀ c, allOf (buildCharterWhere text
      { filter with passengerId := some user.id }) c = true →
        (tenantScope user).charters c = true := by
    intro c hc
    simp only [tenantScope, hrole]
    exact charterWhere_passenger hc
  exact ⟨listed_congr hown h.2.1, fun listed hlisted => listed_within hown hlisted⟩

/-- `transactionsService.list` answers from the transactions that its conditions admit. -/
theorem transactions_of_covers {s : TenantScope} {q : TransactionRow → Bool} (hs : s.Covers q)
    (h : s.Agree t t') {filter : TransactionFilter}
    (hq : ∀ r, allOf (buildConditions text (Transactions.scoped filter user)) r = true →
      q r = true) :
    ServiceIsolated s t .transactions (Transactions.list text filter user pagination t)
      (Transactions.list text filter user pagination t') := by
  refine ⟨listed_congr hq (hs.agree h), ?_⟩
  intro listed hlisted item hitem
  obtain ⟨r, hr, hqr, hitem⟩ := listed_within hq hlisted item hitem
  exact ⟨r, hs.within hr hqr, hitem⟩

theorem transactions_isolated (htenant : IsTenant user) (h : (tenantScope user).Agree t t')
    (filter : TransactionFilter) :
    ServiceIsolated (tenantScope user) t .transactions
      (Transactions.list text filter user pagination t)
      (Transactions.list text filter user pagination t') := by
  rcases htenant with ⟨hrole, hop⟩ | hrole
  · obtain ⟨operatorId, hop⟩ := Option.isSome_iff_exists.mp hop
    have hset : (Transactions.scoped filter user).operatorId = some operatorId := by
      simp only [Transactions.scoped, hrole, hop]
    exact transactions_of_covers (covers_operator hrole hop) h
      fun r hr => conditions_operator hset hr
  · have hset : (Transactions.scoped filter user).userId = some user.id := by
      simp only [Transactions.scoped, hrole]
    exact transactions_of_covers (covers_passenger hrole) h fun r hr => conditions_user hset hr

/-! ## The routes -/

theorem ServiceIsolated.response {α : Type} {s : TenantScope}
    {response : Listed α → ListResponse} {answer answer' : Except Thrown (Listed α)}
    (h : ServiceIsolated s t response answer answer') :
    Isolated s t (do return response (← answer)) (do return response (← answer')) := by
  refine ⟨by rw [h.1], ?_⟩
  intro r hr
  obtain ⟨listed, hlisted, hr⟩ := bind_eq_ok.mp hr
  cases hr
  exact h.2 listed hlisted

/-- A guard refuses the request in both states, or lets the route go on. -/
theorem Isolated.guarded {s : TenantScope} {answer answer' : Except Thrown ListResponse}
    (h : Isolated s t answer answer') (guard : Except Thrown Unit) :
    Isolated s t (do guard; answer) (do guard; answer') := by
  refine ⟨by rw [h.1], ?_⟩
  intro r hr
  obtain ⟨_, -, hr⟩ := bind_eq_ok.mp hr
  exact h.2 r hr

/-- A guard that refuses answers by itself. -/
theorem isolated_of_refused {s : TenantScope} {guard : Except Thrown Unit}
    (h : ∃ e, guard = .error e) (answer answer' : Except Thrown ListResponse) :
    Isolated s t (do guard; answer) (do guard; answer') := by
  obtain ⟨e, rfl⟩ := h
  refine ⟨rfl, ?_⟩
  intro r hr
  exact absurd hr (by simp [bind, Except.bind])

/-- **No list endpoint tells a tenant about rows outside its scope.**  Whatever filters and
page an operator account or a passenger sends, states of the tables that agree on the scope
of the request give the same answer, and every item of it shows a row of that scope. -/
theorem lists_isolated (text : SearchText) (user : AuthUser) (htenant : IsTenant user)
    (query : ListQuery) (pagination : PaginationQuery) (t t' : Tables)
    (h : (scopeOf user query).Agree t t') :
    Isolated (scopeOf user query) t (respond text user query pagination t)
      (respond text user query pagination t') := by
  cases query with
  | bookings filter => exact (bookings_isolated htenant h filter).response.guarded _
  | waybills filter =>
    rcases htenant with ⟨hrole, hop⟩ | hrole
    · obtain ⟨operatorId, hop⟩ := Option.isSome_iff_exists.mp hop
      exact (waybills_isolated hrole hop h filter).response.guarded _
    · have hrefused : user.role ∉ [Role.admin, Role.operator] := by simp [hrole]
      exact isolated_of_refused (requireRole_of_notMem hrefused) _ _
  | myWaybills filter => exact (myWaybills_isolated rfl h filter).response
  | myCharters filter =>
    rcases htenant with ⟨hrole, hop⟩ | hrole
    · have hrefused : user.role ∉ [Role.passenger] := by simp [hrole]
      exact isolated_of_refused (requireRole_of_notMem hrefused) _ _
    · exact (charters_isolated hrole h filter).response.guarded _
  | transactions filter =>
    exact ((transactions_isolated htenant h filter).response.guarded _).guarded _

end

/-! ## Two operators, one of which sends a parcel -/

/-- `ILIKE` on patterns that start and end with `%` and have no other wildcard. -/
def plainText : SearchText where
  uuid := toString
  reference := toString
  waybillNo := toString
  ilike column pattern :=
    let needle := (pattern.toLower.toList.drop 1).dropLast
    column.toLower.toList.tails.any needle.isPrefixOf

/-- Operator 1 runs the first trip and operator 2 the second, each with a booking. -/
def twoOperators : Tables where
  users := [⟨7, "Ada Obi", "ada@swift.ng", "+2348000000001"⟩,
    ⟨8, "Bola Ade", "bola@mail.ng", "+2348000000002"⟩]
  operators := [⟨1, "Swift"⟩, ⟨2, "Metro"⟩]
  trips := [
    { id := 1, operatorId := 1, fromCity := "Lagos", toCity := "Abuja", departureTime := 1000,
      arrivalTime := none, price := 5000, totalSeats := 14, vehicleType := "bus",
      driverId := none, parkName := none, amenities := [] },
    { id := 2, operatorId := 2, fromCity := "Lagos", toCity := "Ibadan", departureTime := 2000,
      arrivalTime := none, price := 3000, totalSeats := 14, vehicleType := "van",
      driverId := none, parkName := none, amenities := [] }]
  bookings := [
    { id := 1, userId := 8, tripId := 1, status := .confirmed, totalAmount := 5000,
      paymentRef := some 41, createdAt := 10 },
    { id := 2, userId := 8, tripId := 2, status := .confirmed, totalAmount := 3000,
      paymentRef := some 42, createdAt := 20 }]

/-- A parcel that the account of operator 1 sends and nobody has quoted. -/
def parcel : WaybillRow :=
  { waybillNo := 5, userId := 7, senderName := "Ada Obi", senderPhone := "+2348000000001",
    recipientName := "Chi Eze", recipientPhone := "+2348000000003", fromLocation := "Lagos",
    toLocation := "Jos", id := 5, description := "Documents", createdAt := 30, updatedAt := 30 }

/-- The same tables without the other operator's booking, and with the parcel. -/
def twoOperatorsChanged : Tables :=
  { twoOperators with bookings := twoOperators.bookings.take 1, waybills := [parcel] }

/-- The account of operator 1. -/
def swift : AuthUser := ⟨7, .operator, some 1⟩

/-- An operator that asks for another's transactions is told of its own. -/
theorem lists_isolated_swift :
    Isolated (scopeOf swift (.transactions { operatorId := some 2, search := some "lagos" }))
      twoOperators
      (respond plainText swift (.transactions { operatorId := some 2, search := some "lagos" }) {}
        twoOperators)
      (respond plainText swift (.transactions { operatorId := some 2, search := some "lagos" }) {}
        twoOperatorsChanged) :=
  lists_isolated plainText swift (by decide) _ {} twoOperators twoOperatorsChanged
    (by decide +kernel)

/-- The waybills that an operator account has submitted lie outside its bookings and the waybills
assigned to it, and `listMyWaybills` lists them. -/
theorem own_shipments_listed :
    ¬ ∀ (text : SearchText) (user : AuthUser), IsTenant user → ∀ (query : ListQuery)
      (pagination : PaginationQuery) (t t' : Tables), (tenantScope user).Agree t t' →
        respond text user query pagination t = respond text user query pagination t' := by
  intro h
  have heq := h plainText swift (by decide) (.myWaybills {}) {} twoOperators twoOperatorsChanged
    (by decide +kernel)
  have hne : respond plainText swift (.myWaybills {}) {} twoOperators ≠
      respond plainText swift (.myWaybills {}) {} twoOperatorsChanged := by
    decide +kernel
  exact hne heq

end Listings
end TransHub
