import TransHub.Tenants.Services

/-!
# Who changes what an operator owns

Runs of requests with any tokens beside everything that signs tokens.

* `Continues`: what no step takes back.
* `ApiInv`, `ApiCall.Fine`: tokens stand, trips stay inside their operator, and the calls that
  are served have passed their guards; `api_step` says so of a step, and what it changes.
* `property_entitled`: who has made a change that a run has made.
-/

namespace TransHub
namespace Tenants

open Accounts Fleet Identity

variable {verify : Verify} {hashResetToken : RawToken → TokenHash}

/-! ## The other calls -/

/-- A call that writes no trip and no driver. -/
def QuietWork : WorkCall → Prop
  | .onboard _ | .createWaybill _ _ | .sendQuote _ _ | .writeQuote _ _ | .refetchWaybill _
  | .done _ => True
  | _ => False

def Quiet : IdentityCall → Prop
  | .work l => QuietWork l
  | _ => True

section Other

variable {i : ℕ} {token : Claims}

theorem quietWork_passed {l : WorkCall} (hl : QuietWork l) (w : WorkDB) : l.Passed w := by
  cases l with
  | checkDriver => exact hl.elim
  | insertTrip => exact hl.elim
  | _ => trivial

theorem after_quiet {w w' : WorkDB} {next l' : WorkCall} {result : Except Thrown WorkDB}
    (hnext : QuietWork next)
    (hresult : ∀ v, result = .ok v → v.ledger = w.ledger ∧ v.drivers = w.drivers)
    (h : WorkCall.after w next result = (l', w')) :
    QuietWork l' ∧ w'.ledger = w.ledger ∧ w'.drivers = w.drivers := by
  cases result with
  | error e =>
    cases h
    exact ⟨trivial, rfl, rfl⟩
  | ok v =>
    cases h
    exact ⟨hnext, hresult _ rfl⟩

theorem sendQuote_quiet {w w' : WorkDB} {id : WaybillId} {data : WaybillQuote} {now : Time}
    (h : w.sendQuote id data now = .ok w') : w'.ledger = w.ledger ∧ w'.drivers = w.drivers := by
  obtain ⟨_, -, h⟩ := bind_eq_ok.mp h
  obtain ⟨_, -, h⟩ := bind_eq_ok.mp h
  cases h
  exact ⟨rfl, rfl⟩

theorem insertWaybill_quiet {w w' : WorkDB} {x : WorkInput} {data : WaybillRequest} {row : Waybill}
    (h : w.insertWaybill x data = .ok (row, w')) :
    w'.ledger = w.ledger ∧ w'.drivers = w.drivers := by
  obtain ⟨waybills, -, h⟩ := bind_eq_ok.mp h
  cases h
  exact ⟨rfl, rfl⟩

theorem quiet_work {l l' : WorkCall} {w w' : WorkDB} {x : WorkInput} (hl : QuietWork l)
    (h : WorkCall.step i l w x = some (l', w')) :
    QuietWork l' ∧ w'.ledger = w.ledger ∧ w'.drivers = w.drivers := by
  unfold WorkCall.step at h
  split at h
  · obtain ⟨p, -, h⟩ := Option.map_eq_some_iff.mp h
    cases h
    exact ⟨trivial, rfl, rfl⟩
  · cases h
  · split at h
    · cases h
      exact ⟨trivial, rfl, rfl⟩
    · cases l with
      | onboard call => cases h
      | done result => cases h
      | createWaybill data retry =>
        dsimp only [WorkCall.perform] at h
        split at h
        · split at h <;> cases h <;> exact ⟨trivial, rfl, rfl⟩
        · cases h
          exact ⟨trivial, rfl, rfl⟩
        · next hinsert =>
          cases h
          exact ⟨trivial, insertWaybill_quiet hinsert⟩
      | sendQuote id data =>
        dsimp only [WorkCall.perform] at h
        split at h <;> cases h <;> exact ⟨trivial, rfl, rfl⟩
      | writeQuote id data =>
        have hnext : QuietWork (.refetchWaybill id) := trivial
        exact after_quiet hnext (fun v hv => sendQuote_quiet hv) (Option.some.inj h)
      | refetchWaybill id =>
        dsimp only [WorkCall.perform] at h
        split at h <;> cases h <;> exact ⟨trivial, rfl, rfl⟩
      | _ => exact hl.elim

/-- **The other calls write no trip and no driver.** -/
theorem quiet_identity {l l' : IdentityCall} {r r' : IdentityDB} {x : IdentityInput}
    (hl : Quiet l) (he : IdentityEffect verify hashResetToken i l r x l' r') :
    Quiet l' ∧ r'.work.ledger = r.work.ledger ∧ r'.work.drivers = r.work.drivers := by
  cases he with
  | idle l' hnot hl' =>
    refine ⟨?_, rfl, rfl⟩
    cases l' with
    | work call => exact hl'.elim
    | _ => trivial
  | work call call' work hl' h =>
    subst hl'
    exact quiet_work hl h
  | _ => exact ⟨trivial, rfl, rfl⟩

end Other

/-! ## What no step takes back -/

/-- What holds of the tables goes on to hold of the later ones. -/
structure Continues (r r' : ApiDB) : Prop where
  signed : r.identity.signed ⊆ r'.identity.signed
  accounts : Succeeds r.identity r'.identity
  passed : ∀ l : WorkCall, l.Passed r.identity.work → l.Passed r'.identity.work
  inside : ∀ t, TripInside r.identity.work t → TripInside r'.identity.work t
  vehicles : Stay r.vehicles r'.vehicles

/-- The tables are sound. -/
structure ApiInv (r : ApiDB) : Prop where
  stands : ∀ t ∈ r.identity.signed, Stands t r.identity
  inside : ∀ t ∈ r.trips, TripInside r.identity.work t
  ids : (r.vehicles.map Vehicle.id).Nodup

/-- What is known of a call: if it is served, its token was signed and its guards have passed. -/
def ApiCall.Fine (r : ApiDB) : ApiCall → Prop
  | .other l => Quiet l
  | .received _ _ => True
  | .serving token l => (∃ e, l = .refused e) ∨ token ∈ r.identity.signed ∧ Licensed token r l

theorem ApiCall.Fine.continues {r r' : ApiDB} {l : ApiCall} (h : l.Fine r)
    (hc : Continues r r') : l.Fine r' := by
  cases l with
  | other l => exact h
  | received token op => trivial
  | serving token l =>
    refine h.imp id ?_
    rintro ⟨hsigned, hl⟩
    refine ⟨hc.signed hsigned, ?_⟩
    cases l with
    | work l => exact ⟨hl.1, hc.passed l hl.2⟩
    | trip l => exact hl
    | fleet l => exact FleetLicensed.stay hc.vehicles hl
    | refused e => trivial

section Kept

variable {i : ℕ} {token : Claims} {r r' : ApiDB} {w w' : WorkDB}

theorem passed_of_kept (happroved : ∀ id, Approved id w → Approved id w')
    (hemploys : ∀ o id, Drivers.Employs o id w.drivers → Drivers.Employs o id w'.drivers)
    {l : WorkCall} (h : l.Passed w) : l.Passed w' := by
  cases l with
  | checkDriver input o id => exact ⟨happroved _ h.1, h.2⟩
  | insertTrip input o => exact ⟨happroved _ h.1, fun id hid => hemploys _ _ (h.2 id hid)⟩
  | _ => trivial

theorem inside_of_kept (happroved : ∀ id, Approved id w → Approved id w')
    (hemploys : ∀ o id, Drivers.Employs o id w.drivers → Drivers.Employs o id w'.drivers)
    {t : Trip} (h : TripInside w t) : TripInside w' t :=
  ⟨happroved _ h.operator, fun id hid => hemploys _ _ (h.driver id hid)⟩

theorem Continues.refl (r : ApiDB) : Continues r r :=
  ⟨fun _ h => h, .refl _, fun _ h => h, fun _ h => h, .refl _⟩

/-- Approvals outlive every step of the calls that sign tokens. -/
theorem approved_of_effect {l l' : IdentityCall} {s s' : IdentityDB} {x : IdentityInput}
    (he : IdentityEffect verify hashResetToken i l s x l' s') {id : OperatorId}
    (h : Approved id s.work) : Approved id s'.work := by
  cases he with
  | work call call' work hl hstep => exact (step_effect hstep).approved h
  | _ => exact h

theorem signed_of_effect {l l' : IdentityCall} {s s' : IdentityDB} {x : IdentityInput}
    (he : IdentityEffect verify hashResetToken i l s x l' s') : s.signed ⊆ s'.signed := by
  cases he with
  | work call call' work hl hstep => exact List.subset_append_right _ _
  | logIn => exact List.subset_cons_self _ _
  | driverLogIn => exact List.subset_cons_self _ _
  | profile => exact List.subset_cons_self _ _
  | _ => exact List.Subset.refl _

theorem Continues.of_effect {l l' : IdentityCall} {s s' : IdentityDB} {x : IdentityInput}
    (he : IdentityEffect verify hashResetToken i l s x l' s') (vehicles : List Vehicle) :
    Continues ⟨s, vehicles⟩ ⟨s', vehicles⟩ :=
  have hsucc : Succeeds s s' := .of_effect he
  ⟨signed_of_effect he, hsucc,
    fun _ => passed_of_kept (fun _ => approved_of_effect he) hsucc.drivers,
    fun _ => inside_of_kept (fun _ => approved_of_effect he) hsucc.drivers, .refl _⟩

/-- A step of a call whose checks, if it inserts a trip, have passed. -/
theorem ApiInv.of_effect {l l' : IdentityCall} {s s' : IdentityDB} {x : IdentityInput}
    {vehicles : List Vehicle} (h : ApiInv ⟨s, vehicles⟩)
    (he : IdentityEffect verify hashResetToken i l s x l' s')
    (hpassed : ∀ call, l = .work call → call.Passed s.work) : ApiInv ⟨s', vehicles⟩ where
  stands t ht := by
    rcases signs_true he ht with ht | htells
    · exact (h.stands t ht).succeeds (.of_effect he)
    · exact htells.stands
  inside := by
    have hcont : Continues ⟨s, vehicles⟩ ⟨s', vehicles⟩ := .of_effect he vehicles
    intro t ht
    cases he with
    | work call call' work hl hstep =>
      exact (step_effect hstep).trips (hpassed call hl) h.inside t ht
    | _ => exact hcont.inside t (h.inside t ht)
  ids := h.ids

end Kept

/-! ## What a step may change -/

/-- Only the operator that the token names has his property changed, apart from loads of trips
that the token may change. -/
def Allowed (token : Claims) (o : OperatorId) (r r' : ApiDB) : Prop :=
  (r'.propertyOf o ≠ r.propertyOf o →
    OperatorToken token o ∨ ∃ t ∈ r.trips, t.operatorId = o ∧ MayLoad token t) ∧
  ((r'.propertyOf o).timetable ≠ (r.propertyOf o).timetable → OperatorToken token o)

theorem Allowed.of_leaves {token : Claims} {o : OperatorId} {r r' : ApiDB}
    (h : ¬ OperatorToken token o → Leaves o r r') : Allowed token o r r' := by
  by_cases ho : OperatorToken token o
  · exact ⟨fun _ => Or.inl ho, fun _ => ho⟩
  · have heq := (h ho).propertyOf
    exact ⟨fun hne => absurd heq hne, fun hne => absurd (congrArg Property.timetable heq) hne⟩

/-- An edit of trips. -/
theorem Allowed.of_trips {token : Claims} {r r' : ApiDB} (h : TripEffect token r.trips r'.trips)
    (hdrivers : r'.drivers = r.drivers) (hvehicles : r'.vehicles = r.vehicles)
    (o : OperatorId) : Allowed token o r r' := by
  obtain ⟨p, f, htrips, hf, hp⟩ := h
  have hown : ∀ t, tripOf o (f t) = tripOf o t := by
    intro t
    rw [tripOf, tripOf, (hf t).1]
  have hleaves : (∀ t ∈ r.trips, tripOf o t = true → p t = false) → Leaves o r r' := by
    intro hnone
    refine ⟨?_, ?_, ?_⟩
    · rw [htrips]
      exact Scope.agree_updateMany hown hnone
    · rw [hdrivers, Scope.Agree]
    · rw [hvehicles, Scope.Agree]
  rcases hp with hp | ⟨hp, htimetable⟩
  · refine .of_leaves fun ho => hleaves ?_
    intro t _ ht
    refine Bool.eq_false_iff.mpr fun hpt => ho ?_
    rw [← show t.operatorId = o from eq_of_beq ht]
    exact hp t hpt
  · refine ⟨?_, ?_⟩
    · intro hne
      by_contra hnot
      push Not at hnot
      refine hne (hleaves ?_).propertyOf
      intro t hmem ht
      exact Bool.eq_false_iff.mpr fun hpt => hnot.2 t hmem (eq_of_beq ht) (hp t hpt)
    · intro hne
      refine absurd ?_ hne
      rw [Property.timetable, Property.timetable, ApiDB.propertyOf, ApiDB.propertyOf]
      dsimp only
      rw [htrips, hdrivers, hvehicles,
        Scope.map_filter_updateMany hown fun t _ _ _ => htimetable t]

/-- What a step of a request does. -/
structure Served (token : Claims) (l' : ServiceCall) (r r' : ApiDB) : Prop where
  continues : Continues r r'
  inv : ApiInv r'
  licensed : Licensed token r' l'
  allowed : ∀ o, Allowed token o r r'

theorem service_step {i : ℕ} {token : Claims} {l l' : ServiceCall} {r r' : ApiDB} {x : ApiInput}
    (hinv : ApiInv r) (hl : Licensed token r l) (h : l.step i r x = some (l', r')) :
    Served token l' r r' := by
  cases l with
  | work call =>
    obtain ⟨p, hp, heq⟩ := Option.map_eq_some_iff.mp h
    cases heq
    -- A call that is served takes the steps that it takes elsewhere.
    have he : IdentityEffect (fun _ _ => false) id i (.work call) r.identity x.toIdentityInput
        (.work p.1) (r.identity.afterWork call p.1 p.2) := .work call p.1 p.2 rfl hp
    obtain ⟨hl', hsame⟩ := work_same hl.1 hp
    refine ⟨.of_effect he r.vehicles, hinv.of_effect he ?_, ⟨hl', step_passed hl.2 hp⟩, ?_⟩
    · rintro call' ⟨⟩
      exact hl.2
    · intro o
      refine .of_leaves fun ho => ?_
      exact ⟨(hsame o ho).1, (hsame o ho).2, rfl⟩
  | trip call =>
    dsimp only [ServiceCall.step] at h
    split at h
    · cases h
      exact ⟨.refl r, hinv, trivial, fun o => .of_leaves fun _ => .of_eq rfl rfl rfl⟩
    · obtain ⟨p, hp, heq⟩ := Option.map_eq_some_iff.mp h
      cases heq
      obtain ⟨hl', he⟩ := trip_effect hl hp
      refine ⟨⟨fun _ h => h, .of_eq rfl rfl, fun _ => passed_of_kept (fun _ h => h) fun _ _ h => h,
        fun _ h => ⟨h.operator, h.driver⟩, .refl _⟩, ?_, hl',
        .of_trips he rfl rfl⟩
      refine ⟨hinv.stands, ?_, hinv.ids⟩
      obtain ⟨q, f, htrips, hf, -⟩ := he
      intro t ht
      rw [show (r.withLedger p.2).trips = _ from htrips] at ht
      obtain ⟨s, hs, rfl⟩ := Table.mem_updateMany.mp ht
      have hin := hinv.inside s hs
      split
      · refine ⟨by rw [(hf s).1]; exact hin.operator, ?_⟩
        rw [(hf s).1, (hf s).2]
        exact hin.driver
      · exact ⟨hin.operator, hin.driver⟩
  | fleet call =>
    obtain ⟨p, hp, heq⟩ := Option.map_eq_some_iff.mp h
    cases heq
    have hkept := fleet_kept (r := r.fleetDB) hinv.ids hl hp
    refine ⟨⟨fun _ h => h, .refl _, fun _ h => h, fun _ h => h, hkept.stay⟩,
      ⟨hinv.stands, hinv.inside, hkept.ids⟩, hkept.licensed, ?_⟩
    exact fun o => .of_leaves fun ho => ⟨rfl, rfl, hkept.same o ho⟩
  | refused e => cases h

/-! ## The guards -/

theorem operatorOnly_ok {user : AuthUser} {operatorId : AuthUser → Except Thrown OperatorId}
    {call : OperatorId → ServiceCall} {l : ServiceCall}
    (h : operatorOnly user operatorId call = .ok l) :
    user.role = .operator ∧ ∃ o, operatorId user = .ok o ∧ l = call o := by
  obtain ⟨_, hrole, h⟩ := bind_eq_ok.mp h
  obtain ⟨o, ho, h⟩ := bind_eq_ok.mp h
  cases h
  exact ⟨List.mem_singleton.mp (requireRole_eq_ok.mp hrole), o, ho, rfl⟩

theorem mayLoad_of_matches {token : Claims} {id : TripId} {call : TripCall} {l : ServiceCall}
    (h : loadOf token.toAuthUser call = .ok l) {t : Trip}
    (ht : (Trips.ownerFilter token.role token.operatorId (driverIdOf token.toAuthUser)).matches id t
      = true) : MayLoad token t := by
  obtain ⟨_, hrole, h⟩ := bind_eq_ok.mp h
  obtain ⟨_, hlinked, -⟩ := bind_eq_ok.mp h
  have hmem := requireRole_eq_ok.mp hrole
  have hcheck := ensure_eq_ok.mp hlinked
  rw [Trips.OwnerFilter.matches, Bool.and_eq_true, Bool.and_eq_true] at ht
  obtain ⟨⟨-, hop⟩, hdriver⟩ := ht
  unfold MayLoad
  cases hr : token.role with
  | admin => trivial
  | driver =>
    rw [hr, Trips.ownerFilter, driverIdOf, if_pos hr] at hdriver
    exact eq_of_beq hdriver
  | operator =>
    rw [hr] at hop hcheck
    cases ho : token.operatorId with
    | none =>
      rw [ho] at hcheck
      exact absurd hcheck (by simp)
    | some o =>
      rw [ho, Trips.ownerFilter] at hop
      rw [eq_of_beq hop]
  | passenger =>
    rw [hr] at hmem
    exact absurd hmem (by simp)

/-- **A request that the guards let through is licensed.** -/
theorem admit_licensed {token : Claims} {op : ResourceOp} {l : ServiceCall} (r : ApiDB)
    (h : op.admit token.toAuthUser = .ok l) : Licensed token r l := by
  have hown : ∀ {operatorId : AuthUser → Except Thrown OperatorId}
      {call : OperatorId → ServiceCall},
      (∀ o, operatorId token.toAuthUser = .ok o → token.operatorId = some o) →
      operatorOnly token.toAuthUser operatorId call = .ok l →
      ∃ o, OperatorToken token o ∧ l = call o := by
    intro operatorId call hlinked h
    obtain ⟨hrole, o, ho, rfl⟩ := operatorOnly_ok h
    exact ⟨o, ⟨hrole, hlinked o ho⟩, rfl⟩
  have hlinked : ∀ o, linkedOperator token.toAuthUser = .ok o → token.operatorId = some o :=
    fun _ => orThrow_eq_ok.mp
  have hemployer : ∀ o, employer token.toAuthUser = .ok o → token.operatorId = some o :=
    fun _ => orThrow_eq_ok.mp
  cases op with
  | createTrip input =>
    obtain ⟨o, ho, rfl⟩ := hown hlinked h
    exact ⟨ho, trivial⟩
  | toggleActive id isActive =>
    obtain ⟨o, ho, rfl⟩ := hown hlinked h
    exact ho
  | removeTrip id =>
    obtain ⟨o, ho, rfl⟩ := hown hlinked h
    exact ⟨ho, trivial⟩
  | markFull id isFull =>
    have hload : ∀ t, (Trips.ownerFilter token.role token.operatorId
        (driverIdOf token.toAuthUser)).matches id t = true → MayLoad token t :=
      fun t => mayLoad_of_matches h
    obtain ⟨_, -, h⟩ := bind_eq_ok.mp h
    obtain ⟨_, -, h⟩ := bind_eq_ok.mp h
    cases h
    exact hload
  | setOfflineCount id offlineCount =>
    have hload : ∀ t, (Trips.ownerFilter token.role token.operatorId
        (driverIdOf token.toAuthUser)).matches id t = true → MayLoad token t :=
      fun t => mayLoad_of_matches h
    obtain ⟨_, -, h⟩ := bind_eq_ok.mp h
    obtain ⟨_, -, h⟩ := bind_eq_ok.mp h
    cases h
    exact hload
  | createDriver input =>
    obtain ⟨o, ho, rfl⟩ := hown hemployer h
    exact ⟨ho, trivial⟩
  | updateDriver id data =>
    obtain ⟨o, ho, rfl⟩ := hown hemployer h
    exact ⟨ho, trivial⟩
  | deactivateDriver id =>
    obtain ⟨o, ho, rfl⟩ := hown hemployer h
    exact ⟨ho, trivial⟩
  | addVehicle data =>
    obtain ⟨o, ho, rfl⟩ := hown hlinked h
    exact ho
  | updateVehicle id data =>
    obtain ⟨o, ho, rfl⟩ := hown hlinked h
    exact ho
  | removeVehicle id =>
    obtain ⟨o, ho, rfl⟩ := hown hlinked h
    exact ho

/-! ## Runs -/

/-- What a step of any call does: only calls that are served change property. -/
theorem api_step {i : ℕ} {l l' : ApiCall} {r r' : ApiDB} {x : ApiInput} (hinv : ApiInv r)
    (hl : l.Fine r) (h : ApiCall.step verify hashResetToken i l r x = some (l', r')) :
    Continues r r' ∧ ApiInv r' ∧ l'.Fine r' ∧
      ((∃ token call, l = .serving token call ∧ token ∈ r.identity.signed ∧
          ∀ o, Allowed token o r r') ∨ ∀ o, r'.propertyOf o = r.propertyOf o) := by
  cases l with
  | other l =>
    obtain ⟨p, hp, heq⟩ := Option.map_eq_some_iff.mp h
    cases heq
    have he := identity_effect hp
    obtain ⟨hl', hledger, hdrivers⟩ := quiet_identity hl he
    refine ⟨.of_effect he r.vehicles, hinv.of_effect he ?_, hl', Or.inr fun o => ?_⟩
    · rintro call rfl
      exact quietWork_passed hl _
    · have hleaves : Leaves o r ⟨p.2, r.vehicles⟩ :=
        .of_eq (congrArg DB.trips hledger) hdrivers rfl
      exact hleaves.propertyOf
  | received token op =>
    cases h
    refine ⟨.refl r, hinv, ?_, Or.inr fun o => rfl⟩
    unfold receive
    split
    · next hsigned =>
      split
      · exact Or.inl ⟨_, rfl⟩
      · next hadmit =>
        exact Or.inr ⟨List.contains_iff_mem.mp hsigned, admit_licensed r hadmit⟩
    · exact Or.inl ⟨_, rfl⟩
  | serving token l =>
    obtain ⟨p, hp, heq⟩ := Option.map_eq_some_iff.mp h
    cases heq
    rcases hl with ⟨e, rfl⟩ | ⟨hsigned, hl⟩
    · cases hp
    · have hserved := service_step hinv hl hp
      exact ⟨hserved.continues, hserved.inv,
        Or.inr ⟨hserved.continues.signed hsigned, hserved.licensed⟩,
        Or.inl ⟨token, l, rfl, hsigned, hserved.allowed⟩⟩

/-- **The proof outline of the requests.** -/
theorem apiOutline : (apiMachine verify hashResetToken).Outline (fun _ => True)
    (fun r => ∃ users, Table.Unique User.clash users ∧ (∀ u ∈ users, u.operatorId = none) ∧
      r = ⟨identityStart users, []⟩) (fun _ r => ApiInv r) (fun _ l r => l.Fine r) where
  init := by
    rintro r ⟨users, -, -, rfl⟩
    exact ⟨fun t ht => absurd ht List.not_mem_nil, fun t ht => absurd ht List.not_mem_nil,
      List.nodup_nil⟩
  spawn _ _ _ _ h := h
  start n o r _ _ := by
    cases o with
    | other o => cases o <;> trivial
    | request token op => trivial
  shared n i x l r l' r' _ _ h hl hs := (api_step h hl hs).2.1
  self n i x l r l' r' _ _ h hl hs := (api_step h hl hs).2.2.1
  other n i x l r l' r' j m _ _ _ h hl hm hs := hm.continues (api_step h hl hs).1
  env_shared n e := e.elim
  env_other n e := e.elim

/-- An account of the operator. -/
def IsAccountOf (token : Claims) (o : OperatorId) (r : ApiDB) : Prop :=
  ∃ u ∈ r.users, u.id = token.id ∧ u.role = .operator ∧ u.operatorId = some o

/-- A driver whom the operator employs, and to whom it has given a trip. -/
def IsDriverOf (token : Claims) (o : OperatorId) (r : ApiDB) : Prop :=
  token.role = .driver ∧ Drivers.Employs o token.id r.drivers ∧
    ∃ t ∈ r.trips, t.operatorId = o ∧ t.driverId = some token.id

def IsAdmin (token : Claims) (r : ApiDB) : Prop :=
  ∃ u ∈ r.users, u.id = token.id ∧ u.role = .admin

theorem account_of_stands {token : Claims} {o : OperatorId} {r : ApiDB}
    (h : Stands token r.identity) (ho : OperatorToken token o) : IsAccountOf token o r := by
  rcases h with ⟨u, hu, hid, hrole, hop⟩ | ⟨hrole, -⟩
  · exact ⟨u, hu, hid, hrole.trans ho.1, hop.trans ho.2⟩
  · exact absurd (hrole.symm.trans ho.1) (by decide)

/-- Who may change the load of a trip. -/
theorem who_mayLoad {token : Claims} {r : ApiDB} (hinv : ApiInv r)
    (h : Stands token r.identity) {t : Trip} (ht : t ∈ r.trips) (hload : MayLoad token t) :
    IsAccountOf token t.operatorId r ∨ IsDriverOf token t.operatorId r ∨ IsAdmin token r := by
  unfold MayLoad at hload
  split at hload
  · next hrole =>
    rcases h with ⟨u, hu, hid, hurole, -⟩ | ⟨hdriver, -⟩
    · exact Or.inr (Or.inr ⟨u, hu, hid, hurole.trans hrole⟩)
    · exact absurd (hdriver.symm.trans hrole) (by decide)
  · next hrole =>
    exact Or.inr (Or.inl ⟨hrole, (hinv.inside t ht).driver _ hload, t, ht, rfl, hload⟩)
  · next hrole => exact Or.inl (account_of_stands h ⟨hrole, hload⟩)
  · exact hload.elim

/-- The next step is one of a request with this token, and the token has been signed. -/
def TakenBy (token : Claims) (c : Config ApiDB ApiCall) (a : Act ApiOp ApiInput Empty) : Prop :=
  token ∈ c.shared.identity.signed ∧
    ∃ i x call, a = .run i x ∧ c.procs[i]? = some (.serving token call)

/-- **A change of property, and who makes it.** -/
theorem property_step {c c' : Config ApiDB ApiCall} {a : Act ApiOp ApiInput Empty}
    (hc : (api verify hashResetToken).Reachable c)
    (hs : (api verify hashResetToken).step c a = some c')
    {o : OperatorId} (hne : c'.shared.propertyOf o ≠ c.shared.propertyOf o) :
    ∃ token, TakenBy token c a ∧ (IsAccountOf token o c.shared ∨
      ((c'.shared.propertyOf o).timetable = (c.shared.propertyOf o).timetable ∧
        (IsDriverOf token o c.shared ∨ IsAdmin token c.shared))) := by
  obtain ⟨hinv, hfine⟩ := apiOutline.invariant hc.by_any
  rcases Machine.next_cases hs with ⟨op, -, rfl⟩ | ⟨i, x, l, l', r', rfl, hi, hown, rfl⟩ | ⟨e, -⟩
  · exact absurd rfl hne
  · have hchange := (api_step hinv (hfine i l hi) hown).2.2.2
    rcases hchange with ⟨token, call, rfl, hsigned, hallowed⟩ | hsame
    · refine ⟨token, ⟨hsigned, i, x, call, rfl, hi⟩, ?_⟩
      have hstands := hinv.stands token hsigned
      by_cases ho : OperatorToken token o
      · exact Or.inl (account_of_stands hstands ho)
      · have htimetable := not_not.mp fun h => ho ((hallowed o).2 h)
        rcases (hallowed o).1 hne with hop | ⟨t, ht, rfl, hload⟩
        · exact absurd hop ho
        · exact (who_mayLoad hinv hstands ht hload).imp id fun h => ⟨htimetable, h⟩
    · exact absurd (hsame o) hne
  · exact e.elim

/-- **Only entitled requests change property.**  When the rows of an operator have changed in a
run, one of its requests has done so with a signed token of an account of the operator, or else
only loads of trips, with one of an admin or of a driver to whom the operator has given a trip;
what is not load, with one of an account of the operator. -/
theorem property_entitled {c c' : Config ApiDB ApiCall} {acts : List (Act ApiOp ApiInput Empty)}
    (hc : (api verify hashResetToken).Reachable c)
    (hrun : (api verify hashResetToken).run c acts = some c')
    (o : OperatorId) :
    (c'.shared.propertyOf o ≠ c.shared.propertyOf o →
      ∃ l₁ a l₂ m token, acts = l₁ ++ a :: l₂ ∧ (api verify hashResetToken).run c l₁ = some m ∧
        TakenBy token m a ∧ (IsAccountOf token o m.shared ∨ IsDriverOf token o m.shared ∨
          IsAdmin token m.shared)) ∧
    ((c'.shared.propertyOf o).timetable ≠ (c.shared.propertyOf o).timetable →
      ∃ l₁ a l₂ m token, acts = l₁ ++ a :: l₂ ∧ (api verify hashResetToken).run c l₁ = some m ∧
        TakenBy token m a ∧ IsAccountOf token o m.shared) := by
  refine ⟨?_, ?_⟩
  · intro hne
    obtain ⟨l₁, a, l₂, m, m', hacts, hm, hs, hchange⟩ :=
      System.exists_change (fun c => c.shared.propertyOf o) hrun hne
    obtain ⟨token, htaken, hwho⟩ := property_step (hc.run hm) hs hchange
    exact ⟨l₁, a, l₂, m, token, hacts, hm, htaken, hwho.imp id And.right⟩
  · intro hne
    obtain ⟨l₁, a, l₂, m, m', hacts, hm, hs, hchange⟩ :=
      System.exists_change (fun c => (c.shared.propertyOf o).timetable) hrun hne
    obtain ⟨token, htaken, hwho⟩ := property_step (hc.run hm) hs
      fun h => hchange (congrArg Property.timetable h)
    rcases hwho with haccount | ⟨hsame, -⟩
    · exact ⟨l₁, a, l₂, m, token, hacts, hm, htaken, haccount⟩
    · exact absurd hsame hchange

/-! ## One company -/

/-- Somebody without an account. -/
def mallory : Claims := ⟨⟨8, .operator, some 3⟩, none, "Mallory", "08039999999"⟩

def choices (uuid : ℕ) : ApiInput := ⟨⟨Fleet.plain uuid, 55⟩, uuid⟩

/-- The contact of a company adds a minibus; a token that was not signed does not take it away. -/
def companyRun : List (Act ApiOp ApiInput Empty) :=
  swiftJoins (fun o => .other (.onboard o)) (fun email password => .other (.login email password))
    choices ++
  [.spawn (.request bola (.addVehicle ⟨"LAG-1", "Toyota", "Hiace", 14, .minibus⟩)),
    .run 3 (choices 7), .run 3 (choices 7),
    .spawn (.request mallory (.removeVehicle 7)), .run 4 (choices 0)]

def noCompany : Config ApiDB ApiCall := ⟨⟨identityStart [], []⟩, []⟩

theorem noCompany_reachable : (api verifyPlain id).Reachable noCompany :=
  .of_init ⟨⟨[], List.Pairwise.nil, fun _ h => absurd h List.not_mem_nil, rfl⟩, rfl⟩

theorem companyRun_runs : ((api verifyPlain id).run noCompany companyRun).isSome = true := by
  decide +kernel

def company : Config ApiDB ApiCall :=
  ((api verifyPlain id).run noCompany companyRun).get companyRun_runs

theorem property_entitled_company :
    (company.shared.propertyOf 3).vehicles.map (fun v => v.plate) = ["LAG-1"] ∧
    ∃ l₁ a l₂ m token, companyRun = l₁ ++ a :: l₂ ∧ (api verifyPlain id).run noCompany l₁ = some m ∧
      TakenBy token m a ∧ IsAccountOf token 3 m.shared :=
  ⟨by decide +kernel, (property_entitled noCompany_reachable (Option.some_get companyRun_runs).symm
    3).2 (by decide +kernel)⟩

end Tenants
end TransHub
