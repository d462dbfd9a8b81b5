import TransHub.Identity.Calls

/-!
# What the calls do to the accounts

* `IdentityEffect`, `identity_effect`: what a step can do.
* `Succeeds`: accounts and drivers stay, with their ids, roles and operators;
  `identity_succeeds` says so for whole runs.
-/

namespace TransHub
namespace Identity

open Accounts Fleet

variable {verify : Verify} {hashResetToken : RawToken → TokenHash}

/-! ## The accounts after a step of the other services -/

section Other

theorem register_users {i : ℕ} {input : RegisterInput} {pc pc' : SignUpPc} {r r' : OnboardDB}
    {x : OnboardInput} (hs : OnboardCall.stepRegister i input pc r x = some (pc', r')) :
    (openedBy (.onboard (.register input pc)) (.onboard (.register input pc')) = none ∧
      r'.users = r.users) ∨
    ∃ u, openedBy (.onboard (.register input pc)) (.onboard (.register input pc')) = some u ∧
      r'.users = r.users ++ [u] := by
  unfold OnboardCall.stepRegister at hs
  split at hs
  · exact absurd hs (by simp)
  · split at hs
    · cases hs
      exact Or.inl ⟨rfl, rfl⟩
    · split at hs <;> cases hs <;> exact Or.inl ⟨rfl, rfl⟩
  · split at hs
    · cases hs
      exact Or.inl ⟨rfl, rfl⟩
    · split at hs
      · exact absurd hs (by simp)
      · split at hs
        · cases hs
          exact Or.inl ⟨rfl, rfl⟩
        · next users hins =>
          cases hs
          obtain ⟨-, rfl⟩ := Table.insert_eq_some.mp hins
          exact Or.inr ⟨_, rfl, rfl⟩

theorem approve_users {i : ℕ} {id : OperatorId} {pc pc' : ApprovePc} {r r' : OnboardDB}
    {x : OnboardInput} (hs : OnboardCall.stepApprove i id pc r x = some (pc', r')) :
    (openedBy (.onboard (.approve id pc)) (.onboard (.approve id pc')) = none ∧
      r'.users = r.users) ∨
    ∃ u, openedBy (.onboard (.approve id pc)) (.onboard (.approve id pc')) = some u ∧
      r'.users = r.users ++ [u] := by
  unfold OnboardCall.stepApprove at hs
  split at hs
  case h_6 op reviewedAt u =>
    split at hs <;> cases hs
    · exact Or.inl ⟨rfl, rfl⟩
    · exact Or.inr ⟨u, rfl, rfl⟩
  case h_1 => exact absurd hs (by simp)
  all_goals
    refine Or.inl ?_
    repeat' split at hs
    all_goals cases hs
    all_goals exact ⟨rfl, rfl⟩

theorem onboard_users {i : ℕ} {l l' : OnboardCall} {r r' : OnboardDB} {x : OnboardInput}
    (hs : OnboardCall.step i l r x = some (l', r')) :
    (openedBy (.onboard l) (.onboard l') = none ∧ r'.users = r.users) ∨
    ∃ u, openedBy (.onboard l) (.onboard l') = some u ∧ r'.users = r.users ++ [u] := by
  unfold OnboardCall.step at hs
  split at hs
  all_goals
    obtain ⟨⟨pc', s⟩, hpc, heq⟩ := Option.map_eq_some_iff.mp hs
    cases heq
  · exact register_users hpc
  · refine Or.inl ⟨rfl, ?_⟩
    unfold OnboardCall.stepRegisterOperator at hpc
    repeat' split at hpc
    all_goals cases hpc
    all_goals rfl
  · exact approve_users hpc
  · refine Or.inl ⟨rfl, ?_⟩
    unfold OnboardCall.stepDecline at hpc
    repeat' split at hpc
    all_goals cases hpc
    all_goals rfl

theorem insertDriver_onboard {w w' : WorkDB} {d : Driver} (h : w.insertDriver d = .ok w') :
    w'.onboard = w.onboard := by
  obtain ⟨_, -, h⟩ := bind_eq_ok.mp h
  obtain ⟨drivers, -, h⟩ := bind_eq_ok.mp h
  cases h
  rfl

theorem insertTrip_onboard {w w' : WorkDB} {x : WorkInput} {input : TripData}
    {operatorId : OperatorId} (h : w.insertTrip x input operatorId = .ok w') :
    w'.onboard = w.onboard := by
  obtain ⟨_, -, h⟩ := bind_eq_ok.mp h
  obtain ⟨ledger, -, h⟩ := bind_eq_ok.mp h
  cases h
  rfl

theorem insertWaybill_onboard {w w' : WorkDB} {x : WorkInput} {data : WaybillRequest}
    {row : Waybill} (h : w.insertWaybill x data = .ok (row, w')) : w'.onboard = w.onboard := by
  obtain ⟨waybills, -, h⟩ := bind_eq_ok.mp h
  cases h
  rfl

theorem sendQuote_onboard {w w' : WorkDB} {id : WaybillId} {data : WaybillQuote} {now : Time}
    (h : w.sendQuote id data now = .ok w') : w'.onboard = w.onboard := by
  obtain ⟨_, -, h⟩ := bind_eq_ok.mp h
  obtain ⟨_, -, h⟩ := bind_eq_ok.mp h
  cases h
  rfl

/-- A step that leaves the accounts and operators alone and ends in no call of theirs. -/
def Elsewhere (w : WorkDB) (p : WorkCall × WorkDB) : Prop :=
  p.2.onboard = w.onboard ∧ ∀ call, p.1 ≠ .onboard call

theorem elsewhere_thrown (w : WorkDB) (e : Thrown) : Elsewhere w (WorkCall.thrown e, w) :=
  ⟨rfl, fun _ => by simp [WorkCall.thrown]⟩

theorem checked_elsewhere {w : WorkDB} {next : WorkCall} (hnext : ∀ call, next ≠ .onboard call)
    (result : Except Thrown Unit) : Elsewhere w (WorkCall.checked w next result) := by
  cases result with
  | error e => exact elsewhere_thrown w e
  | ok _ => exact ⟨rfl, hnext⟩

theorem after_elsewhere {w : WorkDB} {next : WorkCall} (hnext : ∀ call, next ≠ .onboard call)
    {result : Except Thrown WorkDB} (hresult : ∀ v, result = .ok v → v.onboard = w.onboard) :
    Elsewhere w (WorkCall.after w next result) := by
  cases result with
  | error e => exact elsewhere_thrown w e
  | ok v => exact ⟨hresult v rfl, hnext⟩

/-- The calls about drivers, trips and waybills leave the accounts and operators alone. -/
theorem perform_elsewhere {l l' : WorkCall} {w w' : WorkDB} {x : WorkInput}
    (h : WorkCall.perform l w x = some (l', w')) : Elsewhere w (l', w') := by
  cases l with
  | onboard call => cases h
  | done result => cases h
  | createDriver input operatorId =>
    dsimp only [WorkCall.perform] at h
    split at h <;> cases h
    · exact elsewhere_thrown _ _
    · exact ⟨rfl, by simp⟩
  | insertDriver input operatorId =>
    rw [← Option.some.inj h]
    exact after_elsewhere (by simp) fun v hv => insertDriver_onboard hv
  | updateDriver id operatorId data =>
    dsimp only [WorkCall.perform] at h
    split at h <;> cases h
    · exact ⟨rfl, by simp⟩
    · exact elsewhere_thrown _ _
  | refetchDriver id =>
    dsimp only [WorkCall.perform] at h
    split at h <;> cases h
    · exact elsewhere_thrown _ _
    · exact ⟨rfl, by simp⟩
  | deactivateDriver id operatorId =>
    dsimp only [WorkCall.perform] at h
    split at h <;> cases h
    · exact ⟨rfl, by simp⟩
    · exact elsewhere_thrown _ _
  | createTrip input operatorId =>
    rw [← Option.some.inj h]
    refine checked_elsewhere ?_ _
    intro call
    split <;> simp
  | checkDriver input operatorId driverId =>
    rw [← Option.some.inj h]
    exact checked_elsewhere (by simp) _
  | insertTrip input operatorId =>
    dsimp only [WorkCall.perform] at h
    split at h <;> cases h
    · exact elsewhere_thrown _ _
    · next hinsert => exact ⟨insertTrip_onboard hinsert, by simp⟩
  | deleteTrip id operatorId =>
    dsimp only [WorkCall.perform] at h
    split at h <;> cases h
    · exact elsewhere_thrown _ _
    · exact ⟨rfl, by simp⟩
  | createWaybill data retry =>
    dsimp only [WorkCall.perform] at h
    split at h
    · split at h <;> cases h
      · exact elsewhere_thrown _ _
      · exact ⟨rfl, by simp⟩
    · cases h
      exact elsewhere_thrown _ _
    · next hinsert =>
      cases h
      exact ⟨insertWaybill_onboard hinsert, by simp⟩
  | sendQuote id data =>
    dsimp only [WorkCall.perform] at h
    split at h <;> cases h
    · exact elsewhere_thrown _ _
    · exact ⟨rfl, by simp⟩
  | writeQuote id data =>
    rw [← Option.some.inj h]
    exact after_elsewhere (by simp) fun v hv => sendQuote_onboard hv
  | refetchWaybill id =>
    dsimp only [WorkCall.perform] at h
    split at h <;> cases h
    · exact elsewhere_thrown _ _
    · exact ⟨rfl, by simp⟩

/-- A step of the other services is one of the onboarding, or leaves that alone. -/
theorem work_cases {i : ℕ} {l l' : WorkCall} {w w' : WorkDB} {x : WorkInput}
    (hs : WorkCall.step i l w x = some (l', w')) :
    (∃ call call' onboard, l = .onboard call ∧ l' = .onboard call' ∧ w' = { w with onboard } ∧
      OnboardCall.step i call w.onboard x.toOnboardInput = some (call', onboard)) ∨
    ((∀ call, l ≠ .onboard call) ∧ Elsewhere w (l', w')) := by
  unfold WorkCall.step at hs
  split at hs
  · next call =>
    obtain ⟨p, hp, heq⟩ := Option.map_eq_some_iff.mp hs
    cases heq
    exact Or.inl ⟨call, p.1, p.2, rfl, rfl, rfl, hp⟩
  · cases hs
  · next hnot _ =>
    refine Or.inr ⟨hnot, ?_⟩
    split at hs
    · cases hs
      exact elsewhere_thrown _ _
    · exact perform_elsewhere hs

/-- **A step of the other services opens at most one account, and edits none.** -/
theorem work_users {i : ℕ} {l l' : WorkCall} {w w' : WorkDB} {x : WorkInput}
    (hs : WorkCall.step i l w x = some (l', w')) :
    (openedBy l l' = none ∧ w'.onboard.users = w.onboard.users) ∨
    ∃ u, openedBy l l' = some u ∧ w'.onboard.users = w.onboard.users ++ [u] := by
  rcases work_cases hs with ⟨call, call', onboard, rfl, rfl, rfl, hcall⟩ | ⟨hnot, heq, -⟩
  · exact onboard_users hcall
  · have hopened : openedBy l l' = none := by
      cases l with
      | onboard call => exact absurd rfl (hnot call)
      | _ => rfl
    exact Or.inl ⟨hopened, by rw [show w'.onboard = w.onboard from heq]⟩

/-- The account whose token is signed is one that the step has opened. -/
theorem openedBy_of_registeredBy {l l' : WorkCall} {u : User} (h : registeredBy l l' = some u) :
    openedBy l l' = some u := by
  unfold registeredBy at h
  split at h
  · exact h
  · cases h

/-- A reset changes passwords only. -/
theorem reset_users {i : ℕ} {l l' : ResetCall} {s s' : ResetDB} {x : ResetInput}
    (hs : ResetCall.step hashResetToken i l s x = some (l', s')) :
    (resetBy l l' = none ∧ s'.users = s.users) ∨
    ∃ userId newPassword tokenHash salt,
      resetBy l l' = some ⟨userId, newPassword, .granted tokenHash⟩ ∧
      s'.users = Table.updateMany (fun u => u.id == userId)
        (fun u => { u with password := ⟨newPassword, salt⟩ }) s.users := by
  unfold ResetCall.step at hs
  split at hs
  · obtain ⟨⟨pc', s₁⟩, hpc, heq⟩ := Option.map_eq_some_iff.mp hs
    cases heq
    refine Or.inl ⟨rfl, ?_⟩
    unfold ResetCall.stepRequest at hpc
    repeat' split at hpc
    all_goals cases hpc
    all_goals first
      | rfl
      | next hok => rw [createResetToken_ok hok]
  · next rawToken newPassword pc =>
    obtain ⟨⟨pc', s₁⟩, hpc, heq⟩ := Option.map_eq_some_iff.mp hs
    cases heq
    unfold ResetCall.stepRedeem at hpc
    split at hpc
    case h_3 token =>
      split at hpc
      · cases hpc
        exact Or.inl ⟨rfl, rfl⟩
      · split at hpc
        · cases hpc
          exact Or.inl ⟨rfl, rfl⟩
        · next hok =>
          cases hpc
          obtain ⟨_, -, hok⟩ := bind_eq_ok.mp hok
          cases hok
          exact Or.inr ⟨_, _, _, _, rfl, rfl⟩
    all_goals
      refine Or.inl ?_
      repeat' split at hpc
      all_goals cases hpc
      all_goals exact ⟨rfl, rfl⟩

end Other

/-! ## What a step can do -/

/-- A place at which a call is about to do nothing that asks for more than has been checked. -/
def IdentityCall.Harmless : IdentityCall → Prop
  | .work _ | .reset _ | .changePassword _ _ _ .write => False
  | _ => True

/-- The effects of a step of call `i`, in `l`. -/
inductive IdentityEffect (verify : Verify) (hashResetToken : RawToken → TokenHash) (i : ℕ)
    (l : IdentityCall) (r : IdentityDB) (x : IdentityInput) : IdentityCall → IdentityDB → Prop where
  | idle (l' : IdentityCall) (hl : ∀ call, l ≠ .work call) (hl' : l'.Harmless) :
      IdentityEffect verify hashResetToken i l r x l' r
  | verified (userId : UserId) (currentPassword newPassword : String) (user : User)
      (hl : l = .changePassword userId currentPassword newPassword .find)
      (hfind : r.findById userId = some user)
      (hverify : verify user.password currentPassword = true) :
      IdentityEffect verify hashResetToken i l r x
        (.changePassword userId currentPassword newPassword .write) r
  | work (call call' : WorkCall) (work : WorkDB) (hl : l = .work call)
      (h : call.step i r.work x.toWorkInput = some (call', work)) :
      IdentityEffect verify hashResetToken i l r x (.work call') (r.afterWork call call' work)
  | reset (call call' : ResetCall) (s : ResetDB) (hl : l = .reset call)
      (h : call.step hashResetToken i r.resetDB x.toResetInput = some (call', s)) :
      IdentityEffect verify hashResetToken i l r x (.reset call') (r.afterReset call call' s)
  | logIn (user : User) (hl : ∀ call, l ≠ .work call) (hu : user ∈ r.users) :
      IdentityEffect verify hashResetToken i l r x (.done (.auth (claimsOf user)))
        (r.sign (claimsOf user))
  | driverLogIn (driver : Driver) (hl : ∀ call, l ≠ .work call) (hd : driver ∈ r.work.drivers)
      (hactive : driver.isActive = true) :
      IdentityEffect verify hashResetToken i l r x (.done (.auth (driverClaims driver.toDriverDTO)))
        (r.sign (driverClaims driver.toDriverDTO))
  | profile (userId : UserId) (input : UpdateProfileInput) (data : ProfileData) (user : User)
      (hl : l = .updateProfile userId input (.write data))
      (hfind : r.findById userId = some user)
      (hwait : data.email.isSome = true →
        r.work.onboard.insertedByOther i (data.patch user) = false)
      (hfree : data.email.isSome = true → r.clashes (data.patch user) = false) :
      IdentityEffect verify hashResetToken i l r x
        (.done (.profile (toSafeUser (data.patch user)) (claimsOf (data.patch user))))
        ((r.updateUser userId data.patch).sign (claimsOf (data.patch user)))
  | password (userId : UserId) (currentPassword newPassword : String) (user : User) (salt : ℕ)
      (hl : l = .changePassword userId currentPassword newPassword .write)
      (hfind : r.findById userId = some user) :
      IdentityEffect verify hashResetToken i l r x (.done .returned)
        ((r.updateUser userId fun u => { u with password := ⟨newPassword, salt⟩ }).record
          ⟨userId, newPassword, .presented currentPassword⟩)

section Effects

variable {i : ℕ} {l l' : IdentityCall} {r r' : IdentityDB} {x : IdentityInput}

theorem login_effect {email : Email} {password : String}
    (h : IdentityCall.stepLogin verify email password r = (l', r')) :
    IdentityEffect verify hashResetToken i (.login email password) r x l' r' := by
  dsimp only [IdentityCall.stepLogin] at h
  split at h
  · next user hfind =>
    split at h <;> cases h
    · exact .logIn user (by simp) (List.mem_of_find?_eq_some hfind)
    · exact .idle _ (by simp) trivial
  · cases h
    exact .idle _ (by simp) trivial

theorem driverLogin_effect {phone password : String}
    (h : IdentityCall.stepDriverLogin verify phone password r = (l', r')) :
    IdentityEffect verify hashResetToken i (.driverLogin phone password) r x l' r' := by
  dsimp only [IdentityCall.stepDriverLogin] at h
  split at h
  · next driver hfind =>
    split at h
    · cases h
      exact .idle _ (by simp) trivial
    · split at h
      · cases h
        exact .idle _ (by simp) trivial
      · next hactive =>
        cases h
        exact .driverLogIn driver (by simp) (List.mem_of_find?_eq_some hfind)
          (by simpa using hactive)
  · cases h
    exact .idle _ (by simp) trivial

theorem me_effect (userId : UserId) (role : Role) : IdentityEffect verify hashResetToken i
    (.me userId role) r x (IdentityCall.stepMe userId role r) r := by
  refine .idle _ (by simp) ?_
  unfold IdentityCall.stepMe
  repeat' split
  all_goals trivial

theorem profile_effect {userId : UserId} {input : UpdateProfileInput} {pc : ProfilePc}
    (h : IdentityCall.stepProfile i userId input pc r = some (l', r')) :
    IdentityEffect verify hashResetToken i (.updateProfile userId input pc) r x l' r' := by
  unfold IdentityCall.stepProfile at h
  split at h
  · split at h
    · cases h
      exact .idle _ (by simp) trivial
    · split at h
      · cases h
        exact .idle _ (by simp) trivial
      · split at h <;> cases h <;> exact .idle _ (by simp) trivial
  · split at h <;> cases h
    · exact .idle _ (by simp) trivial
    · exact .idle _ (by simp) trivial
  · next data =>
    split at h
    · cases h
      exact .idle _ (by simp) trivial
    · next user hfind =>
      dsimp only at h
      split at h
      · exact absurd h (by simp)
      · next hwait =>
        split at h <;> cases h
        · exact .idle _ (by simp) trivial
        · next hfree =>
          simp only [Bool.and_eq_true, not_and, Bool.not_eq_true] at hwait hfree
          exact .profile userId input data user rfl hfind hwait hfree

theorem password_effect {userId : UserId} {currentPassword newPassword : String}
    {pc : PasswordPc} {salt : ℕ}
    (h : IdentityCall.stepPassword verify userId currentPassword newPassword pc r salt = (l', r')) :
    IdentityEffect verify hashResetToken i
      (.changePassword userId currentPassword newPassword pc) r x l' r' := by
  unfold IdentityCall.stepPassword at h
  split at h
  · split at h
    · cases h
      exact .idle _ (by simp) trivial
    · next user hfind =>
      split at h <;> cases h
      · next hverify => exact .verified userId _ _ user rfl hfind hverify
      · exact .idle _ (by simp) trivial
  · split at h <;> cases h
    · exact .idle _ (by simp) trivial
    · next user hfind => exact .password userId _ _ user salt rfl hfind

/-- **What a step can do.** -/
theorem identity_effect (h : IdentityCall.step verify hashResetToken i l r x = some (l', r')) :
    IdentityEffect verify hashResetToken i l r x l' r' := by
  unfold IdentityCall.step at h
  split at h
  · next call =>
    obtain ⟨p, hp, heq⟩ := Option.map_eq_some_iff.mp h
    cases heq
    exact .work call p.1 p.2 rfl hp
  · next call =>
    obtain ⟨p, hp, heq⟩ := Option.map_eq_some_iff.mp h
    cases heq
    exact .reset call p.1 p.2 rfl hp
  · cases h
  · next hnot _ _ =>
    split at h
    · cases h
      exact .idle _ hnot trivial
    · cases l with
      | work call => cases h
      | reset call => cases h
      | done o => cases h
      | login email password => exact login_effect (Option.some.inj h)
      | driverLogin phone password => exact driverLogin_effect (Option.some.inj h)
      | me userId role =>
        cases h
        exact me_effect userId role
      | updateProfile userId input pc => exact profile_effect h
      | changePassword userId currentPassword newPassword pc =>
        exact password_effect (Option.some.inj h)

end Effects

/-! ## Accounts stay -/

/-- Accounts stay, with their ids, roles and operators, and drivers with their operators. -/
structure Succeeds (r r' : IdentityDB) : Prop where
  users : ∀ u ∈ r.users, ∃ u' ∈ r'.users,
    u'.id = u.id ∧ u'.role = u.role ∧ u'.operatorId = u.operatorId
  drivers : ∀ operatorId id, Drivers.Employs operatorId id r.work.drivers →
    Drivers.Employs operatorId id r'.work.drivers

namespace Succeeds

variable {r r' r'' : IdentityDB}

theorem of_eq (husers : r'.users = r.users) (hdrivers : r'.work.drivers = r.work.drivers) :
    Succeeds r r' where
  users u hu := ⟨u, by rwa [husers], rfl, rfl, rfl⟩
  drivers _ _ h := by rwa [hdrivers]

theorem refl (r : IdentityDB) : Succeeds r r := of_eq rfl rfl

theorem trans (h : Succeeds r r') (h' : Succeeds r' r'') : Succeeds r r'' where
  users u hu := by
    obtain ⟨v, hv, hid, hrole, hop⟩ := h.users u hu
    obtain ⟨w, hw, hid', hrole', hop'⟩ := h'.users v hv
    exact ⟨w, hw, hid'.trans hid, hrole'.trans hrole, hop'.trans hop⟩
  drivers _ _ hd := h'.drivers _ _ (h.drivers _ _ hd)

/-- An update that leaves ids, roles and operators alone. -/
theorem of_update {p : User → Bool} {f : User → User}
    (husers : r'.users = Table.updateMany p f r.users) (hdrivers : r'.work.drivers = r.work.drivers)
    (hf : ∀ u, (f u).id = u.id ∧ (f u).role = u.role ∧ (f u).operatorId = u.operatorId) :
    Succeeds r r' where
  users u hu := by
    rw [husers]
    refine ⟨_, Table.mem_updateMany_of_mem hu, ?_⟩
    split
    · exact hf u
    · exact ⟨rfl, rfl, rfl⟩
  drivers _ _ h := by rwa [hdrivers]

theorem of_effect {i : ℕ} {l l' : IdentityCall} {x : IdentityInput}
    (he : IdentityEffect verify hashResetToken i l r x l' r') : Succeeds r r' := by
  cases he with
  | idle => exact refl r
  | verified => exact refl r
  | work call call' work hl h =>
    refine ⟨?_, fun operatorId id hd => (step_effect h).employs hd⟩
    intro u hu
    refine ⟨u, ?_, rfl, rfl, rfl⟩
    show u ∈ work.onboard.users
    rcases work_users h with ⟨-, husers⟩ | ⟨v, -, husers⟩
    · rwa [husers]
    · rw [husers]
      exact List.mem_append_left _ hu
  | reset call call' s hl h =>
    rcases reset_users h with ⟨-, husers⟩ | ⟨userId, newPassword, tokenHash, salt, -, husers⟩
    · exact of_eq husers rfl
    · exact of_update husers rfl fun _ => ⟨rfl, rfl, rfl⟩
  | logIn => exact of_eq rfl rfl
  | driverLogIn => exact of_eq rfl rfl
  | profile => exact of_update rfl rfl fun _ => ⟨rfl, rfl, rfl⟩
  | password => exact of_update rfl rfl fun _ => ⟨rfl, rfl, rfl⟩

end Succeeds

/-- **Accounts and drivers stay through every run.** -/
theorem identity_succeeds {c c' : Config IdentityDB IdentityCall}
    (hr : (identity verify hashResetToken).Reachable c)
    (h : (identity verify hashResetToken).Leads c c') :
    Succeeds c.shared c'.shared := by
  refine h.rel (R := fun m m' => Succeeds m.shared m'.shared) hr (fun m => .refl m.shared)
    (fun a b c (hab : Succeeds a.shared b.shared) (hbc : Succeeds b.shared c.shared) =>
      hab.trans hbc) ?_
  intro m a m' _ hs
  rcases Machine.next_cases hs with ⟨o, -, rfl⟩ | ⟨i, x, l, l', s', -, -, hown, rfl⟩ | ⟨e, -⟩
  · exact .refl _
  · exact .of_effect (identity_effect hown)
  · exact e.elim

end Identity
end TransHub
