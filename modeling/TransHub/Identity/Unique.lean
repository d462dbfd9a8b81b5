import TransHub.Identity.Rows

/-!
# One account for an email

An approval inserts its account in a transaction, and others read and write `users` before it
commits.  A sign-up or a change of email that clashes with such an insert waits for it.

* `AccountsInv`: no account, committed or not, clashes with another.
* `Owns`: which inserts a call has made and not committed.
* `accounts_unique`: in every run no two accounts share an id, an email or an operator.
* `clashingRun`: sign-ups, an approval and a change of email that overlap and clash.
-/

namespace TransHub
namespace Identity

open Accounts Fleet

variable {verify : Verify} {hashResetToken : RawToken → TokenHash}

/-! ## The assertions -/

/-- The accounts and the inserts that are not committed keep clear of each other, with `n`
calls so far. -/
structure AccountsInv (n : ℕ) (r : OnboardDB) : Prop where
  users : Table.Unique User.clash r.users
  inserts : ∀ s ∈ r.inserts, s.1 < n ∧ ∀ u ∈ r.users, u.clash s.2 = false
  pairs : ∀ s ∈ r.inserts, ∀ s' ∈ r.inserts, s.1 ≠ s'.1 → s.2.clash s'.2 = false

/-- The inserts of call `i`: at its commit an approval has made the one it is about to commit,
and no other call has made any. -/
def Owns (i : ℕ) (l : IdentityCall) (r : OnboardDB) : Prop :=
  match l with
  | .work (.onboard (.approve _ (.commit _ _ u))) => (i, u) ∈ r.inserts
  | .work (.onboard (.approve _ _)) => True
  | _ => ∀ u, (i, u) ∉ r.inserts

/-! ## Steps -/

section Steps

variable {n i j : ℕ} {l l' : IdentityCall} {r r' : OnboardDB} {x : IdentityInput}

theorem AccountsInv.of_eq (h : AccountsInv n r) (husers : r'.users = r.users)
    (hinserts : r'.inserts = r.inserts) : AccountsInv n r' where
  users := by rw [husers]; exact h.users
  inserts := by rw [husers, hinserts]; exact h.inserts
  pairs := by rw [hinserts]; exact h.pairs

theorem AccountsInv.succ (h : AccountsInv n r) : AccountsInv (n + 1) r :=
  { h with
    inserts := fun s hs => ⟨Nat.lt_succ_of_lt (h.inserts s hs).1, (h.inserts s hs).2⟩ }

theorem AccountsInv.close (h : AccountsInv n r) (i : ℕ) : AccountsInv n (r.close i) where
  users := h.users
  inserts s hs := h.inserts s (List.mem_filter.mp hs).1
  pairs s hs s' hs' := h.pairs s (List.mem_filter.mp hs).1 s' (List.mem_filter.mp hs').1

/-- An account that clashes with no other one and with no insert may be added. -/
theorem AccountsInv.add (h : AccountsInv n r) {u : User}
    (husers : ∀ v ∈ r.users, v.clash u = false) (hinserts : ∀ s ∈ r.inserts, s.2.clash u = false) :
    AccountsInv n { r with users := r.users ++ [u] } where
  users := by
    refine List.pairwise_append.mpr ⟨h.users, List.pairwise_singleton _ _, ?_⟩
    intro v hv w hw
    rw [List.mem_singleton.mp hw]
    exact husers v hv
  inserts s hs := by
    refine ⟨(h.inserts s hs).1, ?_⟩
    intro v hv
    rcases List.mem_append.mp hv with hv | hv
    · exact (h.inserts s hs).2 v hv
    · rw [List.mem_singleton.mp hv, User.clash_comm]
      exact hinserts s hs
  pairs := h.pairs

/-- Steps of the onboarding keep the assertion. -/
theorem AccountsInv.onboard (h : AccountsInv n r) (hi : i < n) {call : OnboardCall}
    (howns : Owns i (.work (.onboard call)) r) (he : OnboardEffect i call r r') :
    AccountsInv n r' := by
  cases he with
  | none => exact h
  | register input x users hl hwait hins =>
    obtain ⟨husers, rfl⟩ := Table.insert_eq_some.mp hins
    subst hl
    refine h.add husers ?_
    intro s hs
    refine insertedByOther_eq_false.mp hwait s hs ?_
    rintro rfl
    exact howns s.2 hs
  | apply => exact h.of_eq rfl rfl
  | lock => exact h.of_eq rfl rfl
  | insert id op t u users hl hwait hins =>
    obtain ⟨husers, -⟩ := Table.insert_eq_some.mp hins
    have hother := insertedByOther_eq_false.mp hwait
    refine ⟨h.users, ?_, ?_⟩
    · intro s hs
      rcases List.mem_cons.mp hs with rfl | hs
      · exact ⟨hi, husers⟩
      · exact h.inserts s hs
    · intro s hs s' hs' hne
      rcases List.mem_cons.mp hs with rfl | hs <;> rcases List.mem_cons.mp hs' with rfl | hs'
      · exact absurd rfl hne
      · rw [User.clash_comm]
        exact hother s' hs' (Ne.symm hne)
      · exact hother s hs hne
      · exact h.pairs s hs s' hs' hne
  | close => exact h.close i
  | approved id op u t hl =>
    subst hl
    have hown : (i, u) ∈ r.inserts := howns
    -- the inserts that are left after the commit are those of other calls
    refine ((h.close i).add (h.inserts (i, u) hown).2 ?_).of_eq rfl rfl
    intro s hs
    exact h.pairs s (List.mem_filter.mp hs).1 (i, u) hown
      (by simpa using (List.mem_filter.mp hs).2)
  | declined => exact h.of_eq rfl rfl
  | emit => exact h.of_eq rfl rfl

theorem clash_of_keys {u v w : User} (hid : u.id = v.id) (hemail : u.email = v.email)
    (hop : u.operatorId = v.operatorId) : u.clash w = v.clash w := by
  simp only [User.clash, hid, hemail, hop]

/-- Edits of other columns than the keys keep the assertion. -/
theorem AccountsInv.edit (h : AccountsInv n r) (p : User → Bool) {f : User → User}
    (hf : ∀ u, (f u).id = u.id ∧ (f u).email = u.email ∧ (f u).operatorId = u.operatorId) :
    AccountsInv n { r with users := Table.updateMany p f r.users } where
  users := h.users.updateMany (fun a b => clash_of_keys (hf a).1 (hf a).2.1 (hf a).2.2)
    fun a b => by
      rw [User.clash_comm, clash_of_keys (hf b).1 (hf b).2.1 (hf b).2.2, User.clash_comm]
  inserts s hs := by
    refine ⟨(h.inserts s hs).1, ?_⟩
    intro v hv
    obtain ⟨u, hu, rfl⟩ := Table.mem_updateMany.mp hv
    have hclear := (h.inserts s hs).2 u hu
    split
    · rwa [clash_of_keys (hf u).1 (hf u).2.1 (hf u).2.2]
    · exact hclear
  pairs := h.pairs

/-- **A change of email keeps the assertion**: the row it writes has been compared with the
other accounts and with the inserts of other calls, and its own call has made none. -/
theorem AccountsInv.rename (h : AccountsInv n r) {userId : UserId} {user : User}
    {f : User → User} (huser : user ∈ r.users) (hid : user.id = userId)
    (hkeep : (f user).id = user.id)
    (hfree : (r.users.any fun u => u.id != (f user).id && u.clash (f user)) = false)
    (hwait : r.insertedByOther i (f user) = false) (hidle : ∀ u, (i, u) ∉ r.inserts) :
    AccountsInv n { r with users := Table.updateMany (fun u => u.id == userId) f r.users } := by
  -- one row has the id
  have hone : ∀ u ∈ r.users, u.id = userId → u = user := by
    intro u hu hu'
    refine h.users.eq_of_clash User.clash_comm hu huser ?_
    rw [User.clash, hu', hid, beq_self_eq_true, Bool.true_or, Bool.true_or]
  have hclear : ∀ u ∈ r.users, u.id ≠ userId → u.clash (f user) = false := by
    intro u hu hne
    have hany := List.any_eq_false.mp hfree u hu
    rw [hkeep, hid, Bool.and_eq_true, bne_iff_ne, not_and, Bool.not_eq_true] at hany
    exact hany hne
  refine ⟨h.users.updateMany_of_fresh ?_ ?_, ?_, h.pairs⟩
  · intro a b ha hb
    rw [beq_iff_eq] at ha hb
    rw [User.clash, ha, hb, beq_self_eq_true, Bool.true_or, Bool.true_or]
  · intro a ha hpa b hb hpb
    rw [beq_iff_eq] at hpa
    rw [beq_eq_false_iff_ne] at hpb
    obtain rfl := hone a ha hpa
    exact ⟨by rw [User.clash_comm]; exact hclear b hb hpb, hclear b hb hpb⟩
  · intro s hs
    refine ⟨(h.inserts s hs).1, ?_⟩
    intro v hv
    obtain ⟨u, hu, rfl⟩ := Table.mem_updateMany.mp hv
    split
    · next hp =>
      obtain rfl := hone u hu (beq_iff_eq.mp hp)
      rw [User.clash_comm]
      refine insertedByOther_eq_false.mp hwait s hs ?_
      rintro rfl
      exact hidle s.2 hs
    · exact (h.inserts s hs).2 u hu

/-- Steps of other calls leave the inserts of call `j` alone. -/
theorem Owns.of_inserts (h : Owns j l r) (hi : ∀ u, (j, u) ∈ r'.inserts ↔ (j, u) ∈ r.inserts) :
    Owns j l r' := by
  unfold Owns at h ⊢
  split at h
  · exact (hi _).mpr h
  · trivial
  · exact fun u hu => h u ((hi u).mp hu)

/-- A call that is none of the onboarding has made no insert. -/
theorem Owns.idle (h : Owns i l r) (hl : ∀ id pc, l ≠ .work (.onboard (.approve id pc)))
    (u : User) : (i, u) ∉ r.inserts := by
  unfold Owns at h
  split at h
  · exact absurd rfl (hl _ _)
  · exact absurd rfl (hl _ _)
  · exact h u

theorem owns_of_idle (hl : ∀ id pc, l ≠ .work (.onboard (.approve id pc)))
    (h : ∀ u, (i, u) ∉ r.inserts) : Owns i l r := by
  unfold Owns
  split
  · exact absurd rfl (hl _ _)
  · exact absurd rfl (hl _ _)
  · exact h

/-- An approval that is about to commit has made its insert. -/
theorem approve_owns {id : OperatorId} {pc pc' : ApprovePc}
    (hs : OnboardCall.stepApprove i id pc r x.toOnboardInput = some (pc', r')) :
    Owns i (.work (.onboard (.approve id pc'))) r' := by
  unfold Owns
  split
  · next u heq =>
    cases heq
    unfold OnboardCall.stepApprove at hs
    repeat' split at hs
    all_goals cases hs
    exact List.mem_cons_self
  · trivial
  · next hnot => exact absurd rfl (hnot _ _)

theorem onboard_owns {call call' : OnboardCall} (howns : Owns i (.work (.onboard call)) r)
    (hs : OnboardCall.step i call r x.toOnboardInput = some (call', r')) :
    Owns i (.work (.onboard call')) r' := by
  have he := onboard_effect hs
  unfold OnboardCall.step at hs
  split at hs
  case h_3 =>
    obtain ⟨p, hp, heq⟩ := Option.map_eq_some_iff.mp hs
    cases heq
    exact approve_owns hp
  all_goals
    obtain ⟨p, -, heq⟩ := Option.map_eq_some_iff.mp hs
    cases heq
    exact owns_of_idle (by simp) (effect_inserts he (by simp) (howns.idle (by simp)))

end Steps

/-! ## Runs -/

section Runs

variable {n i j : ℕ} {l l' : IdentityCall} {r r' : IdentityDB} {x : IdentityInput}

/-- A step of another service, seen by the accounts and the inserts. -/
theorem work_owns {call call' : WorkCall} {work : WorkDB} (hG : AccountsInv n r.work.onboard)
    (hi : i < n) (howns : Owns i (.work call) r.work.onboard)
    (h : call.step i r.work x.toWorkInput = some (call', work)) :
    AccountsInv n work.onboard ∧ Owns i (.work call') work.onboard ∧
      ∀ j, j ≠ i → ∀ u, (j, u) ∈ work.onboard.inserts ↔ (j, u) ∈ r.work.onboard.inserts := by
  rcases work_cases h with ⟨oc, oc', onboard, rfl, rfl, rfl, hstep⟩ | ⟨hnot, heq, hnot'⟩
  · have he := onboard_effect hstep
    exact ⟨hG.onboard hi howns he, onboard_owns howns hstep,
      fun j hne u => (Rely.of_effect hne he).inserts u⟩
  · have hidle : ∀ u, (i, u) ∉ r.work.onboard.inserts := howns.idle (by
      rintro id pc ⟨⟩
      exact hnot _ rfl)
    have heq : work.onboard = r.work.onboard := heq
    rw [heq]
    refine ⟨hG, owns_of_idle ?_ hidle, fun _ _ _ => Iff.rfl⟩
    rintro id pc ⟨⟩
    exact hnot' _ rfl

/-- A row that is found by its id. -/
theorem mem_of_findById {id : UserId} {user : User} (h : r.findById id = some user) :
    user ∈ r.users ∧ user.id = id :=
  ⟨List.mem_of_find?_eq_some h, by simpa using List.find?_some h⟩

/-- **What a step does to the accounts and the inserts.** -/
theorem identity_owns (hG : AccountsInv n r.work.onboard) (hi : i < n)
    (howns : Owns i l r.work.onboard) (he : IdentityEffect verify hashResetToken i l r x l' r') :
    AccountsInv n r'.work.onboard ∧ Owns i l' r'.work.onboard ∧
      ∀ j, j ≠ i → ∀ u, (j, u) ∈ r'.work.onboard.inserts ↔ (j, u) ∈ r.work.onboard.inserts := by
  cases he with
  | idle _ hl hl' =>
    have hidle := howns.idle fun id pc => hl _
    refine ⟨hG, owns_of_idle ?_ hidle, fun _ _ _ => Iff.rfl⟩
    rintro id pc rfl
    exact hl'
  | verified userId currentPassword newPassword user hl =>
    subst hl
    exact ⟨hG, owns_of_idle (by simp) (howns.idle (by simp)), fun _ _ _ => Iff.rfl⟩
  | work call call' work hl h =>
    subst hl
    exact work_owns hG hi howns h
  | reset call call' s hl h =>
    subst hl
    have hidle := howns.idle (by simp)
    refine ⟨?_, owns_of_idle (by simp) hidle, fun _ _ _ => Iff.rfl⟩
    rcases reset_users h with ⟨-, husers⟩ | ⟨userId, newPassword, tokenHash, salt, -, husers⟩
    · exact hG.of_eq husers rfl
    · exact (hG.edit (fun u => u.id == userId)
        (f := fun u => { u with password := ⟨newPassword, salt⟩ })
        fun _ => ⟨rfl, rfl, rfl⟩).of_eq husers rfl
  | logIn user hl hu =>
    have hidle := howns.idle fun id pc => hl _
    exact ⟨hG, owns_of_idle (by simp) hidle, fun _ _ _ => Iff.rfl⟩
  | driverLogIn driver hl hd hactive =>
    have hidle := howns.idle fun id pc => hl _
    exact ⟨hG, owns_of_idle (by simp) hidle, fun _ _ _ => Iff.rfl⟩
  | profile userId input data user hl hfind hwait hfree =>
    subst hl
    have hidle := howns.idle (by simp)
    refine ⟨?_, owns_of_idle (by simp) hidle, fun _ _ _ => Iff.rfl⟩
    obtain ⟨huser, hid⟩ := mem_of_findById hfind
    cases hemail : data.email with
    | none =>
      exact hG.edit _ fun u => ⟨rfl, by simp [ProfileData.patch, hemail], rfl⟩
    | some email =>
      have hsome : data.email.isSome = true := by rw [hemail]; rfl
      exact hG.rename huser hid rfl (hfree hsome) (hwait hsome) hidle
  | password userId currentPassword newPassword user salt hl hfind =>
    subst hl
    have hidle := howns.idle (by simp)
    exact ⟨hG.edit _ fun _ => ⟨rfl, rfl, rfl⟩, owns_of_idle (by simp) hidle,
      fun _ _ _ => Iff.rfl⟩

/-- A call begins with no insert. -/
theorem owns_start (h : AccountsInv n r.work.onboard) (o : IdentityOp) :
    Owns n ((identityMachine verify hashResetToken).start o) r.work.onboard := by
  have hidle : ∀ u, (n, u) ∉ r.work.onboard.inserts := fun u hu =>
    absurd (h.inserts (n, u) hu).1 (Nat.lt_irrefl n)
  cases o with
  | work o =>
    cases o with
    | onboard o =>
      cases o with
      | approve id => trivial
      | _ => exact hidle
    | _ => exact hidle
  | _ => exact hidle

theorem accountsInv_start {users : List User} (h : Table.Unique User.clash users) :
    AccountsInv 0 (identityStart users).work.onboard where
  users := h
  inserts := by simp [identityStart, workStart]
  pairs := by simp [identityStart, workStart]

/-- **The proof outline.** -/
theorem identityOutline : (identityMachine verify hashResetToken).Outline (fun _ => True)
    (fun r => ∃ users, Table.Unique User.clash users ∧ (∀ u ∈ users, u.operatorId = none) ∧
      r = identityStart users)
    (fun n r => AccountsInv n r.work.onboard) (fun i l r => Owns i l r.work.onboard) where
  init := by
    rintro r ⟨users, hunique, -, rfl⟩
    exact accountsInv_start hunique
  spawn n o r _ h := h.succ
  start n o r _ h := owns_start h o
  shared n i x l r l' r' _ hi hG howns hs := (identity_owns hG hi howns (identity_effect hs)).1
  self n i x l r l' r' _ hi hG howns hs := (identity_owns hG hi howns (identity_effect hs)).2.1
  other n i x l r l' r' j m _ hi hne hG howns hm hs :=
    hm.of_inserts ((identity_owns hG hi howns (identity_effect hs)).2.2 j hne)
  env_shared n e := e.elim
  env_other n e := e.elim

theorem accounts_inv {c : Config IdentityDB IdentityCall}
    (h : (identity verify hashResetToken).Reachable c) :
    AccountsInv c.procs.length c.shared.work.onboard :=
  (identityOutline.invariant h.by_any).1

/-- **One account for an email.**  Whatever sign-ups, approvals, changes of profile and resets
overlap, no two accounts ever share an id, an email or an operator. -/
theorem accounts_unique {c : Config IdentityDB IdentityCall}
    (h : (identity verify hashResetToken).Reachable c) :
    (c.shared.users.map User.id).Nodup ∧ (c.shared.users.map User.email).Nodup ∧
      ∀ u ∈ c.shared.users, ∀ v ∈ c.shared.users,
        u.operatorId ≠ none → u.operatorId = v.operatorId → u = v := by
  have hunique := (accounts_inv h).users
  refine ⟨hunique.nodup_map ?_, hunique.nodup_map ?_, ?_⟩
  · intro u v huv
    simp [User.clash, huv]
  · intro u v huv
    simp [User.clash, huv]
  · intro u hu v hv hne heq
    refine hunique.eq_of_clash User.clash_comm hu hv ?_
    obtain ⟨k, hk⟩ := Option.ne_none_iff_exists'.mp hne
    simp [User.clash, ← heq, hk]

end Runs

/-! ## Calls that overlap -/

/-- A verification that compares what a hash was made from. -/
def verifyPlain : Verify := fun hash password => hash.password == password

def identityInit : Config IdentityDB IdentityCall := ⟨identityStart [ada], []⟩

theorem identityInit_init : (identity verifyPlain id).init identityInit :=
  ⟨⟨[ada], List.pairwise_singleton _ _, by decide, rfl⟩, rfl⟩

/-- Steps of call `i` that do not fail, in which the database generates this id. -/
def goOn (i n : ℕ) (uuid : ℕ) : List (Act IdentityOp IdentityInput Empty) :=
  List.replicate n (.run i ⟨Fleet.plain uuid, 55⟩)

/-- A company applies, and its approval has inserted the account and not committed. -/
def approvalOpen : List (Act IdentityOp IdentityInput Empty) :=
  [.spawn (.work (.onboard (.registerOperator swift)))] ++ goOn 0 2 3 ++
  [.spawn (.work (.onboard (.approve 3)))] ++ goOn 1 4 9

def signsUp (email : Email) : IdentityOp :=
  .work (.onboard (.register ⟨"Eve", email, "08039999999", "Passw0rd"⟩))

/-- Two sign-ups with one email pass the check, and so do a sign-up and a change of email to the
one of the approval.  A later change of email does not, and no more does a later sign-up. -/
def clashingRun : List (Act IdentityOp IdentityInput Empty) :=
  approvalOpen ++
  [.spawn (signsUp "eve@example.com"), .spawn (signsUp "eve@example.com")] ++
  goOn 2 1 0 ++ goOn 3 1 0 ++ goOn 2 1 10 ++ goOn 3 1 11 ++
  [.spawn (signsUp swift.email),
    .spawn (.updateProfile 7 { email := some swift.email })] ++
  goOn 4 1 0 ++ goOn 5 2 0 ++ goOn 1 2 0 ++ goOn 4 1 12 ++ goOn 5 1 0 ++
  [.spawn (.updateProfile 7 { email := some "eve@example.com" })] ++ goOn 6 2 0 ++
  [.spawn (signsUp "ada@example.com")] ++ goOn 7 1 0

theorem clashingRun_runs :
    ((identity verifyPlain id).run identityInit clashingRun).isSome = true := by
  decide +kernel

def clashingEnd : Config IdentityDB IdentityCall :=
  ((identity verifyPlain id).run identityInit clashingRun).get clashingRun_runs

theorem clashingEnd_reachable : (identity verifyPlain id).Reachable clashingEnd :=
  ⟨identityInit, identityInit_init, clashingRun, (Option.some_get _).symm⟩

/-- The exception that a sign-up or a change of a profile has ended with. -/
def IdentityCall.raised : IdentityCall → Option Thrown
  | .work (.onboard (.register _ (.done (.thrown e)))) => some e
  | .done (.thrown e) => some e
  | _ => none

/-- Three accounts are left, and of each two calls that wanted one email one has been refused. -/
theorem accounts_unique_run :
    clashingEnd.shared.users.map User.email =
      ["ada@example.com", "eve@example.com", "bola@swift.example"] ∧
    (clashingEnd.procs.map IdentityCall.raised) = [none, none, none,
      some (.app (.conflictError "An account with this email already exists")),
      some (.app (.conflictError "An account with this email already exists")),
      some (.db .uniqueViolation),
      some (.app (.conflictError "That email is already in use")),
      some (.app (.conflictError "An account with this email already exists"))] ∧
    (clashingEnd.shared.users.map User.id).Nodup ∧
    (clashingEnd.shared.users.map User.email).Nodup ∧
    ∀ u ∈ clashingEnd.shared.users, ∀ v ∈ clashingEnd.shared.users,
      u.operatorId ≠ none → u.operatorId = v.operatorId → u = v :=
  ⟨by decide +kernel, by decide +kernel, accounts_unique clashingEnd_reachable⟩

/-! ## One account -/

/-- Ada logs in and changes her email between the check and the write of a change of password.
She then resets it. -/
def identityRun : List (Act IdentityOp IdentityInput Empty) :=
  [.spawn (.login "ada@example.com" "Old pass1")] ++ goOn 0 1 0 ++
  [.spawn (.changePassword 7 "Old pass1" "New pass1")] ++ goOn 1 1 0 ++
  [.spawn (.updateProfile 7 { email := some "ada@new.example" })] ++ goOn 2 3 0 ++ goOn 1 1 0 ++
  [.spawn (.reset (.requestPasswordReset "ada@new.example"))] ++ goOn 3 4 0 ++
  [.spawn (.reset (.resetPassword 55 "New pass2"))] ++ goOn 4 3 0

theorem identityRun_runs :
    ((identity verifyPlain id).run identityInit identityRun).isSome = true := by
  decide +kernel

def identityEnd : Config IdentityDB IdentityCall :=
  ((identity verifyPlain id).run identityInit identityRun).get identityRun_runs

theorem identityEnd_run :
    (identity verifyPlain id).run identityInit identityRun = some identityEnd :=
  (Option.some_get _).symm

theorem identityEnd_reachable : (identity verifyPlain id).Reachable identityEnd :=
  ⟨identityInit, identityInit_init, identityRun, identityEnd_run⟩

end Identity
end TransHub
