import TransHub.Identity.Unique

/-!
# Who may set a password

A password is set when its account is opened, by `changePassword`, which has checked the
current one in a statement of its own before, and by `resetPassword`, which has looked up a
reset link before.

* `PasswordsInv`, `Entitled`: the history of passwords is sound, and a call that is about to
  write has shown what entitles it to.
* `passwords_entitled`: in every run the password of an account goes back, from one presented
  password to the next, to the one it was opened with or to a link issued to its user.
-/

namespace TransHub
namespace Identity

open Accounts Fleet

variable {verify : Verify} {hashResetToken : RawToken → TokenHash}

/-! ## The assertions -/

/-- The history of passwords is sound and ends in the passwords of the accounts, and links are
used that have been issued. -/
structure PasswordsInv (r : IdentityDB) : Prop where
  sound : Provenance.Sound r.passwords
  newest : ∀ u ∈ r.users, Provenance.newest u.id r.passwords = some u.password.password
  tokens : ∀ row ∈ r.tokens, .issued row.userId row.tokenHash ∈ r.grants
  granted : ∀ k s g, ⟨k, s, .granted g⟩ ∈ r.passwords → .issued k g ∈ r.grants

/-- What a call has shown before it writes a password. -/
def Entitled (l : IdentityCall) (r : IdentityDB) : Prop :=
  match l with
  | .changePassword userId currentPassword _ .write =>
      Provenance.Had userId currentPassword r.passwords
  | .reset (.redeem _ _ (.write token)) => .issued token.userId token.tokenHash ∈ r.grants
  | _ => True

section Steps

variable {n i j : ℕ} {l l' : IdentityCall} {r r' : IdentityDB} {x : IdentityInput}

/-- What has been shown stays so while the histories grow. -/
theorem Entitled.mono (h : Entitled l r) (hpasswords : r.passwords ⊆ r'.passwords)
    (hgrants : r.grants ⊆ r'.grants) : Entitled l r' := by
  unfold Entitled at h ⊢
  split at h
  · exact h.mono hpasswords
  · exact hgrants h
  · trivial

/-- Links that are issued or deleted leave the passwords alone. -/
theorem PasswordsInv.keep (h : PasswordsInv r) (husers : r'.users = r.users)
    (hpasswords : r'.passwords = r.passwords)
    (htokens : ∀ row ∈ r'.tokens, .issued row.userId row.tokenHash ∈ r'.grants)
    (hgrants : r.grants ⊆ r'.grants) : PasswordsInv r' where
  sound := by rw [hpasswords]; exact h.sound
  newest := by rw [husers, hpasswords]; exact h.newest
  tokens := htokens
  granted := by
    rw [hpasswords]
    exact fun k s g hmem => hgrants (h.granted k s g hmem)

/-- A new account begins the history of its password. -/
theorem PasswordsInv.open (h : PasswordsInv r) {u : User} (husers : r'.users = r.users ++ [u])
    (hfresh : ∀ v ∈ r.users, v.id ≠ u.id) (htokens : r'.tokens = r.tokens)
    (hgrants : r'.grants = r.grants)
    (hpasswords : r'.passwords = ⟨u.id, u.password.password, .opened⟩ :: r.passwords) :
    PasswordsInv r' where
  sound := by
    rw [hpasswords]
    exact h.sound.cons (by simp)
  newest := by
    rw [husers, hpasswords]
    intro v hv
    rcases List.mem_append.mp hv with hv | hv
    · rw [Provenance.newest_cons_of_ne (Ne.symm (hfresh v hv))]
      exact h.newest v hv
    · rw [List.mem_singleton.mp hv]
      exact Provenance.newest_cons_self _ _ _ _
  tokens := by rw [htokens, hgrants]; exact h.tokens
  granted := by
    rw [hpasswords, hgrants]
    intro k s g hmem
    rcases List.mem_cons.mp hmem with heq | hmem
    · cases heq
    · exact h.granted k s g hmem

/-- **A password that is written by one who is entitled to keeps the assertion.** -/
theorem PasswordsInv.write (h : PasswordsInv r) {userId : UserId} {newPassword : String}
    {salt : ℕ} {ground : Provenance.Ground String TokenHash}
    (husers : r'.users = Table.updateMany (fun u => u.id == userId)
      (fun u => { u with password := ⟨newPassword, salt⟩ }) r.users)
    (htokens : ∀ row ∈ r'.tokens, .issued row.userId row.tokenHash ∈ r'.grants)
    (hgrants : r.grants ⊆ r'.grants)
    (hpasswords : r'.passwords = ⟨userId, newPassword, ground⟩ :: r.passwords)
    (hpresented : ∀ old, ground = .presented old → Provenance.Had userId old r.passwords)
    (hgranted : ∀ g, ground = .granted g → .issued userId g ∈ r.grants) : PasswordsInv r' where
  sound := by
    rw [hpasswords]
    exact h.sound.cons hpresented
  newest := by
    rw [husers, hpasswords]
    intro v hv
    obtain ⟨u, hu, rfl⟩ := Table.mem_updateMany.mp hv
    by_cases hid : u.id = userId
    · rw [if_pos (beq_iff_eq.mpr hid)]
      show Provenance.newest u.id _ = some newPassword
      rw [hid]
      exact Provenance.newest_cons_self _ _ _ _
    · rw [if_neg (by simpa using hid), Provenance.newest_cons_of_ne (Ne.symm hid)]
      exact h.newest u hu
  tokens := htokens
  granted := by
    rw [hpasswords]
    intro k s g hmem
    rcases List.mem_cons.mp hmem with heq | hmem
    · cases heq
      exact hgrants (hgranted g rfl)
    · exact hgrants (h.granted k s g hmem)

/-- Edits of names, emails and phones leave the passwords alone. -/
theorem PasswordsInv.rename (h : PasswordsInv r) (userId : UserId) (data : ProfileData)
    (t : Claims) : PasswordsInv ((r.updateUser userId data.patch).sign t) where
  sound := h.sound
  newest := by
    intro v hv
    obtain ⟨u, hu, rfl⟩ := Table.mem_updateMany.mp hv
    split
    · exact h.newest u hu
    · exact h.newest u hu
  tokens := h.tokens
  granted := h.granted

theorem resetBy_eq_some {call call' : ResetCall} {w : PasswordWrite}
    (h : resetBy call call' = some w) : ∃ rawToken newPassword token,
      call = .redeem rawToken newPassword (.write token) ∧
      w = ⟨token.userId, newPassword, .granted token.tokenHash⟩ := by
  unfold resetBy at h
  split at h
  · next rawToken newPassword token _ _ _ =>
    cases h
    exact ⟨rawToken, newPassword, token, rfl, rfl⟩
  · cases h

/-- What a step of a reset does to the links. -/
theorem reset_links {call call' : ResetCall} {s s' : ResetDB} {x : ResetInput}
    (hs : ResetCall.step hashResetToken i call s x = some (call', s')) :
    s.log ⊆ s'.log ∧ (∀ row ∈ s'.tokens,
      row ∈ s.tokens ∨ .issued row.userId row.tokenHash ∈ s'.log) ∧
    ∀ rawToken newPassword token, call' = .redeem rawToken newPassword (.write token) →
      token ∈ s.tokens := by
  rcases reset_effect hs with ⟨-, rfl, hnot⟩ | ⟨-, he⟩
  · exact ⟨fun _ h => h, fun _ h => Or.inl h, fun _ _ _ h => absurd h (hnot _ _ _)⟩
  · cases he with
    | stay _ _ hnot =>
      exact ⟨fun _ h => h, fun _ h => Or.inl h, fun _ _ _ h => absurd h (hnot _ _ _)⟩
    | delete _ _ userId hnot =>
      exact ⟨fun _ h => h, fun _ h => Or.inl (Table.mem_deleteMany.mp h).1,
        fun _ _ _ h => absurd h (hnot _ _ _)⟩
    | emit _ _ emitted hnot =>
      exact ⟨fun _ h => h, fun _ h => Or.inl h, fun _ _ _ h => absurd h (hnot _ _ _)⟩
    | issue email user rawToken expiresAt _ hok =>
      obtain rfl := createResetToken_ok hok
      refine ⟨List.subset_cons_self _ _, ?_, by simp⟩
      intro row hrow
      rcases List.mem_append.mp hrow with hrow | hrow
      · exact Or.inl hrow
      · rw [List.mem_singleton.mp hrow]
        exact Or.inr List.mem_cons_self
    | lookUp rawToken newPassword token hfind hvalid =>
      refine ⟨List.subset_cons_self _ _, fun _ h => Or.inl h, ?_⟩
      rintro _ _ _ ⟨⟩
      exact List.mem_of_find?_eq_some hfind
    | write rawToken newPassword token passwordHash _ hok =>
      obtain ⟨htokens, hlog⟩ := updatePassword_ok hok
      rw [htokens, hlog]
      exact ⟨List.subset_cons_self _ _, fun _ h => Or.inl h, by simp⟩

/-- **What a step does to the passwords.** -/
theorem identity_passwords (hverify : verify.Sound) (hinv : PasswordsInv r)
    (hentitled : Entitled l r) (hunique : (r'.users.map User.id).Nodup)
    (he : IdentityEffect verify hashResetToken i l r x l' r') :
    PasswordsInv r' ∧ Entitled l' r' ∧ r.passwords ⊆ r'.passwords ∧ r.grants ⊆ r'.grants := by
  cases he with
  | idle _ hl hl' =>
    refine ⟨hinv, ?_, fun _ h => h, fun _ h => h⟩
    unfold Entitled
    split
    · exact absurd hl' (by simp [IdentityCall.Harmless])
    · exact absurd hl' (by simp [IdentityCall.Harmless])
    · trivial
  | verified userId currentPassword newPassword user hl hfind haccepts =>
    refine ⟨hinv, ?_, fun _ h => h, fun _ h => h⟩
    obtain ⟨huser, hid⟩ := mem_of_findById hfind
    have hcurrent : user.password.password = currentPassword := hverify _ _ haccepts
    have hnewest := hinv.newest user huser
    rw [hid, hcurrent] at hnewest
    exact Provenance.had_of_newest hnewest
  | work call call' work hl h =>
    have hentitled' : Entitled (.work call') (r.afterWork call call' work) := trivial
    rcases work_users h with ⟨hnone, husers⟩ | ⟨u, hsome, husers⟩
    · have hpasswords : (r.afterWork call call' work).passwords = r.passwords := by
        simp [IdentityDB.afterWork, hnone]
      refine ⟨hinv.keep husers hpasswords hinv.tokens fun _ h => h, hentitled', ?_, fun _ h => h⟩
      rw [hpasswords]
      exact fun _ h => h
    · have hpasswords : (r.afterWork call call' work).passwords =
          ⟨u.id, u.password.password, .opened⟩ :: r.passwords := by
        simp [IdentityDB.afterWork, hsome]
      refine ⟨hinv.open husers ?_ rfl rfl hpasswords, hentitled', ?_, fun _ h => h⟩
      · intro v hv heq
        rw [show (r.afterWork call call' work).users = _ from husers, List.map_append,
          List.nodup_append] at hunique
        exact hunique.2.2 _ (List.mem_map_of_mem hv) _ (List.mem_singleton_self _) heq
      · rw [hpasswords]
        exact List.subset_cons_self _ _
  | reset call call' s hl h =>
    subst hl
    obtain ⟨hlog, htokens, hready⟩ := reset_links h
    have htokens' : ∀ row ∈ (r.afterReset call call' s).tokens,
        .issued row.userId row.tokenHash ∈ s.log := by
      intro row hrow
      rcases htokens row hrow with hold | hnew
      · exact hlog (hinv.tokens row hold)
      · exact hnew
    have hentitled' : Entitled (.reset call') (r.afterReset call call' s) := by
      unfold Entitled
      split
      · trivial
      · next heq =>
        cases heq
        exact hlog (hinv.tokens _ (hready _ _ _ rfl))
      · trivial
    rcases reset_users h with ⟨hnone, husers⟩ |
      ⟨userId, newPassword, tokenHash, salt, hsome, husers⟩
    · have hpasswords : (r.afterReset call call' s).passwords = r.passwords := by
        simp [IdentityDB.afterReset, IdentityDB.withResetDB, IdentityDB.withUsers, hnone]
      refine ⟨hinv.keep husers hpasswords htokens' hlog, hentitled', ?_, hlog⟩
      rw [hpasswords]
      exact fun _ h => h
    · have hpasswords : (r.afterReset call call' s).passwords =
          ⟨userId, newPassword, .granted tokenHash⟩ :: r.passwords := by
        simp [IdentityDB.afterReset, IdentityDB.withResetDB, IdentityDB.withUsers, hsome]
      obtain ⟨rawToken, _, token, rfl, heq⟩ := resetBy_eq_some hsome
      cases heq
      refine ⟨hinv.write husers htokens' hlog hpasswords (by simp) ?_, hentitled', ?_, hlog⟩
      · rintro g ⟨⟩
        exact hentitled
      · rw [hpasswords]
        exact List.subset_cons_self _ _
  | logIn =>
    exact ⟨hinv.keep rfl rfl hinv.tokens fun _ h => h, trivial, fun _ h => h, fun _ h => h⟩
  | driverLogIn =>
    exact ⟨hinv.keep rfl rfl hinv.tokens fun _ h => h, trivial, fun _ h => h, fun _ h => h⟩
  | profile userId input data user =>
    exact ⟨hinv.rename userId data _, trivial, fun _ h => h, fun _ h => h⟩
  | password userId currentPassword newPassword user salt hl =>
    subst hl
    refine ⟨hinv.write rfl hinv.tokens (fun _ h => h) rfl ?_ (by simp), trivial,
      List.subset_cons_self _ _, fun _ h => h⟩
    rintro old ⟨⟩
    exact hentitled

end Steps

/-! ## Runs -/

theorem openings_newest {users : List User} (h : (users.map User.id).Nodup) {u : User}
    (hu : u ∈ users) : Provenance.newest u.id (openings users) = some u.password.password := by
  have hkeys : ((openings users).map Provenance.Write.owner).Nodup := by
    rw [openings, List.map_map]
    exact h
  have hmem : (⟨u.id, u.password.password, .opened⟩ : PasswordWrite) ∈ openings users :=
    List.mem_map_of_mem hu
  rw [Provenance.newest, Table.find?_eq_some_of_mem hkeys hmem]
  rfl

theorem passwordsInv_start {users : List User} (h : Table.Unique User.clash users) :
    PasswordsInv (identityStart users) where
  sound := by
    refine .of_opened ?_
    intro w hw
    obtain ⟨u, -, rfl⟩ := List.mem_map.mp hw
    rfl
  newest u hu := openings_newest (h.nodup_map fun a b hab => by simp [User.clash, hab]) hu
  tokens := by simp [identityStart]
  granted := by
    intro k s g hmem
    obtain ⟨u, -, heq⟩ := List.mem_map.mp hmem
    cases heq

theorem entitled_start (o : IdentityOp) (r : IdentityDB) :
    Entitled ((identityMachine verify hashResetToken).start o) r := by
  cases o with
  | reset o => cases o <;> trivial
  | _ => trivial

theorem AccountsInv.nodup {n : ℕ} {r : OnboardDB} (h : AccountsInv n r) :
    (r.users.map User.id).Nodup :=
  h.users.nodup_map fun a b hab => by simp [User.clash, hab]

/-- **The proof outline.** -/
theorem passwordsOutline (hverify : verify.Sound) :
    (identityMachine verify hashResetToken).Outline (fun _ => True)
    (fun r => ∃ users, Table.Unique User.clash users ∧ (∀ u ∈ users, u.operatorId = none) ∧
      r = identityStart users)
    (fun n r => AccountsInv n r.work.onboard ∧ PasswordsInv r)
    (fun i l r => Owns i l r.work.onboard ∧ Entitled l r) where
  init := by
    rintro r ⟨users, hunique, -, rfl⟩
    exact ⟨accountsInv_start hunique, passwordsInv_start hunique⟩
  spawn n o r _ h := ⟨h.1.succ, h.2⟩
  start n o r _ h := ⟨owns_start h.1 o, entitled_start o r⟩
  shared n i x l r l' r' _ hi hG hL hs := by
    have he := identity_effect hs
    have hacc := identity_owns hG.1 hi hL.1 he
    exact ⟨hacc.1, (identity_passwords hverify hG.2 hL.2 hacc.1.nodup he).1⟩
  self n i x l r l' r' _ hi hG hL hs := by
    have he := identity_effect hs
    have hacc := identity_owns hG.1 hi hL.1 he
    exact ⟨hacc.2.1, (identity_passwords hverify hG.2 hL.2 hacc.1.nodup he).2.1⟩
  other n i x l r l' r' j m _ hi hne hG hL hm hs := by
    have he := identity_effect hs
    have hacc := identity_owns hG.1 hi hL.1 he
    have hpass := identity_passwords hverify hG.2 hL.2 hacc.1.nodup he
    exact ⟨hm.1.of_inserts (hacc.2.2 j hne), hm.2.mono hpass.2.2.1 hpass.2.2.2⟩
  env_shared n e := e.elim
  env_other n e := e.elim

/-- **Who may set a password.**  The password of an account is the one written last for it, and
goes back to the one the account was opened with, or to a link issued to its user, each on the
way having been set by a caller who presented the one before. -/
theorem passwords_entitled (hverify : verify.Sound) {c : Config IdentityDB IdentityCall}
    (h : (identity verify hashResetToken).Reachable c) {u : User} (hu : u ∈ c.shared.users) :
    Provenance.newest u.id c.shared.passwords = some u.password.password ∧
      Provenance.Derives u.id c.shared.passwords u.password.password ∧
      ∀ s g, ⟨u.id, s, .granted g⟩ ∈ c.shared.passwords → .issued u.id g ∈ c.shared.grants := by
  obtain ⟨⟨-, hinv⟩, -⟩ := (passwordsOutline hverify).invariant h.by_any
  have hnewest := hinv.newest u hu
  exact ⟨hnewest, hinv.sound.derives (Provenance.had_of_newest hnewest),
    fun s g => hinv.granted u.id s g⟩

theorem verifyPlain_sound : verifyPlain.Sound := fun _ _ => eq_of_beq

/-- The account at the end of `identityRun`. -/
def adaReset : User :=
  { ada with email := "ada@new.example", password := ⟨"New pass2", 0⟩ }

theorem passwords_entitled_run :
    adaReset ∈ identityEnd.shared.users ∧
      Provenance.Derives adaReset.id identityEnd.shared.passwords adaReset.password.password := by
  have hmem : adaReset ∈ identityEnd.shared.users := by decide +kernel
  exact ⟨hmem, (passwords_entitled verifyPlain_sound identityEnd_reachable hmem).2.1⟩

end Identity
end TransHub
