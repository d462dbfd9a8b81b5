import TransHub.Accounts.Reset

/-!
# Reset links are redeemed once when calls take turns

A request deletes the tokens of its user before it creates one, and a redemption looks
its token up, writes the password and only then deletes the token.  Neither checks again
what it has read, so two calls may overlap.

* `ResetCall.turn`, `inTurn`: the steps that no other call has got in the way of.
* `ResetInv`, `Ready`: the tables hold the newest token of each user only, and a call
  that is about to write has looked such a token up.
* `reset_links_single_use`: runs whose steps are all in turn keep links single-use;
  `reset_links_reused`: other runs do not.
-/

namespace TransHub
namespace Accounts

variable {hashResetToken : RawToken → TokenHash}

/-! ## Taking turns -/

/-- What the next step of call `i` finds, unless it fails.

* A request that creates its token: no other request has created one since its delete.
* A lookup: a token it accepts has not been used by a call that has yet to purge it, or
  has failed to.
* A write: since the lookup no call has used the token, and none has been issued to the
  user. -/
def ResetCall.turn (hashResetToken : RawToken → TokenHash) (i : ℕ) (l : ResetCall) (r : ResetDB)
    (now : Time) : Bool :=
  match l with
  | .request _ (.create user _ _) => r.tokens.all fun row => row.userId != user.id
  | .redeem rawToken _ .lookUp => (r.findResetTokenByHash (hashResetToken rawToken)).all
      fun token => !token.valid now || Grants.redemptions token.tokenHash r.log == 0
  | .redeem _ _ (.write token) => Grants.undisturbed i token.userId token.tokenHash r.log
  | _ => true

/-- A step that is in turn, or fails. -/
def inTurn (hashResetToken : RawToken → TokenHash) (c : Config ResetDB ResetCall) :
    Act ResetOp ResetInput Empty → Bool
  | .run i x => (c.procs[i]?).all fun l => x.fault || l.turn hashResetToken i c.shared x.now
  | _ => true

/-! ## What a step does -/

/-- A call that is not about to write the password. -/
def ResetCall.NotWriting (l : ResetCall) : Prop :=
  ∀ rawToken newPassword token, l ≠ .redeem rawToken newPassword (.write token)

/-- The effects of a step of call `i`. -/
inductive ResetEffect (hashResetToken : RawToken → TokenHash) (i : ℕ) (r : ResetDB) (now : Time) :
    ResetCall → ResetCall → ResetDB → Prop where
  | stay (l l' : ResetCall) (h : l'.NotWriting) : ResetEffect hashResetToken i r now l l' r
  | delete (l l' : ResetCall) (userId : UserId) (h : l'.NotWriting) :
      ResetEffect hashResetToken i r now l l' (r.deleteResetTokensForUser userId)
  | issue (email : Email) (user : User) (rawToken : RawToken) (expiresAt : Time) (r' : ResetDB)
      (h : r.createResetToken
        { userId := user.id, tokenHash := hashResetToken rawToken, expiresAt } = .ok r') :
      ResetEffect hashResetToken i r now (.request email (.create user rawToken expiresAt))
        (.request email (.emit user rawToken)) r'
  | lookUp (rawToken : RawToken) (newPassword : String) (token : PasswordResetToken)
      (h : r.findResetTokenByHash (hashResetToken rawToken) = some token)
      (hvalid : token.valid now = true) :
      ResetEffect hashResetToken i r now (.redeem rawToken newPassword .lookUp)
        (.redeem rawToken newPassword (.write token))
        { r with log := .lookedUp i token.tokenHash :: r.log }
  | write (rawToken : RawToken) (newPassword : String) (token : PasswordResetToken)
      (passwordHash : PasswordHash) (r' : ResetDB)
      (h : r.updatePassword i token passwordHash = .ok r') :
      ResetEffect hashResetToken i r now (.redeem rawToken newPassword (.write token))
        (.redeem rawToken newPassword (.purge token)) r'
  | emit (l l' : ResetCall) (emitted : List PasswordResetRequested) (h : l'.NotWriting) :
      ResetEffect hashResetToken i r now l l' { r with emitted }

variable {i : ℕ} {l l' : ResetCall} {r r' : ResetDB} {x : ResetInput}

/-- What a step that fails does, and any other: the two ways a step goes. -/
def StepOf (hashResetToken : RawToken → TokenHash) (i : ℕ) (r : ResetDB) (x : ResetInput)
    (l l' : ResetCall) (r' : ResetDB) : Prop :=
  (x.fault = true ∧ r' = r ∧ l'.NotWriting) ∨
    (x.fault = false ∧ ResetEffect hashResetToken i r x.now l l' r')

theorem request_effect {email : Email} {pc pc' : RequestPc}
    (hs : ResetCall.stepRequest hashResetToken pc email r x = some (pc', r')) :
    StepOf hashResetToken i r x (.request email pc) (.request email pc') r' := by
  have hnot : (ResetCall.request email pc').NotWriting := by simp [ResetCall.NotWriting]
  unfold ResetCall.stepRequest at hs
  by_cases hf : x.fault = true
  · refine Or.inl ⟨hf, ?_, hnot⟩
    split at hs <;> simp only [hf, reduceIte, reduceCtorEq] at hs <;> cases hs <;> rfl
  · refine Or.inr ⟨Bool.eq_false_iff.mpr hf, ?_⟩
    split at hs
    · exact absurd hs (by simp)
    · rw [if_neg hf] at hs
      split at hs <;> cases hs <;> exact .stay _ _ hnot
    · rw [if_neg hf] at hs
      cases hs
      exact .delete _ _ _ hnot
    · rw [if_neg hf] at hs
      split at hs <;> cases hs
      · exact .stay _ _ hnot
      · next hok => exact .issue _ _ _ _ _ hok
    · rw [if_neg hf] at hs
      cases hs
      exact .emit _ _ _ hnot

theorem redeem_effect {rawToken : RawToken} {newPassword : String} {pc pc' : RedeemPc}
    (hs : ResetCall.stepRedeem hashResetToken i pc rawToken newPassword r x = some (pc', r')) :
    StepOf hashResetToken i r x (.redeem rawToken newPassword pc)
      (.redeem rawToken newPassword pc') r' := by
  unfold ResetCall.stepRedeem at hs
  by_cases hf : x.fault = true
  · refine Or.inl ⟨hf, ?_⟩
    split at hs <;> simp only [hf, reduceIte, reduceCtorEq] at hs <;> cases hs <;>
      exact ⟨rfl, by simp [ResetCall.NotWriting]⟩
  · refine Or.inr ⟨Bool.eq_false_iff.mpr hf, ?_⟩
    split at hs
    · exact absurd hs (by simp)
    · rw [if_neg hf] at hs
      split at hs
      · cases hs
        exact .stay _ _ (by simp [ResetCall.NotWriting])
      · next token hfind =>
        split at hs <;> cases hs
        · next hvalid => exact .lookUp _ _ token hfind hvalid
        · exact .stay _ _ (by simp [ResetCall.NotWriting])
    · rw [if_neg hf] at hs
      split at hs <;> cases hs
      · exact .stay _ _ (by simp [ResetCall.NotWriting])
      · next hok => exact .write _ _ _ _ _ hok
    · rw [if_neg hf] at hs
      cases hs
      exact .delete _ _ _ (by simp [ResetCall.NotWriting])

/-- **What a step does.**  A step that fails ends its call and does nothing else. -/
theorem reset_effect (hs : ResetCall.step hashResetToken i l r x = some (l', r')) :
    StepOf hashResetToken i r x l l' r' := by
  unfold ResetCall.step at hs
  split at hs
  · obtain ⟨⟨pc', s⟩, hpc, heq⟩ := Option.map_eq_some_iff.mp hs
    cases heq
    exact request_effect hpc
  · obtain ⟨⟨pc', s⟩, hpc, heq⟩ := Option.map_eq_some_iff.mp hs
    cases heq
    exact redeem_effect hpc

theorem createResetToken_ok {row : PasswordResetToken} (h : r.createResetToken row = .ok r') :
    r' = { r with
      tokens := r.tokens ++ [row], log := .issued row.userId row.tokenHash :: r.log } := by
  obtain ⟨_, -, h⟩ := bind_eq_ok.mp h
  obtain ⟨tokens, hins, h⟩ := bind_eq_ok.mp h
  obtain ⟨-, rfl⟩ := Table.insert_eq_some.mp (orThrow_eq_ok.mp hins)
  cases h
  rfl

theorem updatePassword_ok {token : PasswordResetToken} {passwordHash : PasswordHash}
    (h : r.updatePassword i token passwordHash = .ok r') :
    r'.tokens = r.tokens ∧ r'.log = .redeemed i token.userId token.tokenHash :: r.log := by
  obtain ⟨_, -, h⟩ := bind_eq_ok.mp h
  cases h
  exact ⟨rfl, rfl⟩

/-! ## The invariant -/

/-- The table holds the newest token of each user, if any, and the log is sound. -/
structure ResetInv (r : ResetDB) : Prop where
  sound : Grants.Sound r.log
  owners : (r.tokens.map PasswordResetToken.userId).Nodup
  newest : ∀ row ∈ r.tokens, Grants.newest row.userId r.log = some row.tokenHash

/-- A call that is about to write the password has looked up the newest token of the user,
before it was used. -/
def Ready (i : ℕ) (l : ResetCall) (r : ResetDB) : Prop :=
  match l with
  | .redeem _ _ (.write token) => Grants.Current i token.userId token.tokenHash r.log
  | _ => True

theorem Ready.of_notWriting (h : l.NotWriting) : Ready i l r := by
  unfold Ready
  split
  · next rawToken newPassword token => exact absurd rfl (h rawToken newPassword token)
  · trivial

/-- A call stays ready when the log grows by an event that is no lookup of its own. -/
theorem Ready.cons {e : Grants.Event UserId TokenHash} (h : Ready i l r)
    (he : e.lookupOf i = false) (hlog : r'.log = e :: r.log) : Ready i l r' := by
  unfold Ready at h ⊢
  split at h
  · rw [hlog]
    exact h.cons he
  · trivial

theorem Ready.of_log (h : Ready i l r) (hlog : r'.log = r.log) : Ready i l r' := by
  unfold Ready at h ⊢
  split at h
  · rw [hlog]
    exact h
  · trivial

/-- Deleting tokens keeps the invariant. -/
theorem ResetInv.delete (h : ResetInv r) (userId : UserId) :
    ResetInv (r.deleteResetTokensForUser userId) where
  sound := h.sound
  owners := Table.nodup_map_filter h.owners _
  newest row hrow := h.newest row (Table.mem_deleteMany.mp hrow).1

/-- **A token issued in turn is the only one of its user.** -/
theorem ResetInv.issue (h : ResetInv r) {row : PasswordResetToken}
    (hnone : ∀ row' ∈ r.tokens, row'.userId ≠ row.userId) :
    ResetInv { r with
      tokens := r.tokens ++ [row], log := .issued row.userId row.tokenHash :: r.log } where
  sound := h.sound.cons (by simp)
  owners := by
    show ((r.tokens ++ [row]).map PasswordResetToken.userId).Nodup
    rw [List.map_append, List.nodup_append]
    refine ⟨h.owners, List.nodup_singleton _, ?_⟩
    intro a ha b hb heq
    obtain ⟨row', hrow', rfl⟩ := List.mem_map.mp ha
    exact hnone row' hrow' (heq.trans (List.mem_singleton.mp hb))
  newest := by
    intro row' hrow'
    rcases List.mem_append.mp hrow' with hold | hnew
    · have hne := hnone row' hold
      rw [Grants.newest_cons_of_none (by simpa [Grants.Event.issuedTo] using hne.symm)]
      exact h.newest row' hold
    · rw [List.mem_singleton.mp hnew]
      exact Grants.newest_cons_issued _ _ _

/-- An event that issues nothing leaves the newest tokens as they are. -/
theorem ResetInv.log (h : ResetInv r) {e : Grants.Event UserId TokenHash}
    (hsound : Grants.Sound (e :: r.log)) (he : ∀ u, e.issuedTo u = none) :
    ResetInv { r with log := e :: r.log } where
  sound := hsound
  owners := h.owners
  newest row hrow := by
    rw [Grants.newest_cons_of_none (he row.userId)]
    exact h.newest row hrow

/-- **A step in turn keeps the invariant, readies its own call at most, and leaves the
others ready.** -/
theorem reset_keeps (hinv : ResetInv r) (hready : Ready i l r)
    (hturn : l.turn hashResetToken i r x.now = true)
    (heff : ResetEffect hashResetToken i r x.now l l' r') :
    ResetInv r' ∧ Ready i l' r' ∧ ∀ j m, j ≠ i → Ready j m r → Ready j m r' := by
  cases heff with
  | stay _ _ hne => exact ⟨hinv, .of_notWriting hne, fun j m _ hm => hm⟩
  | delete _ _ userId hne =>
    exact ⟨hinv.delete userId, .of_notWriting hne, fun j m _ hm => hm.of_log rfl⟩
  | emit _ _ emitted hne =>
    exact ⟨⟨hinv.sound, hinv.owners, hinv.newest⟩, .of_notWriting hne,
      fun j m _ hm => hm.of_log rfl⟩
  | issue email user rawToken expiresAt _ hok =>
    obtain rfl := createResetToken_ok hok
    have hnone : ∀ row ∈ r.tokens, row.userId ≠ user.id := by
      intro row hrow
      simpa using List.all_eq_true.mp hturn row hrow
    exact ⟨hinv.issue hnone, trivial, fun j m _ hm => hm.cons rfl rfl⟩
  | lookUp rawToken newPassword token hfind hvalid =>
    have hmem : token ∈ r.tokens := List.mem_of_find?_eq_some hfind
    have hzero : Grants.redemptions token.tokenHash r.log = 0 := by
      unfold ResetCall.turn at hturn
      dsimp only at hturn
      rw [hfind] at hturn
      simpa [hvalid] using hturn
    refine ⟨hinv.log (hinv.sound.cons (by simp)) (fun _ => rfl),
      Grants.Current.of_lookup i (hinv.newest token hmem) hzero, ?_⟩
    intro j m hji hm
    exact hm.cons (by simpa [Grants.Event.lookupOf] using Ne.symm hji) rfl
  | write rawToken newPassword token passwordHash _ hok =>
    obtain ⟨htokens, hlog⟩ := updatePassword_ok hok
    have hsound : Grants.Sound (.redeemed i token.userId token.tokenHash :: r.log) :=
      hinv.sound.redeem hready hturn
    have hinv' := hinv.log hsound (fun _ => rfl)
    refine ⟨⟨?_, ?_, ?_⟩, trivial, fun j m _ hm => hm.cons rfl hlog⟩
    · rw [hlog]
      exact hinv'.sound
    · rw [htokens]
      exact hinv'.owners
    · rw [htokens, hlog]
      exact hinv'.newest

/-! ## Runs -/

/-- What the invariant says of a configuration. -/
def ResetsInv (c : Config ResetDB ResetCall) : Prop :=
  ResetInv c.shared ∧ ∀ (i : ℕ) l, c.procs[i]? = some l → Ready i l c.shared

/-- **A move in turn keeps it.** -/
theorem resets_next {c c' : Config ResetDB ResetCall} {a : Act ResetOp ResetInput Empty}
    (h : ResetsInv c) (hturn : inTurn hashResetToken c a = true)
    (hs : (resets hashResetToken).step c a = some c') : ResetsInv c' := by
  obtain ⟨hinv, hready⟩ := h
  rcases Machine.next_cases hs with ⟨o, rfl, rfl⟩ | ⟨i, x, l, l', r', rfl, hi, hown, rfl⟩ |
    ⟨e, -, -, -, -⟩
  · refine ⟨hinv, ?_⟩
    intro j m hj
    rcases Machine.getElem?_snoc_cases hj with ⟨-, rfl⟩ | hj
    · cases o <;> trivial
    · exact hready j m hj
  · have hkeeps : ResetInv r' ∧ Ready i l' r' ∧
        ∀ j m, j ≠ i → Ready j m c.shared → Ready j m r' := by
      rcases reset_effect hown with ⟨-, rfl, hne⟩ | ⟨hf, heff⟩
      · exact ⟨hinv, .of_notWriting hne, fun j m _ hm => hm⟩
      · simp only [inTurn, hi, Option.all_some, hf, Bool.false_or] at hturn
        exact reset_keeps hinv (hready i l hi) hturn heff
    refine ⟨hkeeps.1, ?_⟩
    intro j m hj
    rcases Machine.getElem?_set_cases hi hj with ⟨rfl, rfl⟩ | ⟨hne, hj⟩
    · exact hkeeps.2.1
    · exact hkeeps.2.2 j m hne (hready j m hj)
  · exact e.elim

theorem resetsInv_init {c : Config ResetDB ResetCall} (h : (resets hashResetToken).init c) :
    ResetsInv c := by
  obtain ⟨⟨users, hr⟩, hprocs⟩ := h
  refine ⟨?_, ?_⟩
  · rw [hr]
    refine ⟨⟨fun t => Nat.zero_le _, ?_⟩, List.nodup_nil, fun row hrow => absurd hrow (by simp)⟩
    intro i u t earlier hsuf
    exact absurd hsuf.length_le (by simp)
  · intro i l hi
    rw [hprocs] at hi
    exact absurd hi (by simp)

/-! ## Single use -/

/-- A call of `requestPasswordReset` that has not ended. -/
def ResetCall.requesting : ResetCall → Bool
  | .request _ (.done _) => false
  | .request _ _ => true
  | .redeem .. => false

/-- No token has changed the password more than once; while no request is in flight, at most
one token of each user would be accepted, at any time; and whenever a token has changed the
password, it was the newest that had been issued to its user. -/
def LinksSingleUse (c : Config ResetDB ResetCall) : Prop :=
  (∀ t, Grants.redemptions t c.shared.log ≤ 1) ∧
  ((∀ l ∈ c.procs, l.requesting = false) → ∀ userId now,
    c.shared.tokens.countP (fun row => row.userId == userId && row.valid now) ≤ 1) ∧
  ∀ i userId t earlier, (.redeemed i userId t :: earlier) <:+ c.shared.log →
    Grants.newest userId earlier = some t

theorem ResetInv.countP_le_one (h : ResetInv r) (userId : UserId) (now : Time) :
    r.tokens.countP (fun row => row.userId == userId && row.valid now) ≤ 1 := by
  have hle : r.tokens.countP (fun row => row.userId == userId && row.valid now)
      ≤ (r.tokens.map PasswordResetToken.userId).count userId := by
    rw [List.count, List.countP_map]
    refine List.countP_mono_left ?_
    intro row _ hrow
    rw [Bool.and_eq_true] at hrow
    exact hrow.1
  have hone := List.nodup_iff_count_le_one.mp h.owners userId
  omega

/-- **Reset links are single-use when calls take turns.**  In every state of a run whose
steps are in turn, whatever fails: each token has changed the password at most once, at most
one token of a user is redeemable, and no token has changed the password after a newer one
was issued to its user. -/
theorem reset_links_single_use {c : Config ResetDB ResetCall}
    (h : (resets hashResetToken).init c) {acts : List (Act ResetOp ResetInput Empty)}
    (hturn : (resets hashResetToken).AllSteps
      (fun m a => inTurn hashResetToken m a = true) c acts) :
    ∀ m ∈ (resets hashResetToken).trace c acts, LinksSingleUse m := by
  intro m hm
  have hinv : ResetsInv m := hturn.invariant_trace
    (fun r a r' hr ha hs => resets_next hr ha hs) (resetsInv_init h) hm
  exact ⟨hinv.1.sound.once, fun _ userId now => hinv.1.countP_le_one userId now,
    hinv.1.sound.newest⟩

/-! ## Runs -/

/-- A registered user. -/
def ada : User where
  id := 7
  email := "ada@example.com"
  password := ⟨"Old pass1", 0⟩
  fullName := "Ada"
  phone := "08030000000"

/-- One user and no call. -/
def resetStart : Config ResetDB ResetCall := ⟨⟨[ada], [], [], []⟩, []⟩

/-- A step in which nothing fails. -/
def drawing (rawToken : RawToken) : ResetInput := ⟨false, 1000, rawToken, 0⟩

/-- Call `i` takes `n` steps. -/
def steps (i n : ℕ) (rawToken : RawToken) : List (Act ResetOp ResetInput Empty) :=
  List.replicate n (.run i (drawing rawToken))

/-- A request, a redemption that fails before it purges, a second request and its
redemption. -/
def inTurnRun : List (Act ResetOp ResetInput Empty) :=
  [.spawn (.requestPasswordReset "ada@example.com")] ++ steps 0 4 55 ++
  [.spawn (.resetPassword 55 "New pass1")] ++ steps 1 2 0 ++
  [.run 1 ⟨true, 1000, 0, 0⟩, .spawn (.requestPasswordReset "ada@example.com")] ++ steps 2 4 56 ++
  [.spawn (.resetPassword 56 "New pass2")] ++ steps 3 3 0

theorem inTurnRun_inTurn :
    (resets id).AllSteps (fun m a => inTurn id m a = true) resetStart inTurnRun := by
  decide +kernel

theorem reset_links_single_use_inTurn :
    ((resets id).run resetStart inTurnRun).map (fun m => m.shared.users.map User.password)
        = some [⟨"New pass2", 0⟩] ∧
      ∀ m ∈ (resets id).trace resetStart inTurnRun, LinksSingleUse m :=
  ⟨by decide +kernel, reset_links_single_use ⟨⟨[ada], rfl⟩, rfl⟩ inTurnRun_inTurn⟩

/-- Two redemptions of one link look it up before either purges it. -/
def twiceRun : List (Act ResetOp ResetInput Empty) :=
  [.spawn (.requestPasswordReset "ada@example.com")] ++ steps 0 4 55 ++
  [.spawn (.resetPassword 55 "New pass1"), .spawn (.resetPassword 55 "New pass2")] ++
  steps 1 1 0 ++ steps 2 1 0 ++ steps 1 2 0 ++ steps 2 2 0

/-- Two requests delete before either creates. -/
def twoLinksRun : List (Act ResetOp ResetInput Empty) :=
  [.spawn (.requestPasswordReset "ada@example.com"),
    .spawn (.requestPasswordReset "ada@example.com")] ++
  steps 0 2 55 ++ steps 1 2 56 ++ steps 0 2 0 ++ steps 1 2 0

/-- A redemption looks its link up, and a newer one is issued before it writes. -/
def staleRun : List (Act ResetOp ResetInput Empty) :=
  [.spawn (.requestPasswordReset "ada@example.com")] ++ steps 0 4 55 ++
  [.spawn (.resetPassword 55 "New pass1")] ++ steps 1 1 0 ++
  [.spawn (.requestPasswordReset "ada@example.com")] ++ steps 2 4 56 ++ steps 1 2 0

theorem twiceRun_runs : ((resets id).run resetStart twiceRun).isSome = true := by decide +kernel

theorem twoLinksRun_runs : ((resets id).run resetStart twoLinksRun).isSome = true := by
  decide +kernel

theorem staleRun_runs : ((resets id).run resetStart staleRun).isSome = true := by decide +kernel

def twiceEnd : Config ResetDB ResetCall := ((resets id).run resetStart twiceRun).get twiceRun_runs

def twoLinksEnd : Config ResetDB ResetCall :=
  ((resets id).run resetStart twoLinksRun).get twoLinksRun_runs

def staleEnd : Config ResetDB ResetCall := ((resets id).run resetStart staleRun).get staleRun_runs

theorem reset_reachable {acts : List (Act ResetOp ResetInput Empty)} {c : Config ResetDB ResetCall}
    (h : (resets id).run resetStart acts = some c) : (resets id).Reachable c :=
  ⟨resetStart, ⟨⟨[ada], rfl⟩, rfl⟩, acts, h⟩

/-- **Links are not single-use in every run.**  Two redemptions of one link both change the
password; two requests leave two links that both work; and a link changes the password after
a newer one was issued. -/
theorem reset_links_reused :
    ((resets id).Reachable twiceEnd ∧ Grants.redemptions 55 twiceEnd.shared.log = 2 ∧
      ¬ LinksSingleUse twiceEnd) ∧
    ((resets id).Reachable twoLinksEnd ∧
      twoLinksEnd.procs = [.request "ada@example.com" (.done .returned),
        .request "ada@example.com" (.done .returned)] ∧
      twoLinksEnd.shared.tokens.countP (fun row => row.userId == 7 && row.valid 1000) = 2 ∧
      ¬ LinksSingleUse twoLinksEnd) ∧
    ((resets id).Reachable staleEnd ∧
      staleEnd.shared.log = [.redeemed 1 7 55, .issued 7 56, .lookedUp 1 55, .issued 7 55] ∧
      ¬ LinksSingleUse staleEnd) := by
  have htwice : Grants.redemptions 55 twiceEnd.shared.log = 2 := by decide +kernel
  have hrest : ∀ l ∈ twoLinksEnd.procs, l.requesting = false := by decide +kernel
  have htwo : twoLinksEnd.shared.tokens.countP
      (fun row => row.userId == 7 && row.valid 1000) = 2 := by decide +kernel
  have hlog : staleEnd.shared.log =
      [.redeemed 1 7 55, .issued 7 56, .lookedUp 1 55, .issued 7 55] := by decide +kernel
  refine ⟨⟨reset_reachable (Option.some_get _).symm, htwice, ?_⟩,
    ⟨reset_reachable (Option.some_get _).symm, by decide +kernel, htwo, ?_⟩,
    ⟨reset_reachable (Option.some_get _).symm, hlog, ?_⟩⟩
  · intro h
    have hle := h.1 55
    omega
  · intro h
    have hle := h.2.1 hrest 7 1000
    omega
  · intro h
    have hnew := h.2.2 1 7 55 [.issued 7 56, .lookedUp 1 55, .issued 7 55]
      (by simp only [hlog, List.suffix_rfl])
    exact absurd hnew (by decide)

end Accounts
end TransHub
