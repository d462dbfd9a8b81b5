import TransHub.Identity.Unique

/-!
# What a token says

A token is signed from a row, in the step that has read or written it, and is good for days
after.  The row may be renamed meanwhile.

* `Tells`: the claims are those of a stored row, of an active driver if of a driver.
* `Stands`: the id, the role and the operator of the claims still are those of a row.
* `tokens_true`: a token was true when it was signed, and what the guards read of it stays so.
-/

namespace TransHub
namespace Identity

open Accounts Fleet

variable {verify : Verify} {hashResetToken : RawToken → TokenHash}

/-- The claims of a stored account, or of a driver who is active. -/
def Tells (t : Claims) (r : IdentityDB) : Prop :=
  (∃ u ∈ r.users, t = claimsOf u) ∨
    ∃ d ∈ r.work.drivers, d.isActive = true ∧ t = driverClaims d.toDriverDTO

/-- What the guards read of the claims is what the tables say. -/
def Stands (t : Claims) (r : IdentityDB) : Prop :=
  (∃ u ∈ r.users, u.id = t.id ∧ u.role = t.role ∧ u.operatorId = t.operatorId) ∨
    t.role = .driver ∧ ∃ operatorId, t.operatorId = some operatorId ∧
      Drivers.Employs operatorId t.id r.work.drivers

section Steps

variable {i : ℕ} {l l' : IdentityCall} {r r' : IdentityDB} {x : IdentityInput} {t : Claims}

theorem Tells.stands (h : Tells t r) : Stands t r := by
  rcases h with ⟨u, hu, rfl⟩ | ⟨d, hd, -, rfl⟩
  · exact Or.inl ⟨u, hu, rfl, rfl, rfl⟩
  · exact Or.inr ⟨rfl, d.operatorId, rfl, d, hd, rfl, rfl⟩

theorem Stands.succeeds (h : Stands t r) (hs : Succeeds r r') : Stands t r' := by
  rcases h with ⟨u, hu, hid, hrole, hop⟩ | ⟨hrole, operatorId, hop, hd⟩
  · obtain ⟨u', hu', hid', hrole', hop'⟩ := hs.users u hu
    exact Or.inl ⟨u', hu', hid'.trans hid, hrole'.trans hrole, hop'.trans hop⟩
  · exact Or.inr ⟨hrole, operatorId, hop, hs.drivers _ _ hd⟩

/-- **A step signs what the tables say after it.** -/
theorem signs_true (he : IdentityEffect verify hashResetToken i l r x l' r') (ht : t ∈ r'.signed) :
    t ∈ r.signed ∨ Tells t r' := by
  cases he with
  | idle => exact Or.inl ht
  | verified => exact Or.inl ht
  | work call call' work hl h =>
    rcases List.mem_append.mp ht with hnew | hold
    · obtain ⟨u, hu, rfl⟩ := Option.map_eq_some_iff.mp (Option.mem_toList.mp hnew)
      have hopened := openedBy_of_registeredBy hu
      rcases work_users h with ⟨hnone, -⟩ | ⟨v, hsome, husers⟩
      · rw [hopened] at hnone
        exact absurd hnone (by simp)
      · rw [hopened, Option.some.injEq] at hsome
        subst hsome
        refine Or.inr (Or.inl ⟨u, ?_, rfl⟩)
        rw [show (r.afterWork call call' work).users = _ from husers]
        exact List.mem_append_right _ (List.mem_singleton_self u)
    · exact Or.inl hold
  | reset => exact Or.inl ht
  | logIn user hl hu =>
    rcases List.mem_cons.mp ht with rfl | hold
    · exact Or.inr (Or.inl ⟨user, hu, rfl⟩)
    · exact Or.inl hold
  | driverLogIn driver hl hd hactive =>
    rcases List.mem_cons.mp ht with rfl | hold
    · exact Or.inr (Or.inr ⟨driver, hd, hactive, rfl⟩)
    · exact Or.inl hold
  | profile userId input data user hl hfind =>
    rcases List.mem_cons.mp ht with rfl | hold
    · obtain ⟨huser, hid⟩ := mem_of_findById hfind
      refine Or.inr (Or.inl ⟨data.patch user, ?_, rfl⟩)
      have hmem := Table.mem_updateMany_of_mem (p := fun u => u.id == userId) (f := data.patch)
        huser
      rwa [if_pos (beq_iff_eq.mpr hid)] at hmem
    · exact Or.inl hold
  | password => exact Or.inl ht

end Steps

/-- What the guards read of a token is still so. -/
theorem signed_stands {c : Config IdentityDB IdentityCall}
    (h : (identity verify hashResetToken).Reachable c) {t : Claims} (ht : t ∈ c.shared.signed) :
    Stands t c.shared := by
  have hkeep : (identity verify hashResetToken).Reachable c ∧
      ∀ t ∈ c.shared.signed, Stands t c.shared := by
    obtain ⟨c₀, h₀, acts, hrun⟩ := h
    refine System.run_rule (P := fun _ c => (identity verify hashResetToken).Reachable c ∧
      ∀ t ∈ c.shared.signed, Stands t c.shared) hrun ⟨.of_init h₀, ?_⟩ ?_
    · obtain ⟨⟨users, -, -, hstart⟩, -⟩ := h₀
      rw [hstart]
      intro t ht
      exact absurd ht List.not_mem_nil
    · rintro acts m a m' - ⟨hm, ih⟩ hs
      have hsucc : Succeeds m.shared m'.shared := identity_succeeds hm (.of_step hs)
      refine ⟨hm.step hs, ?_⟩
      intro t ht
      rcases Machine.next_cases hs with ⟨o, -, rfl⟩ | ⟨i, x, l, l', r', -, -, hown, rfl⟩ | ⟨e, -⟩
      · exact ih t ht
      · rcases signs_true (identity_effect hown) ht with ht | htells
        · exact (ih t ht).succeeds hsucc
        · exact htells.stands
      · exact e.elim
  exact hkeep.2 t ht

/-- **Tokens are true.**  In every run each token said what the tables said in some state since,
a driver's only while the driver was active, and its id, role and operator still are those of
the account or driver. -/
theorem tokens_true {c₀ c : Config IdentityDB IdentityCall}
    {acts : List (Act IdentityOp IdentityInput Empty)}
    (h₀ : (identity verify hashResetToken).init c₀)
    (hrun : (identity verify hashResetToken).run c₀ acts = some c) {t : Claims}
    (ht : t ∈ c.shared.signed) :
    (∃ m ∈ (identity verify hashResetToken).trace c₀ acts, Tells t m.shared) ∧
      Stands t c.shared := by
  refine ⟨?_, signed_stands (System.Reachable.of_init h₀ |>.run hrun) ht⟩
  refine System.run_rule (P := fun acts c => ∀ t ∈ c.shared.signed,
    ∃ m ∈ (identity verify hashResetToken).trace c₀ acts, Tells t m.shared) hrun ?_ ?_ t ht
  · obtain ⟨⟨users, -, -, hstart⟩, -⟩ := h₀
    rw [hstart]
    intro t ht
    exact absurd ht List.not_mem_nil
  · intro acts m a m' hm ih hs t ht
    have hlead : (identity verify hashResetToken).run c₀ (acts ++ [a]) = some m' :=
      System.run_snoc_eq_some _ |>.mpr ⟨m, hm, hs⟩
    have hold : t ∈ m.shared.signed →
        ∃ m ∈ (identity verify hashResetToken).trace c₀ (acts ++ [a]), Tells t m.shared := by
      intro ht
      obtain ⟨k, hk, htells⟩ := ih t ht
      exact ⟨k, System.mem_trace_append hk, htells⟩
    rcases Machine.next_cases hs with ⟨o, -, rfl⟩ | ⟨i, x, l, l', r', -, -, hown, rfl⟩ | ⟨e, -⟩
    · exact hold ht
    · rcases signs_true (identity_effect hown) ht with ht | htells
      · exact hold ht
      · exact ⟨_, System.mem_trace_of_run hlead, htells⟩
    · exact e.elim

theorem tokens_true_run : claimsOf ada ∈ identityEnd.shared.signed ∧
    Stands (claimsOf ada) identityEnd.shared := by
  have hmem : claimsOf ada ∈ identityEnd.shared.signed := by decide +kernel
  exact ⟨hmem, (tokens_true identityInit_init identityEnd_run hmem).2⟩

/-! ## One company -/

/-- A company applies as operator `3` and is approved, and its contact, with account `9`, logs in;
`onboard`, `login` and `input` are what these are to a larger system. -/
def swiftJoins {Op Input : Type} (onboard : OnboardOp → Op) (login : Email → String → Op)
    (input : ℕ → Input) : List (Act Op Input Empty) :=
  [.spawn (onboard (.registerOperator swift)), .run 0 (input 3), .run 0 (input 3),
    .spawn (onboard (.approve 3))] ++ List.replicate 6 (.run 1 (input 9)) ++
  [.spawn (login swift.email "temp"), .run 2 (input 0)]

/-- What her token says. -/
def bola : Claims := ⟨⟨9, .operator, some 3⟩, some swift.email, "Bola", "08031111111"⟩

end Identity
end TransHub
