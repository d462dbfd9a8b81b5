import TransHub.Accounts.Onboarding

/-!
# An operator and its account come together

What every interleaving of sign-ups, applications, approvals and declines keeps.

* `OnboardEffect`, `onboard_effect`: what a step can do to the shared state.
* `OnboardInv`: the assertion on the tables, the locks, the open inserts and the history;
  `Holds`: the assertion on a call.
* `Rely`: what a call may count on while others move.
* `operator_onboarding`: the statement over all runs.
-/

namespace TransHub
namespace Accounts

/-! ## What a step does to the shared state -/

/-- The effects of the steps of call `i` in the local state `l`. -/
inductive OnboardEffect (i : ℕ) (l : OnboardCall) (r : OnboardDB) : OnboardDB → Prop where
  | none : OnboardEffect i l r r
  | register (input : RegisterInput) (x : OnboardInput) (users : List User)
      (hl : l = .register input .create) (hwait : r.insertedByOther i (input.account x) = false)
      (h : Table.insert User.clash r.users (input.account x) = some users) :
      OnboardEffect i l r { r with users }
  | apply (input : Application) (id : OperatorId) (operators : List Operator)
      (h : Table.insert Operator.clash r.operators { input with id } = some operators) :
      OnboardEffect i l r { r with operators }
  | lock (id : OperatorId) (op : Operator) (hl : l = .approve id (.mark op))
      (hfree : r.lockedByOther i id = false)
      (h : r.operators.any (OnboardDB.pendingRow id) = true) :
      OnboardEffect i l r { r with locks := (id, i) :: r.locks }
  | insert (id : OperatorId) (op : Operator) (t : Time) (u : User) (users : List User)
      (hl : l = .approve id (.insert op t)) (hwait : r.insertedByOther i u = false)
      (h : Table.insert User.clash r.users u = some users) :
      OnboardEffect i l r { r with inserts := (i, u) :: r.inserts }
  | close : OnboardEffect i l r (r.close i)
  | approved (id : OperatorId) (op : Operator) (u : User) (t : Time)
      (hl : l = .approve id (.commit op t u)) : OnboardEffect i l r (r.approved i id u t)
  | declined (id : OperatorId) (t : Time) (hl : l = .decline id .mark)
      (hfree : r.lockedByOther i id = false) :
      OnboardEffect i l r { r with
        operators := Table.updateMany (OnboardDB.pendingRow id) (OnboardDB.reviewed .declined t)
          r.operators }
  | emit (id : OperatorId) (op : Operator) (tempPassword : String)
      (hl : l = .approve id (.refetch op tempPassword)) :
      OnboardEffect i l r { r with
        emitted := ⟨i, op.email, op.contactName, op.companyName, tempPassword⟩ :: r.emitted }

section Effects

variable {i : ℕ} {l l' : OnboardCall} {r r' : OnboardDB} {x : OnboardInput}

theorem register_effect {input : RegisterInput} {pc pc' : SignUpPc}
    (hs : OnboardCall.stepRegister i input pc r x = some (pc', r')) :
    OnboardEffect i (.register input pc) r r' := by
  unfold OnboardCall.stepRegister at hs
  split at hs
  · exact absurd hs (by simp)
  · split at hs
    · cases hs
      exact .none
    · split at hs <;> cases hs <;> exact .none
  · split at hs
    · cases hs
      exact .none
    · split at hs
      · exact absurd hs (by simp)
      · next hwait =>
        split at hs
        · cases hs
          exact .none
        · next hins =>
          cases hs
          exact .register input x _ rfl (Bool.eq_false_iff.mpr hwait) hins

theorem registerOperator_effect {input : Application} {pc pc' : SignUpPc}
    (hs : OnboardCall.stepRegisterOperator input pc r x = some (pc', r')) :
    OnboardEffect i (.registerOperator input pc) r r' := by
  unfold OnboardCall.stepRegisterOperator at hs
  split at hs
  · exact absurd hs (by simp)
  · split at hs
    · cases hs
      exact .none
    · split at hs <;> cases hs <;> exact .none
  · split at hs
    · cases hs
      exact .none
    · split at hs
      · cases hs
        exact .none
      · next hins =>
        cases hs
        exact .apply input x.uuid _ hins

theorem approve_effect {id : OperatorId} {pc pc' : ApprovePc}
    (hs : OnboardCall.stepApprove i id pc r x = some (pc', r')) :
    OnboardEffect i (.approve id pc) r r' := by
  unfold OnboardCall.stepApprove at hs
  split at hs
  · exact absurd hs (by simp)
  · split at hs
    · cases hs
      exact .none
    · split at hs <;> cases hs <;> exact .none
  · split at hs
    · cases hs
      exact .none
    · split at hs <;> cases hs <;> exact .none
  · split at hs
    · cases hs
      exact .none
    · split at hs
      · exact absurd hs (by simp)
      · next hfree =>
        split at hs <;> cases hs
        · next hpend => exact .lock id _ rfl (Bool.eq_false_iff.mpr hfree) hpend
        · exact .none
  · split at hs
    · cases hs
      exact .close
    · split at hs
      · cases hs
        exact .close
      · split at hs
        · exact absurd hs (by simp)
        · next hwait =>
          split at hs <;> cases hs
          · exact .close
          · next hins => exact .insert id _ _ _ _ rfl (Bool.eq_false_iff.mpr hwait) hins
  · split at hs <;> cases hs
    · exact .close
    · exact .approved id _ _ _ rfl
  · split at hs <;> cases hs
    · exact .none
    · exact .emit id _ _ rfl

theorem decline_effect {id : OperatorId} {pc pc' : DeclinePc}
    (hs : OnboardCall.stepDecline i id pc r x = some (pc', r')) :
    OnboardEffect i (.decline id pc) r r' := by
  unfold OnboardCall.stepDecline at hs
  split at hs
  · exact absurd hs (by simp)
  · split at hs
    · cases hs
      exact .none
    · split at hs <;> cases hs <;> exact .none
  · split at hs
    · cases hs
      exact .none
    · split at hs
      · exact absurd hs (by simp)
      · next hfree =>
        split at hs <;> cases hs
        · exact .declined id x.now rfl (Bool.eq_false_iff.mpr hfree)
        · exact .none
  · split at hs <;> cases hs <;> exact .none

/-- **What a step does to the shared state.** -/
theorem onboard_effect (hs : OnboardCall.step i l r x = some (l', r')) :
    OnboardEffect i l r r' := by
  unfold OnboardCall.step at hs
  split at hs
  · obtain ⟨⟨pc', s⟩, hpc, heq⟩ := Option.map_eq_some_iff.mp hs
    cases heq
    exact register_effect hpc
  · obtain ⟨⟨pc', s⟩, hpc, heq⟩ := Option.map_eq_some_iff.mp hs
    cases heq
    exact registerOperator_effect hpc
  · obtain ⟨⟨pc', s⟩, hpc, heq⟩ := Option.map_eq_some_iff.mp hs
    cases heq
    exact approve_effect hpc
  · obtain ⟨⟨pc', s⟩, hpc, heq⟩ := Option.map_eq_some_iff.mp hs
    cases heq
    exact decline_effect hpc

end Effects

/-! ## Reviews -/

section Reviews

variable {id : OperatorId} {status : OperatorStatus} {t : Time} {operators : List Operator}

theorem pendingRow_iff {op : Operator} :
    OnboardDB.pendingRow id op = true ↔ op.id = id ∧ op.status = .pending := by
  simp [OnboardDB.pendingRow]

/-- A row after a review is the reviewed pending row, or one that was there before. -/
theorem mem_reviewed {op : Operator}
    (h : op ∈ Table.updateMany (OnboardDB.pendingRow id) (OnboardDB.reviewed status t) operators) :
    (∃ op₀ ∈ operators, op₀.id = id ∧ op₀.status = .pending ∧
        op = OnboardDB.reviewed status t op₀) ∨
      (op ∈ operators ∧ ¬ (op.id = id ∧ op.status = .pending)) := by
  obtain ⟨op₀, hop₀, rfl⟩ := Table.mem_updateMany.mp h
  split
  · next hp =>
    obtain ⟨hid, hpend⟩ := pendingRow_iff.mp hp
    exact Or.inl ⟨op₀, hop₀, hid, hpend, rfl⟩
  · next hp => exact Or.inr ⟨hop₀, fun hrow => hp (pendingRow_iff.mpr hrow)⟩

/-- A row that is no pending row of the id is left alone. -/
theorem mem_reviewed_of_not {op : Operator} (hop : op ∈ operators)
    (h : ¬ (op.id = id ∧ op.status = .pending)) :
    op ∈ Table.updateMany (OnboardDB.pendingRow id) (OnboardDB.reviewed status t) operators :=
  Table.mem_updateMany_of_not hop (Bool.eq_false_iff.mpr fun hp => h (pendingRow_iff.mp hp))

theorem mem_reviewed_of_approved {op : Operator} (hop : op ∈ operators)
    (happ : op.status = .approved) :
    op ∈ Table.updateMany (OnboardDB.pendingRow id) (OnboardDB.reviewed status t) operators := by
  refine mem_reviewed_of_not hop ?_
  rw [happ]
  simp

/-- A review stamps the row it moves out of `pending`. -/
theorem reviewed_stamped (hne : status ≠ .pending)
    (h : ∀ op ∈ operators, op.reviewedAt ≠ none ↔ op.status ≠ .pending) :
    ∀ op ∈ Table.updateMany (OnboardDB.pendingRow id) (OnboardDB.reviewed status t) operators,
      op.reviewedAt ≠ none ↔ op.status ≠ .pending := by
  intro op hop
  rcases mem_reviewed hop with ⟨op₀, -, -, -, rfl⟩ | ⟨hop, -⟩
  · simp [OnboardDB.reviewed, hne]
  · exact h op hop

theorem reviewed_mem {op : Operator} (hop : op ∈ operators) (hid : op.id = id)
    (hpend : op.status = .pending) :
    OnboardDB.reviewed status t op ∈
      Table.updateMany (OnboardDB.pendingRow id) (OnboardDB.reviewed status t) operators := by
  have hmem := Table.mem_updateMany_of_mem (p := OnboardDB.pendingRow id)
    (f := OnboardDB.reviewed status t) hop
  rwa [if_pos (pendingRow_iff.mpr ⟨hid, hpend⟩)] at hmem

/-- A review keeps the id and the application of every row. -/
theorem exists_reviewed (status : OperatorStatus) {op : Operator} (hop : op ∈ operators) :
    ∃ op' ∈ Table.updateMany (OnboardDB.pendingRow id) (OnboardDB.reviewed status t) operators,
      op'.id = op.id ∧ op'.toApplication = op.toApplication := by
  refine ⟨_, Table.mem_updateMany_of_mem hop, ?_, ?_⟩ <;> split <;> rfl

theorem unique_reviewed (h : Table.Unique Operator.clash operators) :
    Table.Unique Operator.clash
      (Table.updateMany (OnboardDB.pendingRow id) (OnboardDB.reviewed status t) operators) :=
  h.updateMany (fun _ _ => rfl) fun _ _ => rfl

end Reviews

theorem User.clash_comm (a b : User) : a.clash b = b.clash a := by
  simp only [User.clash, Bool.beq_comm (a := a.id), Bool.beq_comm (a := a.email)]
  cases ha : a.operatorId <;> cases hb : b.operatorId <;> simp [Bool.beq_comm]

theorem Operator.clash_comm (a b : Operator) : a.clash b = b.clash a := by
  simp only [Operator.clash, Bool.beq_comm (a := a.id), Bool.beq_comm (a := a.email)]

/-! ## The assertions -/

/-- The assertion on the shared state, with `n` calls so far. -/
structure OnboardInv (n : ℕ) (r : OnboardDB) : Prop where
  users : Table.Unique User.clash r.users
  operators : Table.Unique Operator.clash r.operators
  account : ∀ op ∈ r.operators, op.status = .approved → ∃ u ∈ r.users, u.operatorId = some op.id
  linked : ∀ u ∈ r.users, ∀ k, u.operatorId = some k → u.role = .operator ∧
    ∃ op ∈ r.operators, op.id = k ∧ op.status = .approved ∧ u.email = op.email
  reviewed : ∀ op ∈ r.operators, op.reviewedAt ≠ none ↔ op.status ≠ .pending
  locked : ∀ k i, (k, i) ∈ r.locks → i < n ∧ ∃ op ∈ r.operators, op.id = k ∧ op.status = .pending
  owner : ∀ k i j, (k, i) ∈ r.locks → (k, j) ∈ r.locks → i = j
  inserts : ∀ s ∈ r.inserts, s.1 < n ∧ ∀ u ∈ r.users, u.clash s.2 = false
  pairs : ∀ s ∈ r.inserts, ∀ s' ∈ r.inserts, s.1 ≠ s'.1 → s.2.clash s'.2 = false
  approvals : ∀ k i, (k, i) ∈ r.approvals → ∃ op ∈ r.operators, op.id = k ∧ op.status = .approved
  approver : ∀ k i j, (k, i) ∈ r.approvals → (k, j) ∈ r.approvals → i = j
  emitted : ∀ e ∈ r.emitted, e.byCall < n ∧
    ∃ op ∈ r.operators, op.email = e.email ∧ (op.id, e.byCall) ∈ r.approvals
  emitted_once : (r.emitted.map OperatorApproved.email).Nodup

/-- The application that call `i` has read is still there, whatever its status. -/
def Known (id : OperatorId) (op : Operator) (r : OnboardDB) : Prop :=
  op.id = id ∧ ∃ row ∈ r.operators, row.id = id ∧ row.toApplication = op.toApplication

/-- Call `i` has emitted nothing. -/
def Silent (i : ℕ) (r : OnboardDB) : Prop := ∀ e ∈ r.emitted, e.byCall ≠ i

/-- The open transaction of call `i` has inserted the account of the operator. -/
structure Inserted (i : ℕ) (id : OperatorId) (op : Operator) (u : User) (r : OnboardDB) :
    Prop where
  lock : (id, i) ∈ r.locks
  insert : (i, u) ∈ r.inserts
  operatorId : u.operatorId = some id
  role : u.role = .operator
  email : u.email = op.email

/-- The assertion on a call, at each place it can stand at. -/
def Holds (i : ℕ) (l : OnboardCall) (r : OnboardDB) : Prop :=
  match l with
  | .register _ _ | .registerOperator _ _ => ∀ u, (i, u) ∉ r.inserts
  | .decline _ _ => ∀ k, (k, i) ∉ r.locks
  | .approve _ .find => Silent i r
  | .approve id (.checkUser op) | .approve id (.mark op) => Silent i r ∧ Known id op r
  | .approve id (.insert op _) => Silent i r ∧ Known id op r ∧ (id, i) ∈ r.locks
  | .approve id (.commit op _ u) => Silent i r ∧ Known id op r ∧ Inserted i id op u r
  | .approve id (.refetch op _) => Silent i r ∧ Known id op r ∧ (id, i) ∈ r.approvals
  | .approve _ (.done _) => True

theorem lockedByOther_eq_false {r : OnboardDB} {i : ℕ} {id : OperatorId} :
    r.lockedByOther i id = false ↔ ∀ j, (id, j) ∈ r.locks → j = i := by
  rw [OnboardDB.lockedByOther, List.any_eq_false]
  constructor
  · intro h j hj
    simpa using h (id, j) hj
  · rintro h ⟨k, j⟩ hj
    simp only [Bool.and_eq_true, beq_iff_eq, bne_iff_ne, not_and, not_not]
    rintro rfl
    exact h j hj

theorem insertedByOther_eq_false {r : OnboardDB} {i : ℕ} {u : User} :
    r.insertedByOther i u = false ↔ ∀ s ∈ r.inserts, s.1 ≠ i → s.2.clash u = false := by
  rw [OnboardDB.insertedByOther, List.any_eq_false]
  refine forall₂_congr fun s _ => ?_
  rw [Bool.and_eq_true, bne_iff_ne, not_and, Bool.not_eq_true]

/-- An application that has been read is still there while no row loses its own. -/
theorem Known.mono {id : OperatorId} {op : Operator} {r r' : OnboardDB} (hk : Known id op r)
    (h : ∀ op ∈ r.operators, ∃ op' ∈ r'.operators,
      op'.id = op.id ∧ op'.toApplication = op.toApplication) : Known id op r' := by
  obtain ⟨hid, row, hrow, hrowid, happ⟩ := hk
  obtain ⟨row', hrow', hid', happ'⟩ := h row hrow
  exact ⟨hid, row', hrow', hid'.trans hrowid, happ'.trans happ⟩

/-- Whoever is recorded for an id stays the only one, when the one that is added is. -/
theorem owner_cons {id : OperatorId} {i : ℕ} {pairs : List (OperatorId × ℕ)}
    (h : ∀ k j j', (k, j) ∈ pairs → (k, j') ∈ pairs → j = j')
    (honly : ∀ j, (id, j) ∈ pairs → j = i) :
    ∀ k j j', (k, j) ∈ (id, i) :: pairs → (k, j') ∈ (id, i) :: pairs → j = j' := by
  intro k j j' hk hk'
  rcases List.mem_cons.mp hk with heq | hk <;> rcases List.mem_cons.mp hk' with heq' | hk'
  · cases heq
    cases heq'
    rfl
  · cases heq
    exact (honly j' hk').symm
  · cases heq'
    exact honly j hk
  · exact h k j j' hk hk'

section Invariant

variable {n i : ℕ} {l l' : OnboardCall} {r r' : OnboardDB} {x : OnboardInput}

theorem OnboardInv.operator_ext (h : OnboardInv n r) {op op' : Operator} (hop : op ∈ r.operators)
    (hop' : op' ∈ r.operators) (hid : op.id = op'.id) : op = op' :=
  h.operators.eq_of_clash Operator.clash_comm hop hop' (by simp [Operator.clash, hid])

theorem OnboardInv.email_ext (h : OnboardInv n r) {op op' : Operator} (hop : op ∈ r.operators)
    (hop' : op' ∈ r.operators) (hemail : op.email = op'.email) : op = op' :=
  h.operators.eq_of_clash Operator.clash_comm hop hop' (by simp [Operator.clash, hemail])

theorem OnboardInv.empty {users : List User} (hu : Table.Unique User.clash users)
    (hnone : ∀ u ∈ users, u.operatorId = none) : OnboardInv 0 ⟨users, [], [], [], [], []⟩ where
  users := hu
  operators := .nil
  account op hop := absurd hop (by simp)
  linked u hu' k hk := absurd (hnone u hu') (by simp [hk])
  reviewed op hop := absurd hop (by simp)
  locked k i hk := absurd hk (by simp)
  owner k i j hk := absurd hk (by simp)
  inserts s hs := absurd hs (by simp)
  pairs s hs := absurd hs (by simp)
  approvals k i hk := absurd hk (by simp)
  approver k i j hk := absurd hk (by simp)
  emitted e he := absurd he (by simp)
  emitted_once := List.nodup_nil

theorem OnboardInv.succ (h : OnboardInv n r) : OnboardInv (n + 1) r :=
  { h with
    locked := fun k i hk => ⟨Nat.lt_succ_of_lt (h.locked k i hk).1, (h.locked k i hk).2⟩
    inserts := fun s hs => ⟨Nat.lt_succ_of_lt (h.inserts s hs).1, (h.inserts s hs).2⟩
    emitted := fun e he => ⟨Nat.lt_succ_of_lt (h.emitted e he).1, (h.emitted e he).2⟩ }

/-- The end of a transaction only gives up locks and inserts. -/
theorem OnboardInv.close (h : OnboardInv n r) (i : ℕ) : OnboardInv n (r.close i) :=
  { h with
    locked := fun k j hk => h.locked k j (List.mem_filter.mp hk).1
    owner := fun k j j' hk hk' =>
      h.owner k j j' (List.mem_filter.mp hk).1 (List.mem_filter.mp hk').1
    inserts := fun s hs => h.inserts s (List.mem_filter.mp hs).1
    pairs := fun s hs s' hs' =>
      h.pairs s (List.mem_filter.mp hs).1 s' (List.mem_filter.mp hs').1 }

/-- A sign-up adds an account that belongs to no operator. -/
theorem OnboardInv.register (h : OnboardInv n r) {u : User} {users : List User}
    (hnone : u.operatorId = none) (hidle : ∀ v, (i, v) ∉ r.inserts)
    (hwait : r.insertedByOther i u = false)
    (hins : Table.insert User.clash r.users u = some users) :
    OnboardInv n { r with users } := by
  have hunique := h.users.insert hins
  obtain ⟨-, rfl⟩ := Table.insert_eq_some.mp hins
  exact
    { h with
      users := hunique
      account := by
        intro op hop happ
        obtain ⟨v, hv, hlink⟩ := h.account op hop happ
        exact ⟨v, List.mem_append_left _ hv, hlink⟩
      linked := by
        intro v hv k hk
        rcases List.mem_append.mp hv with hv | hv
        · exact h.linked v hv k hk
        · rw [List.mem_singleton.mp hv, hnone] at hk
          exact absurd hk (by simp)
      inserts := by
        intro s hs
        refine ⟨(h.inserts s hs).1, ?_⟩
        intro v hv
        rcases List.mem_append.mp hv with hv | hv
        · exact (h.inserts s hs).2 v hv
        · rw [List.mem_singleton.mp hv, User.clash_comm]
          refine insertedByOther_eq_false.mp hwait s hs ?_
          rintro rfl
          exact hidle s.2 hs }

/-- An application adds a pending row. -/
theorem OnboardInv.apply (h : OnboardInv n r) {op : Operator} {operators : List Operator}
    (hpend : op.status = .pending) (hnone : op.reviewedAt = none)
    (hins : Table.insert Operator.clash r.operators op = some operators) :
    OnboardInv n { r with operators } := by
  have hunique := h.operators.insert hins
  obtain ⟨-, rfl⟩ := Table.insert_eq_some.mp hins
  exact
    { h with
      operators := hunique
      account := by
        intro op' hop happ
        rcases List.mem_append.mp hop with hop | hop
        · exact h.account op' hop happ
        · rw [List.mem_singleton.mp hop, hpend] at happ
          exact absurd happ (by simp)
      linked := by
        intro u hu k hk
        obtain ⟨hrole, op', hop', hrest⟩ := h.linked u hu k hk
        exact ⟨hrole, op', List.mem_append_left _ hop', hrest⟩
      reviewed := by
        intro op' hop
        rcases List.mem_append.mp hop with hop | hop
        · exact h.reviewed op' hop
        · rw [List.mem_singleton.mp hop, hpend, hnone]
          simp
      locked := by
        intro k j hk
        obtain ⟨hlt, op', hop', hrest⟩ := h.locked k j hk
        exact ⟨hlt, op', List.mem_append_left _ hop', hrest⟩
      approvals := by
        intro k j hk
        obtain ⟨op', hop', hrest⟩ := h.approvals k j hk
        exact ⟨op', List.mem_append_left _ hop', hrest⟩
      emitted := by
        intro e he
        obtain ⟨hlt, op', hop', hrest⟩ := h.emitted e he
        exact ⟨hlt, op', List.mem_append_left _ hop', hrest⟩ }

/-- **A review of a row that no transaction holds.** -/
theorem OnboardInv.declined (h : OnboardInv n r) {id : OperatorId} (t : Time)
    (hfree : ∀ j, (id, j) ∉ r.locks) :
    OnboardInv n { r with
      operators := Table.updateMany (OnboardDB.pendingRow id) (OnboardDB.reviewed .declined t)
        r.operators } :=
  { h with
    operators := unique_reviewed h.operators
    account := by
      intro op hop happ
      rcases mem_reviewed hop with ⟨op₀, -, -, -, rfl⟩ | ⟨hop, -⟩
      · exact absurd happ (by simp [OnboardDB.reviewed])
      · exact h.account op hop happ
    linked := by
      intro u hu k hk
      obtain ⟨hrole, op, hop, hid, happ, hemail⟩ := h.linked u hu k hk
      exact ⟨hrole, op, mem_reviewed_of_approved hop happ, hid, happ, hemail⟩
    reviewed := reviewed_stamped (by simp) h.reviewed
    locked := by
      intro k j hk
      obtain ⟨hlt, op, hop, hid, hpend⟩ := h.locked k j hk
      refine ⟨hlt, op, mem_reviewed_of_not hop ?_, hid, hpend⟩
      rintro ⟨hid', -⟩
      rw [← hid, hid'] at hk
      exact hfree j hk
    approvals := by
      intro k j hk
      obtain ⟨op, hop, hid, happ⟩ := h.approvals k j hk
      exact ⟨op, mem_reviewed_of_approved hop happ, hid, happ⟩
    emitted := by
      intro e he
      obtain ⟨hlt, op, hop, hemail, happ⟩ := h.emitted e he
      obtain ⟨op', hop', hid', happ'⟩ := exists_reviewed .declined hop
      exact ⟨hlt, op', hop', by rw [happ', hemail], by rw [hid']; exact happ⟩ }

/-- **A commit approves the operator and brings its account.** -/
theorem OnboardInv.approved (h : OnboardInv n r) {id : OperatorId} {op : Operator} {u : User}
    (hknown : Known id op r) (hown : Inserted i id op u r) (t : Time) :
    OnboardInv n (r.approved i id u t) := by
  obtain ⟨-, op₀, hop₀, hid₀, hpend₀⟩ := h.locked id i hown.lock
  have hemail₀ : u.email = op₀.email := by
    obtain ⟨-, row, hrow, hid, happ⟩ := hknown
    obtain rfl := h.operator_ext hrow hop₀ (hid.trans hid₀.symm)
    rw [hown.email, happ]
  have hnew : OnboardDB.reviewed .approved t op₀ ∈ _ := reviewed_mem hop₀ hid₀ hpend₀
  -- no call has approved the row before, since it is pending
  have hfirst : ∀ j, (id, j) ∉ r.approvals := by
    intro j hj
    obtain ⟨op', hop', hid', happ'⟩ := h.approvals id j hj
    obtain rfl := h.operator_ext hop' hop₀ (hid'.trans hid₀.symm)
    rw [hpend₀] at happ'
    exact absurd happ' (by simp)
  exact
    { users := by
        refine List.pairwise_append.mpr ⟨h.users, List.pairwise_singleton _ _, ?_⟩
        intro v hv w hw
        rw [List.mem_singleton.mp hw]
        exact (h.inserts (i, u) hown.insert).2 v hv
      operators := unique_reviewed h.operators
      account := by
        intro op' hop' happ
        rcases mem_reviewed hop' with ⟨op₁, -, hid, -, rfl⟩ | ⟨hop', -⟩
        · refine ⟨u, List.mem_append_right _ (List.mem_singleton.mpr rfl), ?_⟩
          rw [hown.operatorId]
          exact congrArg some hid.symm
        · obtain ⟨v, hv, hlink⟩ := h.account op' hop' happ
          exact ⟨v, List.mem_append_left _ hv, hlink⟩
      linked := by
        intro v hv k hk
        rcases List.mem_append.mp hv with hv | hv
        · obtain ⟨hrole, op', hop', hid, happ, hemail⟩ := h.linked v hv k hk
          exact ⟨hrole, op', mem_reviewed_of_approved hop' happ, hid, happ, hemail⟩
        · obtain rfl := List.mem_singleton.mp hv
          rw [hown.operatorId, Option.some.injEq] at hk
          exact ⟨hown.role, _, hnew, hid₀.trans hk, rfl, hemail₀⟩
      reviewed := reviewed_stamped (by simp) h.reviewed
      locked := by
        intro k j hk
        obtain ⟨hk, hne⟩ := List.mem_filter.mp hk
        obtain ⟨hlt, op', hop', hid, hpend⟩ := h.locked k j hk
        refine ⟨hlt, op', mem_reviewed_of_not hop' ?_, hid, hpend⟩
        rintro ⟨hid', -⟩
        rw [← hid, hid'] at hk
        exact absurd (h.owner id j i hk hown.lock) (by simpa using hne)
      owner := fun k j j' hk hk' =>
        h.owner k j j' (List.mem_filter.mp hk).1 (List.mem_filter.mp hk').1
      inserts := by
        intro s hs
        obtain ⟨hs, hne⟩ := List.mem_filter.mp hs
        refine ⟨(h.inserts s hs).1, ?_⟩
        intro v hv
        rcases List.mem_append.mp hv with hv | hv
        · exact (h.inserts s hs).2 v hv
        · rw [List.mem_singleton.mp hv]
          exact h.pairs (i, u) hown.insert s hs (Ne.symm (by simpa using hne))
      pairs := fun s hs s' hs' =>
        h.pairs s (List.mem_filter.mp hs).1 s' (List.mem_filter.mp hs').1
      approvals := by
        intro k j hk
        rcases List.mem_cons.mp hk with heq | hk
        · cases heq
          exact ⟨_, hnew, hid₀, rfl⟩
        · obtain ⟨op', hop', hid, happ⟩ := h.approvals k j hk
          exact ⟨op', mem_reviewed_of_approved hop' happ, hid, happ⟩
      approver := owner_cons h.approver fun j hj => absurd hj (hfirst j)
      emitted := by
        intro e he
        obtain ⟨hlt, op', hop', hemail, happ⟩ := h.emitted e he
        obtain ⟨op'', hop'', hid', happ'⟩ := exists_reviewed .approved hop'
        refine ⟨hlt, op'', hop'', by rw [happ', hemail], ?_⟩
        rw [hid']
        exact List.mem_cons_of_mem _ happ
      emitted_once := h.emitted_once }

/-- An emission by the call that approved the operator, its first. -/
theorem OnboardInv.emit (h : OnboardInv n r) (hi : i < n) {id : OperatorId} {op : Operator}
    (hsilent : Silent i r) (hknown : Known id op r) (happ : (id, i) ∈ r.approvals)
    {e : OperatorApproved} (hcall : e.byCall = i) (hemail : e.email = op.email) :
    OnboardInv n { r with emitted := e :: r.emitted } := by
  obtain ⟨-, row, hrow, hid, hrowapp⟩ := hknown
  have hrowemail : row.email = e.email := by rw [hemail, hrowapp]
  refine { h with emitted := ?_, emitted_once := List.nodup_cons.mpr ⟨?_, h.emitted_once⟩ }
  · intro e' he'
    rcases List.mem_cons.mp he' with rfl | he'
    · exact ⟨by rw [hcall]; exact hi, row, hrow, hrowemail, by rw [hid, hcall]; exact happ⟩
    · exact h.emitted e' he'
  · -- an earlier emission for the operator would be by the same call
    intro hmem
    obtain ⟨e', he', hsame⟩ := List.mem_map.mp hmem
    obtain ⟨-, op', hop', hemail', happ'⟩ := h.emitted e' he'
    obtain rfl := h.email_ext hop' hrow (by rw [hemail', hrowemail, hsame])
    rw [hid] at happ'
    exact hsilent e' he' (h.approver id _ _ happ' happ)

/-- **A step keeps the assertion on the shared state.** -/
theorem OnboardInv.effect (h : OnboardInv n r) (hi : i < n) (hl : Holds i l r)
    (he : OnboardEffect i l r r') : OnboardInv n r' := by
  cases he with
  | none => exact h
  | register input x users hpc hwait hins =>
    rw [hpc] at hl
    exact h.register rfl hl hwait hins
  | apply input id operators hins => exact h.apply rfl rfl hins
  | lock id op₀ hpc hfree hany =>
    obtain ⟨op, hop, hp⟩ := List.any_eq_true.mp hany
    obtain ⟨hid, hpend⟩ := pendingRow_iff.mp hp
    have hfree := lockedByOther_eq_false.mp hfree
    refine { h with locked := ?_, owner := owner_cons h.owner hfree }
    intro k j hk
    rcases List.mem_cons.mp hk with heq | hk
    · cases heq
      exact ⟨hi, op, hop, hid, hpend⟩
    · exact h.locked k j hk
  | insert id op t u users hpc hwait hins =>
    obtain ⟨hnew, -⟩ := Table.insert_eq_some.mp hins
    have hwait := insertedByOther_eq_false.mp hwait
    refine { h with inserts := ?_, pairs := ?_ }
    · intro s hs
      rcases List.mem_cons.mp hs with rfl | hs
      · exact ⟨hi, hnew⟩
      · exact h.inserts s hs
    · intro s hs s' hs' hne
      rcases List.mem_cons.mp hs with rfl | hs <;> rcases List.mem_cons.mp hs' with rfl | hs'
      · exact absurd rfl hne
      · rw [User.clash_comm]
        exact hwait s' hs' (Ne.symm hne)
      · exact hwait s hs hne
      · exact h.pairs s hs s' hs' hne
  | close => exact h.close i
  | approved id op u t hpc =>
    rw [hpc] at hl
    exact h.approved hl.2.1 hl.2.2 t
  | declined id t hpc hfree =>
    rw [hpc] at hl
    refine h.declined t ?_
    intro j hj
    rw [lockedByOther_eq_false.mp hfree j hj] at hj
    exact hl id hj
  | emit id op tempPassword hpc =>
    rw [hpc] at hl
    exact h.emit hi hl.1 hl.2.1 hl.2.2 rfl rfl

end Invariant

/-! ## Relying on others -/

/-- What call `j` may count on while the shared state goes from `r` to `r'`. -/
structure Rely (j : ℕ) (r r' : OnboardDB) : Prop where
  known : ∀ op ∈ r.operators, ∃ op' ∈ r'.operators,
    op'.id = op.id ∧ op'.toApplication = op.toApplication
  locks : ∀ k, (k, j) ∈ r'.locks ↔ (k, j) ∈ r.locks
  inserts : ∀ u, (j, u) ∈ r'.inserts ↔ (j, u) ∈ r.inserts
  approvals : ∀ k, (k, j) ∈ r.approvals → (k, j) ∈ r'.approvals
  emitted : ∀ e ∈ r'.emitted, e ∈ r.emitted ∨ e.byCall ≠ j

namespace Rely

variable {i j n : ℕ} {l l' : OnboardCall} {r r' : OnboardDB}

theorem refl (j : ℕ) (r : OnboardDB) : Rely j r r where
  known op hop := ⟨op, hop, rfl, rfl⟩
  locks _ := Iff.rfl
  inserts _ := Iff.rfl
  approvals _ h := h
  emitted _ h := Or.inl h

theorem silent (h : Rely j r r') (hs : Silent j r) : Silent j r' := fun e he =>
  (h.emitted e he).elim (hs e) id

/-- **What a call asserts survives the moves of the others.** -/
theorem holds (h : Rely j r r') (hl : Holds j l r) : Holds j l r' := by
  unfold Holds at hl ⊢
  split at hl
  · exact fun u hu => hl u ((h.inserts u).mp hu)
  · exact fun u hu => hl u ((h.inserts u).mp hu)
  · exact fun k hk => hl k ((h.locks k).mp hk)
  · exact h.silent hl
  · exact ⟨h.silent hl.1, hl.2.mono h.known⟩
  · exact ⟨h.silent hl.1, hl.2.mono h.known⟩
  · exact ⟨h.silent hl.1, hl.2.1.mono h.known, (h.locks _).mpr hl.2.2⟩
  · obtain ⟨hs, hk, hown⟩ := hl
    exact ⟨h.silent hs, hk.mono h.known,
      { hown with
        lock := (h.locks _).mpr hown.lock
        insert := (h.inserts _).mpr hown.insert }⟩
  · exact ⟨h.silent hl.1, hl.2.1.mono h.known, h.approvals _ hl.2.2⟩
  · trivial

theorem of_close (hne : j ≠ i) (r : OnboardDB) : Rely j r (r.close i) :=
  { refl j r with
    locks := fun k => by simp [OnboardDB.close, hne]
    inserts := fun u => by simp [OnboardDB.close, hne] }

/-- **The other calls may rely on a step.** -/
theorem of_effect (hne : j ≠ i) (he : OnboardEffect i l r r') : Rely j r r' := by
  cases he with
  | none => exact refl j r
  | register => exact { refl j r with }
  | apply input id operators hins =>
    obtain ⟨-, rfl⟩ := Table.insert_eq_some.mp hins
    exact { refl j r with known := fun op hop => ⟨op, List.mem_append_left _ hop, rfl, rfl⟩ }
  | lock => exact { refl j r with locks := fun k => by simp [hne] }
  | insert => exact { refl j r with inserts := fun u => by simp [hne] }
  | close => exact of_close hne r
  | approved id op u t =>
    exact
      { of_close hne r with
        known := fun op hop => exists_reviewed _ hop
        approvals := fun k hk => List.mem_cons_of_mem _ hk }
  | declined => exact { refl j r with known := fun op hop => exists_reviewed _ hop }
  | emit =>
    refine { refl j r with emitted := ?_ }
    intro e he
    rcases List.mem_cons.mp he with rfl | he
    · exact Or.inr (Ne.symm hne)
    · exact Or.inl he

end Rely

/-! ## Steps, seen by the call itself -/

section Own

variable {n i : ℕ} {l l' : OnboardCall} {r r' : OnboardDB} {x : OnboardInput}

/-- What the pre-check of `approve` lets through. -/
theorem known_of_checkPending {id : OperatorId} {op : Operator}
    (h : checkPending (r.findById id) = .ok op) : Known id op r := by
  obtain ⟨op', hfind, h⟩ := bind_eq_ok.mp h
  obtain ⟨_, -, h⟩ := bind_eq_ok.mp h
  cases h
  have hfind := orThrow_eq_ok.mp hfind
  have hid : op.id = id := by simpa using List.find?_some hfind
  exact ⟨hid, op, List.mem_of_find?_eq_some hfind, hid, rfl⟩

/-- Only `approve` inserts what is not committed. -/
theorem effect_inserts (he : OnboardEffect i l r r') (hl : ∀ id pc, l ≠ .approve id pc)
    (h : ∀ u, (i, u) ∉ r.inserts) (u : User) : (i, u) ∉ r'.inserts := by
  cases he with
  | none => exact h u
  | register => exact h u
  | apply => exact h u
  | lock => exact h u
  | insert id op t v users hpc => exact absurd hpc (hl _ _)
  | close => exact fun hu => h u (List.mem_filter.mp hu).1
  | approved id op v t hpc => exact absurd hpc (hl _ _)
  | declined => exact h u
  | emit => exact h u

/-- Only `approve` keeps a lock. -/
theorem effect_locks (he : OnboardEffect i l r r') (hl : ∀ id pc, l ≠ .approve id pc)
    (h : ∀ k, (k, i) ∉ r.locks) (k : OperatorId) : (k, i) ∉ r'.locks := by
  cases he with
  | none => exact h k
  | register => exact h k
  | apply => exact h k
  | lock id op hpc => exact absurd hpc (hl _ _)
  | insert => exact h k
  | close => exact fun hk => h k (List.mem_filter.mp hk).1
  | approved id op v t hpc => exact absurd hpc (hl _ _)
  | declined => exact h k
  | emit => exact h k

/-- A step of `approve`. -/
theorem approve_holds {id : OperatorId} {pc pc' : ApprovePc} (hl : Holds i (.approve id pc) r)
    (hs : OnboardCall.stepApprove i id pc r x = some (pc', r')) :
    Holds i (.approve id pc') r' := by
  unfold OnboardCall.stepApprove at hs
  cases pc with
  | done o => exact absurd hs (by simp)
  | find =>
    dsimp only at hs
    split at hs
    · cases hs
      trivial
    · split at hs <;> cases hs
      · trivial
      · next hok => exact ⟨hl, known_of_checkPending hok⟩
  | checkUser op =>
    dsimp only at hs
    split at hs
    · cases hs
      trivial
    · split at hs <;> cases hs
      · trivial
      · exact hl
  | mark op =>
    dsimp only at hs
    split at hs
    · cases hs
      trivial
    · split at hs
      · exact absurd hs (by simp)
      · split at hs <;> cases hs
        · exact ⟨hl.1, hl.2, List.mem_cons_self⟩
        · trivial
  | insert op t =>
    dsimp only at hs
    split at hs
    · cases hs
      trivial
    · split at hs
      · cases hs
        trivial
      · split at hs
        · exact absurd hs (by simp)
        · split at hs <;> cases hs
          · trivial
          · refine ⟨hl.1, hl.2.1, ?_⟩
            exact
              { lock := hl.2.2
                insert := List.mem_cons_self
                operatorId := congrArg some hl.2.1.1
                role := rfl
                email := rfl }
  | commit op t u =>
    dsimp only at hs
    split at hs <;> cases hs
    · trivial
    · refine ⟨hl.1, ?_, List.mem_cons_self⟩
      exact hl.2.1.mono fun row hrow => exists_reviewed _ hrow
  | refetch op tempPassword =>
    dsimp only at hs
    split at hs <;> cases hs <;> trivial

/-- **A step keeps the assertion on its own call.** -/
theorem onboard_holds (hl : Holds i l r) (hs : OnboardCall.step i l r x = some (l', r')) :
    Holds i l' r' := by
  have heff := onboard_effect hs
  cases l with
  | register input pc =>
    obtain ⟨p, -, heq⟩ := Option.map_eq_some_iff.mp hs
    cases heq
    exact effect_inserts heff (by simp) hl
  | registerOperator input pc =>
    obtain ⟨p, -, heq⟩ := Option.map_eq_some_iff.mp hs
    cases heq
    exact effect_inserts heff (by simp) hl
  | approve id pc =>
    obtain ⟨p, hpc, heq⟩ := Option.map_eq_some_iff.mp hs
    cases heq
    exact approve_holds hl hpc
  | decline id pc =>
    obtain ⟨p, -, heq⟩ := Option.map_eq_some_iff.mp hs
    cases heq
    exact effect_locks heff (by simp) hl

/-- A new call has touched nothing. -/
theorem onboard_start (h : OnboardInv n r) (o : OnboardOp) :
    Holds n (onboardMachine.start o) r := by
  cases o with
  | register input => exact fun u hu => absurd (h.inserts _ hu).1 (by simp)
  | registerOperator input => exact fun u hu => absurd (h.inserts _ hu).1 (by simp)
  | approve id => exact fun e he heq => absurd (h.emitted e he).1 (by omega)
  | decline id => exact fun k hk => absurd (h.locked k _ hk).1 (by simp)

end Own

/-- **The proof outline of the onboarding.** -/
theorem onboardOutline : onboardMachine.Outline (fun _ => True)
    (fun r => ∃ users, Table.Unique User.clash users ∧ (∀ u ∈ users, u.operatorId = none) ∧
      r = ⟨users, [], [], [], [], []⟩)
    OnboardInv Holds where
  init := by
    rintro r ⟨users, hu, hnone, rfl⟩
    exact .empty hu hnone
  spawn n o r _ h := h.succ
  start n o r _ h := onboard_start h o
  shared n i x l r l' r' _ hi h hl hs := h.effect hi hl (onboard_effect hs)
  self n i x l r l' r' _ _ _ hl hs := onboard_holds hl hs
  other n i x l r l' r' j m _ _ hne _ _ hm hs :=
    (Rely.of_effect hne (onboard_effect hs)).holds hm
  env_shared n e := e.elim
  env_other n e := e.elim

theorem onboarding_inv {c : Config OnboardDB OnboardCall} (h : onboarding.Reachable c) :
    OnboardInv c.procs.length c.shared :=
  (onboardOutline.invariant h.by_any).1

/-! ## Every run -/

/-- A step leaves every reviewed row as it is. -/
theorem reviewed_stays {i : ℕ} {l : OnboardCall} {r r' : OnboardDB}
    (he : OnboardEffect i l r r') {op : Operator} (hop : op ∈ r.operators)
    (hne : op.status ≠ .pending) : op ∈ r'.operators := by
  cases he with
  | none => exact hop
  | register => exact hop
  | apply input id operators hins =>
    obtain ⟨-, rfl⟩ := Table.insert_eq_some.mp hins
    exact List.mem_append_left _ hop
  | lock => exact hop
  | insert => exact hop
  | close => exact hop
  | approved => exact mem_reviewed_of_not hop fun h => hne h.2
  | declined => exact mem_reviewed_of_not hop fun h => hne h.2
  | emit => exact hop

/-- The accounts of an operator. -/
def accountsOf (op : Operator) (users : List User) : List User :=
  users.filter fun u => u.operatorId == some op.id

theorem mem_accountsOf {op : Operator} {users : List User} {u : User} :
    u ∈ accountsOf op users ↔ u ∈ users ∧ u.operatorId = some op.id := by
  rw [accountsOf, List.mem_filter, beq_iff_eq]

/-- An approved operator has one account, its own. -/
theorem OnboardInv.accountsOf_approved {n : ℕ} {r : OnboardDB} (h : OnboardInv n r) {op : Operator}
    (hop : op ∈ r.operators) (happ : op.status = .approved) :
    ∃ u, accountsOf op r.users = [u] ∧ u.role = .operator ∧ u.email = op.email := by
  obtain ⟨u, hu, hlink⟩ := h.account op hop happ
  obtain ⟨hrole, op', hop', hid, -, hemail⟩ := h.linked u hu op.id hlink
  obtain rfl := h.operator_ext hop' hop hid
  have hlen : (accountsOf op' r.users).length ≤ 1 := by
    rw [accountsOf, ← List.countP_eq_length_filter]
    refine h.users.countP_le_one ?_
    intro a b ha hb
    rw [beq_iff_eq] at ha hb
    simp [User.clash, ha, hb]
  have hmem : u ∈ accountsOf op' r.users := mem_accountsOf.mpr ⟨hu, hlink⟩
  refine ⟨u, ?_, hrole, hemail⟩
  match hlist : accountsOf op' r.users with
  | [] =>
    rw [hlist] at hmem
    exact absurd hmem (by simp)
  | [v] =>
    rw [hlist] at hmem
    rw [List.mem_singleton.mp hmem]
  | a :: b :: rest =>
    rw [hlist] at hlen
    exact absurd hlen (by simp)

/-- Any other operator has none. -/
theorem OnboardInv.accountsOf_other {n : ℕ} {r : OnboardDB} (h : OnboardInv n r) {op : Operator}
    (hop : op ∈ r.operators) (hne : op.status ≠ .approved) : accountsOf op r.users = [] := by
  rw [List.eq_nil_iff_forall_not_mem]
  intro u hmem
  obtain ⟨hu, hlink⟩ := mem_accountsOf.mp hmem
  obtain ⟨-, op', hop', hid, happ, -⟩ := h.linked u hu op.id hlink
  obtain rfl := h.operator_ext hop' hop hid
  exact hne happ

/-- **An operator and its account come together.**  In every state that sign-ups,
applications, approvals and declines reach, whatever is aborted: an operator is approved
exactly when one account refers to it, an operator account with the email of the application;
no account refers to any other operator; a row has been stamped exactly when it is not
pending, and keeps its status from then on; and `operator.approved` is emitted at most once
for an operator, and only for an approved one. -/
theorem operator_onboarding {c : Config OnboardDB OnboardCall} (h : onboarding.Reachable c) :
    (∀ op ∈ c.shared.operators,
      (op.status = .approved ↔ ∃ u, accountsOf op c.shared.users = [u] ∧ u.role = .operator ∧
        u.email = op.email) ∧
      (op.status ≠ .approved → accountsOf op c.shared.users = []) ∧
      (op.reviewedAt ≠ none ↔ op.status ≠ .pending) ∧
      (op.status ≠ .pending → ∀ c', onboarding.Leads c c' → op ∈ c'.shared.operators) ∧
      c.shared.emitted.countP (fun e => e.email == op.email) ≤ 1) ∧
    (∀ e ∈ c.shared.emitted, ∃ op ∈ c.shared.operators, op.email = e.email ∧
      op.status = .approved) := by
  have hinv := onboarding_inv h
  refine ⟨?_, ?_⟩
  · intro op hop
    refine ⟨⟨hinv.accountsOf_approved hop, ?_⟩, hinv.accountsOf_other hop, hinv.reviewed op hop,
      ?_, ?_⟩
    · rintro ⟨u, hu, -, -⟩
      by_contra hne
      rw [hinv.accountsOf_other hop hne] at hu
      exact absurd hu (by simp)
    · intro hne c' hl
      refine hl.stable (P := fun m => op ∈ m.shared.operators) h ?_ hop
      intro m a m' _ hm hs
      rcases Machine.next_cases hs with ⟨o, rfl, rfl⟩ | ⟨i, x, l, l', r', rfl, hi, hown, rfl⟩ |
        ⟨e, -, -, -, -⟩
      · exact hm
      · exact reviewed_stays (onboard_effect hown) hm hne
      · exact e.elim
    · have hcount : c.shared.emitted.countP (fun e => e.email == op.email)
          = (c.shared.emitted.map OperatorApproved.email).count op.email := by
        rw [List.count, List.countP_map]
        rfl
      rw [hcount]
      exact List.nodup_iff_count_le_one.mp hinv.emitted_once op.email
  · intro e he
    obtain ⟨-, op, hop, hemail, happ⟩ := hinv.emitted e he
    obtain ⟨op', hop', hid, hstatus⟩ := hinv.approvals _ _ happ
    obtain rfl := hinv.operator_ext hop' hop hid
    exact ⟨op', hop, hemail, hstatus⟩

/-! ## One run -/

/-- A transport company applies. -/
def swift : Application where
  companyName := "Swift"
  contactName := "Bola"
  email := "bola@swift.example"
  phone := "08031111111"

/-- A passenger signs up with the email of the application. -/
def passenger : RegisterInput := ⟨"Bola", "bola@swift.example", "08031111111", "Passw0rd"⟩

/-- A step of a call in which nothing fails. -/
def granting (uuid : ℕ) : OnboardInput := ⟨false, 1000, uuid, "temp", 0⟩

/-- Two admins approve the application and a third declines it.  The transaction of the first
is aborted, the second commits, and the passenger is refused. -/
def approvalRun : List (Act OnboardOp OnboardInput Empty) :=
  [.spawn (.registerOperator swift), .run 0 (granting 1), .run 0 (granting 1),
    .spawn (.approve 1), .spawn (.approve 1), .spawn (.decline 1), .spawn (.register passenger),
    .run 1 (granting 0), .run 2 (granting 0), .run 3 (granting 0), .run 4 (granting 0),
    .run 1 (granting 0), .run 2 (granting 0), .run 1 (granting 0), .run 1 (granting 20),
    .run 1 ⟨true, 1000, 0, "temp", 0⟩, .run 2 (granting 0), .run 2 (granting 21),
    .run 2 (granting 0), .run 4 (granting 22), .run 3 (granting 0), .run 2 (granting 0)]

/-- Empty tables and no call. -/
def onboardStart : Config OnboardDB OnboardCall := ⟨⟨[], [], [], [], [], []⟩, []⟩

theorem approvalRun_runs : (onboarding.run onboardStart approvalRun).isSome = true := by
  decide +kernel

def approvalEnd : Config OnboardDB OnboardCall :=
  (onboarding.run onboardStart approvalRun).get approvalRun_runs

theorem approvalEnd_reachable : onboarding.Reachable approvalEnd :=
  ⟨onboardStart, ⟨⟨[], .nil, fun _ hu => absurd hu (by simp), rfl⟩, rfl⟩, approvalRun,
    (Option.some_get _).symm⟩

theorem operator_onboarding_approval :
    approvalEnd.shared.operators.map (fun op => (op.status, op.reviewedAt))
        = [(.approved, some 1000)] ∧
      approvalEnd.shared.users.map (fun u => (u.id, u.role, u.operatorId))
        = [(21, .operator, some 1)] ∧
      approvalEnd.procs[3]? =
        some (.decline 1 (.done (conflict "Application is no longer pending"))) ∧
      ∀ e ∈ approvalEnd.shared.emitted, ∃ op ∈ approvalEnd.shared.operators,
        op.email = e.email ∧ op.status = .approved :=
  ⟨by decide +kernel, by decide +kernel, by decide +kernel,
    (operator_onboarding approvalEnd_reachable).2⟩

end Accounts
end TransHub
