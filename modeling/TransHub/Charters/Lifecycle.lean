import TransHub.Charters.Payment
import TransHub.Foundation.Lifecycle

/-!
# The lifecycle of a charter

Every operation but `confirmPayment` checks the status of a row it has read and then
writes the row by its id, so another operation may step in between.

* `CharterInTime`: the writes of a run come in time.
* `CharterFlow`: the stored statuses follow the documented flow.
* `charter_flow_iff`: the two are the same.
* `cancel_overwrites_payment`: a run in which they fail.
-/

namespace TransHub

variable {charterId : CharterId} {c c' : Config CharterDB CharterProc}

/-- The stored status. -/
def charterStatus (c : Config CharterDB CharterProc) : Option CharterStatus :=
  c.shared.row.map Charter.status

/-- What a step may make of it. -/
def CharterMoves (c c' : Config CharterDB CharterProc) : Prop :=
  Moves (fun s t => t ∈ s.next) .pending (charterStatus c) (charterStatus c')

/-- **The stored statuses follow the flow.**  Consecutive statuses are joined by an edge;
a charter that is cancelled or completed stays so; and a paid charter is confirmed or
completed. -/
structure CharterFlow (charterId : CharterId) (c : Config CharterDB CharterProc)
    (acts : List (Act CharterOp CharterInput CharterRequest)) : Prop where
  path : ((charters charterId).trace c acts).IsChain CharterMoves
  terminal : ∀ l₁ l₂ m m' s, acts = l₁ ++ l₂ → (charters charterId).run c l₁ = some m →
    (charters charterId).run m l₂ = some m' → charterStatus m = some s →
    s = .cancelled ∨ s = .completed → charterStatus m' = some s
  paid : ∀ m ∈ (charters charterId).trace c acts, ∀ row, m.shared.row = some row →
    row.paidAt ≠ none → row.status = .confirmed ∨ row.status = .completed

/-- When an operation writes a status by id, the stored one is still the status that it
has read, or is already the one it writes, or it cancels a charter that can still be
cancelled. -/
def CharterInTime (c : Config CharterDB CharterProc)
    (a : Act CharterOp CharterInput CharterRequest) : Prop :=
  ∀ (i : ℕ) (x : CharterInput) (l : CharterProc) (w : CharterWrite) (charter row : Charter)
    (t : CharterStatus), a = .run i x → x.fault = false → c.procs[i]? = some l →
    l.pc = .write w charter → c.shared.row = some row → w.target = some t →
    row.status = charter.status ∨ row.status = t ∨
      (t = .cancelled ∧ row.status ∈ CharterStatus.cancellable)

namespace CharterStatus

/-- Only cancelled charters come from several statuses. -/
theorem next_unique : ∀ s s' t : CharterStatus, t ∈ s.next → t ∈ s'.next →
    s = s' ∨ t = .cancelled := by
  decide

theorem cancelled_mem_next : ∀ s : CharterStatus, cancelled ∈ s.next ↔ s ∈ cancellable := by
  decide

end CharterStatus

namespace CharterWrite

/-- An operation writes along an edge from each status that it accepts. -/
theorem target_mem_next {w : CharterWrite} {s t : CharterStatus} (h : w.target = some t)
    (hs : s ∈ w.accepts) : t ∈ s.next := by
  cases w with
  | adminConfirmBooking data => exact absurd h (by simp [target])
  | cancelCharter requestingUserId role =>
    cases h
    exact (CharterStatus.cancelled_mem_next s).mpr hs
  | _ =>
    cases h
    rw [List.mem_singleton.mp hs]
    simp [CharterStatus.next]

/-- **A write in time is a write along an edge.** -/
theorem in_time_iff {w : CharterWrite} {t : CharterStatus} (h : w.target = some t)
    {s stored : CharterStatus} (hs : s ∈ w.accepts) :
    (stored = s ∨ stored = t ∨ (t = .cancelled ∧ stored ∈ CharterStatus.cancellable)) ↔
      (t = stored ∨ t ∈ stored.next) := by
  rw [← CharterStatus.cancelled_mem_next]
  exact late_write_iff CharterStatus.next_unique (target_mem_next h hs)

end CharterWrite

/-- The step of a write by id. -/
theorem CharterProc.step_write {i : ℕ} {l : CharterProc} {r : CharterDB} {x : CharterInput}
    {w : CharterWrite} {charter row : Charter} (hpc : l.pc = .write w charter)
    (hfault : x.fault = false) (hrow : r.row = some row) :
    CharterProc.step charterId i l r x = some (l.finish (.returned (w.write x.now row)),
      { r with
        row := some (w.write x.now row)
        emitted := r.emitted ++ w.events (w.write x.now row) }) := by
  rw [CharterProc.step, hpc]
  dsimp only
  rw [hfault, hrow]
  rfl

/-- What a step other than a write by id makes of the status. -/
theorem CharterEffect.moves {i : ℕ} {l l' : CharterProc} {r r' : CharterDB} {x : CharterInput}
    (he : CharterEffect charterId i l r x l' r') :
    Moves (fun s t => t ∈ s.next) .pending (r.row.map Charter.status) (r'.row.map Charter.status) ∨
    ∃ w charter row, l.pc = .write w charter ∧ x.fault = false ∧ r.row = some row ∧
      r'.row = some (w.write x.now row) := by
  cases he with
  | idle => exact Or.inl (.refl _ _ _)
  | check => exact Or.inl (.refl _ _ _)
  | ask => exact Or.inl (.refl _ _ _)
  | arrive => exact Or.inl (.refl _ _ _)
  | agree => exact Or.inl (.refl _ _ _)
  | write w charter c hpc hfault hrow => exact Or.inr ⟨w, charter, c, hpc, hfault, hrow, rfl⟩
  | setPaymentRef reference c hpc hrow =>
    rw [hrow]
    exact Or.inl (.refl _ _ _)
  | confirm d charter price caller c hpc hrow hpaid hst =>
    rw [hrow, Option.map_some, hst]
    exact Or.inl (Or.inr (by simp [CharterStatus.next]))
  | notify => exact Or.inl (.refl _ _ _)

/-- **The steps in time are those that follow the flow.** -/
theorem charter_in_time_iff (h : (charters charterId).Reachable c)
    (a : Act CharterOp CharterInput CharterRequest) :
    CharterInTime c a ↔ ∀ c', (charters charterId).step c a = some c' → CharterMoves c c' := by
  obtain ⟨-, -, hall⟩ := charter_asserts h
  have haccepts : ∀ (i : ℕ) (l : CharterProc) w charter, c.procs[i]? = some l →
      l.pc = .write w charter → charter.status ∈ w.accepts := by
    intro i l w charter hi hpc
    have hat := (hall i l hi).at_pc
    rw [CharterProc.At, hpc] at hat
    exact hat.1
  constructor
  · intro htime c' hs
    rcases Machine.next_cases hs with ⟨o, -, rfl⟩ | ⟨i, x, l, l', r', rfl, hi, hstep, rfl⟩ |
      ⟨data, r', -, henv, rfl⟩
    · exact .refl _ _ _
    · rcases (CharterProc.step_effect hstep).moves with hmove |
        ⟨w, charter, row, hpc, hfault, hrow, hrow'⟩
      · exact hmove
      · rw [CharterMoves, charterStatus, charterStatus, hrow, hrow', Option.map_some,
          Option.map_some, CharterWrite.write_status]
        cases ht : w.target with
        | none => exact .refl _ _ _
        | some t =>
          exact (CharterWrite.in_time_iff ht (haccepts i l w charter hi hpc)).mp
            (htime i x l w charter row t rfl hfault hi hpc hrow ht)
    · obtain ⟨hrow, rfl⟩ := charter_env henv
      rw [CharterMoves, charterStatus, hrow]
      rfl
  · rintro hmove i x l w charter row t rfl hfault hi hpc hrow ht
    have hs := hmove _ (Machine.next_run.mpr
      ⟨l, _, _, hi, CharterProc.step_write hpc hfault hrow, rfl⟩)
    rw [CharterMoves, charterStatus, charterStatus, hrow, Option.map_some, Option.map_some,
      CharterWrite.write_status, ht] at hs
    exact (CharterWrite.in_time_iff ht (haccepts i l w charter hi hpc)).mpr hs

/-! ## Paid charters -/

/-- The charter has been paid. -/
def CharterIsPaid (c : Config CharterDB CharterProc) : Prop :=
  ∃ row, c.shared.row = some row ∧ row.paidAt ≠ none

/-- No edge leaves the statuses of a paid charter. -/
theorem next_settled {s t : CharterStatus} (ht : t ∈ s.next)
    (hs : s = .confirmed ∨ s = .completed) : t = .confirmed ∨ t = .completed := by
  rcases hs with rfl | rfl
  · exact Or.inr (List.mem_singleton.mp ht)
  · exact absurd ht List.not_mem_nil

/-- A charter becomes paid when it is confirmed. -/
theorem charterIsPaid_step {a : Act CharterOp CharterInput CharterRequest}
    (hs : (charters charterId).step c a = some c') (hpaid : CharterIsPaid c') :
    CharterIsPaid c ∨ ∃ s, charterStatus c' = some s ∧ (s = .confirmed ∨ s = .completed) := by
  obtain ⟨row', hrow', hpaid⟩ := hpaid
  rcases Machine.next_cases hs with ⟨o, -, rfl⟩ | ⟨i, x, l, l', r', -, hi, hstep, rfl⟩ |
    ⟨data, r', -, henv, rfl⟩
  · exact Or.inl ⟨row', hrow', hpaid⟩
  · cases CharterProc.step_effect hstep with
    | idle => exact Or.inl ⟨row', hrow', hpaid⟩
    | check => exact Or.inl ⟨row', hrow', hpaid⟩
    | ask => exact Or.inl ⟨row', hrow', hpaid⟩
    | arrive => exact Or.inl ⟨row', hrow', hpaid⟩
    | agree => exact Or.inl ⟨row', hrow', hpaid⟩
    | notify => exact Or.inl ⟨row', hrow', hpaid⟩
    | write w charter row hpc hfault hrow =>
      cases hrow'
      exact Or.inl ⟨row, hrow, by simpa using hpaid⟩
    | setPaymentRef reference row hpc hrow =>
      cases hrow'
      exact Or.inl ⟨row, hrow, hpaid⟩
    | confirm => exact Or.inr ⟨.confirmed, rfl, Or.inl rfl⟩
  · obtain ⟨-, rfl⟩ := charter_env henv
    cases hrow'
    exact absurd rfl hpaid

/-! ## All runs -/

/-- **The lifecycle of a charter.**  The stored statuses of a run follow the documented
flow, with cancelled and completed charters final and paid ones never cancelled or unpaid
again, exactly when every write of the run comes in time. -/
theorem charter_flow_iff (h : (charters charterId).init c)
    (acts : List (Act CharterOp CharterInput CharterRequest)) :
    (charters charterId).AllSteps CharterInTime c acts ↔ CharterFlow charterId c acts := by
  have hiff := System.allSteps_iff (l := acts) (.of_init h)
    fun m a hm => charter_in_time_iff (c := m) hm a
  rw [hiff]
  constructor
  · intro hall
    refine ⟨System.isChain_trace_iff.mpr hall, ?_, ?_⟩
    · rintro l₁ l₂ m m' s rfl hm hm' hs hterm
      refine (hall.drop hm).terminal_stays hm' ?_ hs
      intro t ht
      rcases hterm with rfl | rfl <;> exact absurd ht List.not_mem_nil
    · intro m hm row hrow hpaid
      obtain ⟨s, hs, hset⟩ := hall.marked (fun _ _ => next_settled)
        (fun r a r' hs hr' => charterIsPaid_step hs hr')
        (fun hstart => by
          obtain ⟨row₀, hrow₀, -⟩ := hstart
          rw [h.1] at hrow₀
          exact absurd hrow₀ (by simp)) hm ⟨row, hrow, hpaid⟩
      rw [charterStatus, hrow, Option.map_some, Option.some.injEq] at hs
      rw [hs]
      exact hset
  · exact fun hflow => System.isChain_trace_iff.mp hflow.path

theorem charter_flow_iff_quoted : (charters 1).init charterStart ∧
    ((charters 1).AllSteps CharterInTime charterStart busQuoted ↔
      CharterFlow 1 charterStart busQuoted) :=
  ⟨⟨rfl, rfl⟩, charter_flow_iff ⟨rfl, rfl⟩ busQuoted⟩

/-- A cancellation reads the charter, the webhook confirms its payment, and the
cancellation is written. -/
def busCancelled : List (Act CharterOp CharterInput CharterRequest) :=
  busQuoted ++ [.spawn (.write (.cancelCharter 7 .passenger)), .run 2 charterPlain,
    .spawn (.webhook (busWebhook 55 250000)), .run 3 charterPlain, .run 3 charterPlain,
    .run 3 charterPlain, .run 2 charterPlain]

theorem busCancelled_runs : ((charters 1).run charterStart busCancelled).isSome = true := by
  decide +kernel

/-- Where that run ends. -/
def busLost : Config CharterDB CharterProc :=
  ((charters 1).run charterStart busCancelled).get busCancelled_runs

theorem busLost_row :
    busLost.shared.row.map (fun c => (c.status, c.paidAt)) = some (.cancelled, some 900) := by
  decide +kernel

/-- **A cancellation overwrites a payment.** -/
theorem cancel_overwrites_payment :
    ¬ ∀ charterId c acts, (charters charterId).init c → CharterFlow charterId c acts := by
  intro h
  have hflow := h 1 charterStart busCancelled ⟨rfl, rfl⟩
  have hmem : busLost ∈ (charters 1).trace charterStart busCancelled :=
    System.mem_trace_of_run (Option.some_get _).symm
  obtain ⟨row, hrow, hpair⟩ := Option.map_eq_some_iff.mp busLost_row
  have hst : row.status = .cancelled := congrArg Prod.fst hpair
  have hpaid : row.paidAt = some 900 := congrArg Prod.snd hpair
  rcases hflow.paid busLost hmem row hrow (by simp [hpaid]) with hc | hc <;>
    exact absurd (hst.symm.trans hc) (by decide)

end TransHub
