import TransHub.Waybills.Payment

/-!
# The audit trail of a waybill

`create`, `sendQuote` and `updateStatus` write the row and its event in one transaction;
`confirmPayment` updates the row and inserts the event in a statement of its own.  Here
calls run one after another: a call that fails has thrown, and one whose process has died
takes no further step, which shows when the next call begins.

* `WaybillTrail`: the events are the statuses the row has had, and the timestamps agree
  with them.
* `WaybillRecorded`: no call stops between the two statements of `confirmPayment`.
* `waybill_trail_iff`: the trail agrees after every call exactly then.
* `paid_event_lost`: a run in which it does not.
-/

namespace TransHub

variable {waybillId : WaybillId} {i : ℕ} {l l' : WaybillProc} {r r' : WaybillDB}
  {x : WaybillInput} {c c' c₀ : Config WaybillDB WaybillProc}
  {a : Act WaybillOp WaybillInput (WaybillRequest × Time)}

/-! ## Stages -/

namespace WaybillStatus

/-- The statuses with a timestamp of their own. -/
def stamped : List WaybillStatus :=
  [quoteSent, paid, droppedOff, pickedUp, inTransit, arrivedAtHub, completed]

/-- How far a waybill in this status has come. -/
def rank : WaybillStatus → ℕ
  | pending => 0
  | quoteSent => 1
  | paid => 2
  | droppedOff => 3
  | pickedUp => 4
  | inTransit => 5
  | arrivedAtHub => 6
  | completed => 7
  | cancelled => 8

theorem rank_lt_of_transition :
    ∀ s t : WaybillStatus, t ∈ s.validTransitions → s.rank < t.rank := by
  decide

/-- No status comes twice along the transitions. -/
theorem nodup_of_isChain {l : List WaybillStatus}
    (h : l.IsChain fun s t => t ∈ s.validTransitions) : l.Nodup := by
  have hrank : (l.map rank).IsChain (· < ·) :=
    List.isChain_map_of_isChain rank (fun s t => rank_lt_of_transition s t) h
  exact (hrank.pairwise.imp fun hlt => Nat.ne_of_lt hlt).of_map rank fun s t hne heq =>
    hne (congrArg rank heq)

end WaybillStatus

/-- The timestamp of a stage. -/
def Waybill.stamp (w : Waybill) : WaybillStatus → Option Time
  | .quoteSent => w.quoteSentAt
  | .paid => w.paidAt
  | .droppedOff => w.droppedOffAt
  | .pickedUp => w.pickedUpAt
  | .inTransit => w.inTransitAt
  | .arrivedAtHub => w.arrivedAt
  | .completed => w.completedAt
  | .pending | .cancelled => none

/-- A write stamps the stage it stores, and no other. -/
theorem WaybillWrite.write_stamp (o : WaybillWrite) (now : Time) (w : Waybill)
    {s : WaybillStatus} (hs : s ∈ WaybillStatus.stamped) :
    (o.write now w).stamp s = if s = o.target then some now else w.stamp s := by
  cases o with
  | sendQuote data =>
    show (Waybills.sendQuote data now w).stamp s = if s = .quoteSent then some now else w.stamp s
    cases s <;> rfl
  | updateWaybillStatus requester data =>
    show (Waybills.updateStatus data now w).stamp s =
      if s = data.status then some now else w.stamp s
    have hmem := data.status_mem
    unfold Waybills.updateStatus
    cases hst : data.status with
    | pending => rw [hst] at hmem; exact absurd hmem (by decide)
    | quoteSent => rw [hst] at hmem; exact absurd hmem (by decide)
    | paid => rw [hst] at hmem; exact absurd hmem (by decide)
    | cancelled => cases s <;> first | rfl | exact absurd hs (by decide)
    | droppedOff => cases s <;> rfl
    | pickedUp => cases s <;> rfl
    | inTransit => cases s <;> rfl
    | arrivedAtHub => cases s <;> rfl
    | completed => cases s <;> rfl

/-! ## The trail -/

/-- The statuses of the events. -/
def waybillEvents (c : Config WaybillDB WaybillProc) : List WaybillStatus :=
  c.shared.events.map WaybillEvent.status

/-- The status a step has given to the row, if it has changed. -/
def waybillChange (c c' : Config WaybillDB WaybillProc) : List WaybillStatus :=
  if waybillStatus c' = waybillStatus c then [] else (waybillStatus c').toList

/-- The statuses that the row has had in the course of a run. -/
def waybillHistory (waybillId : WaybillId) (c : Config WaybillDB WaybillProc)
    (acts : List (Act WaybillOp WaybillInput (WaybillRequest × Time))) : List WaybillStatus :=
  (waybills waybillId).collect waybillChange c acts

/-- **The audit trail agrees with the row.**  The events are the statuses the row has had,
the last one is its status, none comes twice, and a stage has its timestamp exactly when
it has its event. -/
structure WaybillTrail (waybillId : WaybillId) (c : Config WaybillDB WaybillProc)
    (acts : List (Act WaybillOp WaybillInput (WaybillRequest × Time)))
    (c' : Config WaybillDB WaybillProc) : Prop where
  events : waybillEvents c' = waybillHistory waybillId c acts
  last : (waybillEvents c').getLast? = waybillStatus c'
  nodup : (waybillEvents c').Nodup
  stamps : ∀ row, c'.shared.row = some row → ∀ s ∈ WaybillStatus.stamped,
    (row.stamp s ≠ none ↔ s ∈ waybillEvents c')

/-- Calls run one after another: only the latest one takes steps. -/
def WaybillInTurn (c : Config WaybillDB WaybillProc)
    (a : Act WaybillOp WaybillInput (WaybillRequest × Time)) : Prop :=
  ∀ i x, a = .run i x → i + 1 = c.procs.length

instance : DecidablePred (WaybillInTurn c)
  | .spawn _ => isTrue (by simp [WaybillInTurn])
  | .run i _ => decidable_of_iff (i + 1 = c.procs.length) (by simp [WaybillInTurn])
  | .env _ => isTrue (by simp [WaybillInTurn])

def WaybillPc.unrecorded : WaybillPc → Bool
  | confirmed _ _ => true
  | _ => false

/-- The latest call stands between the update of `confirmPayment` and its event. -/
def waybillUnrecorded (c : Config WaybillDB WaybillProc) : Bool :=
  match c.procs.getLast? with
  | some l => l.pc.unrecorded
  | none => false

/-- A call that stands between the two statements of `confirmPayment` does not stop there:
no other call begins, and the second statement does not fail. -/
def WaybillRecorded (c : Config WaybillDB WaybillProc)
    (a : Act WaybillOp WaybillInput (WaybillRequest × Time)) : Prop :=
  waybillUnrecorded c = true →
    (∀ op, a ≠ .spawn op) ∧ ∀ i x, a = .run i x → x.fault = false

/-! ## The invariant -/

/-- The events, with the one that is about to be inserted. -/
def waybillTrail (c : Config WaybillDB WaybillProc) : List WaybillStatus :=
  waybillEvents c ++ if waybillUnrecorded c = true then [.paid] else []

/-- What calls in turn keep: the trail is a path to the status of the row with its
timestamps, and an operation that is about to write has read the stored row. -/
structure WaybillInStep (c : Config WaybillDB WaybillProc) : Prop where
  last : (waybillTrail c).getLast? = waybillStatus c
  chain : (waybillTrail c).IsChain fun s t => t ∈ s.validTransitions
  stamps : ∀ row, c.shared.row = some row → ∀ s ∈ WaybillStatus.stamped,
    (row.stamp s ≠ none ↔ s ∈ waybillTrail c)
  fresh : ∀ l o w, c.procs.getLast? = some l → l.pc = .write o w →
    c.shared.row = some w ∧ o.target ∈ w.status.validTransitions

/-- A step that changes neither the trail nor the row's stages. -/
theorem WaybillInStep.same (h : WaybillInStep c) (htrail : waybillTrail c' = waybillTrail c)
    (hstatus : waybillStatus c' = waybillStatus c)
    (hrow : ∀ row', c'.shared.row = some row' → ∃ row, c.shared.row = some row ∧
      ∀ s, row'.stamp s = row.stamp s)
    (hfresh : ∀ l o w, c'.procs.getLast? = some l → l.pc = .write o w →
      c'.shared.row = some w ∧ o.target ∈ w.status.validTransitions) :
    WaybillInStep c' ∧ waybillTrail c' = waybillTrail c ++ waybillChange c c' := by
  refine ⟨⟨?_, ?_, ?_, hfresh⟩, ?_⟩
  · rw [htrail, hstatus]
    exact h.last
  · rw [htrail]
    exact h.chain
  · intro row' hrow' s hs
    obtain ⟨row, hr, hstamp⟩ := hrow row' hrow'
    rw [htrail, hstamp s]
    exact h.stamps row hr s hs
  · rw [waybillChange, if_pos hstatus, List.append_nil, htrail]

/-- A step that goes on to the next stage. -/
theorem WaybillInStep.stage (h : WaybillInStep c) {t : WaybillStatus}
    (htrail : waybillTrail c' = waybillTrail c ++ [t]) (hstatus : waybillStatus c' = some t)
    (hfrom : waybillStatus c = none ∨ ∃ s, waybillStatus c = some s ∧ t ∈ s.validTransitions)
    (hstamps : ∀ row', c'.shared.row = some row' → ∀ s ∈ WaybillStatus.stamped,
      (row'.stamp s ≠ none ↔ s ∈ waybillTrail c ∨ s = t))
    (hfresh : ∀ l o w, c'.procs.getLast? = some l → l.pc ≠ .write o w) :
    WaybillInStep c' ∧ waybillTrail c' = waybillTrail c ++ waybillChange c c' := by
  have hne : waybillStatus c' ≠ waybillStatus c := by
    intro heq
    rcases hfrom with hnone | ⟨s, hs, ht⟩
    · rw [hstatus, hnone] at heq
      exact absurd heq (by simp)
    · rw [hstatus, hs, Option.some.injEq] at heq
      subst heq
      exact Nat.lt_irrefl _ (WaybillStatus.rank_lt_of_transition _ _ ht)
  refine ⟨⟨?_, ?_, ?_, fun l o w hl hpc => absurd hpc (hfresh l o w hl)⟩, ?_⟩
  · rw [htrail, hstatus, List.getLast?_concat]
  · rw [htrail, List.isChain_append]
    refine ⟨h.chain, List.isChain_singleton t, ?_⟩
    intro s hs t' ht'
    rw [List.head?_singleton, Option.mem_some_iff] at ht'
    subst ht'
    rw [h.last] at hs
    rcases hfrom with hnone | ⟨s', hs', ht⟩
    · rw [hnone] at hs
      exact absurd hs (by simp)
    · rw [hs', Option.mem_some_iff] at hs
      rw [← hs]
      exact ht
  · intro row' hrow' s hs
    rw [htrail, List.mem_append, List.mem_singleton]
    exact hstamps row' hrow' s hs
  · rw [waybillChange, if_neg hne, hstatus, htrail]
    rfl

/-! ## The latest call -/

theorem getLast?_of_succ {procs : List WaybillProc} (hi : procs[i]? = some l)
    (hlast : i + 1 = procs.length) : procs.getLast? = some l := by
  rw [List.getLast?_eq_getElem?, ← hlast]
  exact hi

theorem getLast?_set_of_succ {procs : List WaybillProc} (hlast : i + 1 = procs.length)
    (l' : WaybillProc) : (procs.set i l').getLast? = some l' := by
  have hlt : i < procs.length := by omega
  rw [List.getLast?_eq_getElem?, List.length_set, ← hlast]
  exact List.getElem?_set_self hlt

theorem waybillUnrecorded_eq (hl : c.procs.getLast? = some l) :
    waybillUnrecorded c = l.pc.unrecorded := by
  rw [waybillUnrecorded, hl]

/-- The trail when the latest call stands elsewhere. -/
theorem waybillTrail_eq (h : waybillUnrecorded c = false) : waybillTrail c = waybillEvents c := by
  rw [waybillTrail, h]
  exact List.append_nil _

theorem WaybillPc.unrecorded_of_idle {pc : WaybillPc} (h : pc.idle = true) :
    pc.unrecorded = false := by
  cases pc <;> first | rfl | exact absurd h Bool.false_ne_true

/-- The insertion of the event. -/
theorem WaybillProc.step_confirmed {w : Waybill} {k : Option Waybill}
    (hpc : l.pc = .confirmed w k) (hfault : x.fault = false) :
    WaybillProc.step waybillId i l r x = some (l.goto (.track w k),
      { r with events := r.events ++ [Waybills.paidEvent x.now] }) := by
  rw [WaybillProc.step, hpc]
  dsimp only
  rw [hfault]
  rfl

/-- Its failure. -/
theorem WaybillProc.step_unrecorded {w : Waybill} {k : Option Waybill}
    (hpc : l.pc = .confirmed w k) (hfault : x.fault = true) :
    WaybillProc.step waybillId i l r x = some (l.throws k WaybillProc.dbFailed, r) := by
  rw [WaybillProc.step, hpc]
  dsimp only
  rw [hfault]
  rfl

theorem WaybillPc.unrecorded_iff {pc : WaybillPc} :
    pc.unrecorded = true ↔ ∃ w k, pc = .confirmed w k := by
  cases pc <;> simp [unrecorded]

/-! ## Steps -/

/-- A step that leaves the row and its events as they are, and the call at neither a write nor
an update without its event. -/
theorem WaybillInStep.quiet (h : WaybillInStep c) (hl' : c'.procs.getLast? = some l')
    (hrec : waybillUnrecorded c = false) (hpc : l'.pc.unrecorded = false)
    (hnot : ∀ o w, l'.pc ≠ .write o w) (hrow : c'.shared.row = c.shared.row)
    (hevents : c'.shared.events = c.shared.events) :
    WaybillInStep c' ∧ waybillTrail c' = waybillTrail c ++ waybillChange c c' := by
  refine h.same ?_ ?_ ?_ ?_
  · rw [waybillTrail_eq ((waybillUnrecorded_eq hl').trans hpc), waybillTrail_eq hrec,
      waybillEvents, waybillEvents, hevents]
  · rw [waybillStatus, waybillStatus, hrow]
  · intro row' hr
    exact ⟨row', hrow ▸ hr, fun _ => rfl⟩
  · intro k o w hk hwrite
    rw [hl', Option.some.injEq] at hk
    subst hk
    exact absurd hwrite (hnot o w)

/-- **One step of a call in turn.** -/
theorem WaybillInStep.move (h : WaybillInStep c) (hi : c.procs[i]? = some l)
    (hlast : i + 1 = c.procs.length) (hun : l.pc.unrecorded = false)
    (hm : WaybillMove waybillId i l c.shared x l' r') :
    WaybillInStep ⟨r', c.procs.set i l'⟩ ∧
      waybillTrail ⟨r', c.procs.set i l'⟩ =
        waybillTrail c ++ waybillChange c ⟨r', c.procs.set i l'⟩ := by
  have hl : c.procs.getLast? = some l := getLast?_of_succ hi hlast
  have hl' : (c.procs.set i l').getLast? = some l' := getLast?_set_of_succ hlast l'
  have hrec : waybillUnrecorded c = false := (waybillUnrecorded_eq hl).trans hun
  have htrail : waybillTrail c = waybillEvents c := waybillTrail_eq hrec
  have hkeep : l'.pc.unrecorded = false →
      waybillTrail ⟨r', c.procs.set i l'⟩ = r'.events.map WaybillEvent.status :=
    fun hpc => waybillTrail_eq ((waybillUnrecorded_eq hl').trans hpc)
  have hnot : (∀ o w, l'.pc ≠ .write o w) → ∀ k o w,
      (c.procs.set i l').getLast? = some k → k.pc ≠ .write o w := by
    intro hpc k o w hk
    rw [hl', Option.some.injEq] at hk
    rw [← hk]
    exact hpc o w
  cases hm with
  | idle _ _ _ _ _ _ hidle =>
    exact h.quiet hl' hrec (WaybillPc.unrecorded_of_idle hidle) (WaybillPc.ne_write_of_idle hidle)
      rfl rfl
  | check o waybill hpc hop hrow htarget =>
    refine h.same ((hkeep rfl).trans htrail.symm) rfl (fun row' hr => ⟨row', hr, fun _ => rfl⟩) ?_
    intro k o' w hk hpc'
    rw [hl', Option.some.injEq] at hk
    rw [← hk] at hpc'
    cases hpc'
    exact ⟨hrow, htarget⟩
  | ask waybill reference userId hpc hop hrow =>
    exact h.quiet hl' hrec rfl (by simp [WaybillProc.goto]) rfl rfl
  | arrive d reference caller => exact h.quiet hl' hrec rfl (by simp) rfl rfl
  | agree d waybill caller hpc hrow hpaid hamount =>
    exact h.quiet hl' hrec rfl (by simp [WaybillProc.goto]) rfl rfl
  | write o waybill w hpc hfault hrow =>
    obtain ⟨hread, htarget⟩ := h.fresh l o waybill hl hpc
    rw [hrow, Option.some.injEq] at hread
    subst hread
    have hevent : (o.event x.now).status = o.target := by
      cases o <;> rfl
    refine h.stage (t := o.target) ?_ ?_ (Or.inr ⟨w.status, ?_, htarget⟩) ?_
      (hnot (by simp [WaybillProc.goto]))
    · rw [hkeep rfl, htrail, List.map_append, List.map_singleton, hevent]
      rfl
    · rw [waybillStatus, Option.map_some, WaybillWrite.write_status]
    · rw [waybillStatus, hrow, Option.map_some]
    · rintro _ ⟨⟩ s hs
      rw [WaybillWrite.write_stamp o x.now w hs]
      by_cases hst : s = o.target
      · rw [if_pos hst]
        exact iff_of_true (by simp) (Or.inr hst)
      · rw [if_neg hst, h.stamps w hrow s hs]
        exact ⟨Or.inl, fun hmem => hmem.resolve_right hst⟩
  | setPaymentRef waybill reference w hpc hrow =>
    refine h.same ((hkeep rfl).trans htrail.symm) ?_ ?_
      fun k o w hk hpc' => absurd hpc' (hnot (by simp [WaybillProc.finish]) k o w hk)
    · rw [waybillStatus, waybillStatus, hrow]
      rfl
    · rintro _ ⟨⟩
      exact ⟨w, hrow, fun s => by cases s <;> rfl⟩
  | confirm d waybill caller w hpc hrow hpaid hst =>
    refine h.stage (t := .paid) ?_ rfl (Or.inr ⟨.quoteSent, ?_, by decide⟩) ?_
      (hnot (by simp))
    · rw [waybillTrail, waybillUnrecorded_eq hl', htrail]
      rfl
    · rw [waybillStatus, hrow, Option.map_some, hst]
    · rintro _ ⟨⟩ s hs
      by_cases hpd : s = .paid
      · subst hpd
        exact iff_of_true (by simp [Waybill.stamp]) (Or.inr rfl)
      · rw [or_iff_left hpd, ← h.stamps w hrow s hs]
        cases s <;> first | rfl | exact absurd rfl hpd
  | record waybill caller hpc hfault =>
    rw [hpc] at hun
    exact absurd hun (by simp [WaybillPc.unrecorded])
  | track waybill caller emitted hemitted hpc =>
    exact h.quiet hl' hrec rfl (by simp [WaybillProc.goto]) rfl rfl
  | notify waybill caller hpc =>
    have hidle := WaybillProc.returns_idle l caller
    exact h.quiet hl' hrec (WaybillPc.unrecorded_of_idle hidle)
      (WaybillPc.ne_write_of_idle hidle) rfl rfl

/-- **A step in turn that leaves no update unrecorded adds the new status to the trail.** -/
theorem waybill_in_step (h : WaybillInStep c) (hturn : WaybillInTurn c a)
    (hrec : WaybillRecorded c a) (hs : (waybills waybillId).step c a = some c') :
    WaybillInStep c' ∧ waybillTrail c' = waybillTrail c ++ waybillChange c c' := by
  rcases Machine.next_cases hs with ⟨op, rfl, rfl⟩ | ⟨i, x, l, l', r', rfl, hi, hstep, rfl⟩ |
    ⟨data, r', rfl, henv, rfl⟩
  · have hun : waybillUnrecorded c = false := by
      rw [Bool.eq_false_iff]
      exact fun hun => (hrec hun).1 op rfl
    have hl : (c.procs ++ [(waybillMachine waybillId).start op]).getLast? =
        some ((waybillMachine waybillId).start op) := List.getLast?_concat
    exact h.quiet hl hun rfl (by simp [waybillMachine]) rfl rfl
  · have hlast := hturn i x rfl
    have hl : c.procs.getLast? = some l := getLast?_of_succ hi hlast
    by_cases hun : l.pc.unrecorded = true
    · -- the event is inserted, and the trail has counted it already
      obtain ⟨w, k, hpc⟩ := WaybillPc.unrecorded_iff.mp hun
      have hfault := (hrec ((waybillUnrecorded_eq hl).trans hun)).2 i x rfl
      have hown : WaybillProc.step waybillId i l c.shared x = some (l', r') := hstep
      rw [WaybillProc.step_confirmed hpc hfault, Option.some.injEq, Prod.mk.injEq] at hown
      obtain ⟨rfl, rfl⟩ := hown
      have hl' := getLast?_set_of_succ hlast (l.goto (.track w k))
      refine h.same ?_ rfl (fun row' hr => ⟨row', hr, fun _ => rfl⟩) ?_
      · have htrail : waybillTrail c = waybillEvents c ++ [.paid] := by
          rw [waybillTrail, (waybillUnrecorded_eq hl).trans hun]
          rfl
        rw [htrail, waybillTrail_eq ((waybillUnrecorded_eq hl').trans rfl)]
        exact List.map_append
      · intro k' o w' hk hpc'
        rw [hl', Option.some.injEq] at hk
        rw [← hk] at hpc'
        exact absurd hpc' (by simp [WaybillProc.goto])
    · exact h.move hi hlast (Bool.eq_false_iff.mpr hun) (WaybillProc.step_move hstep)
  · obtain ⟨hrow, rfl⟩ := waybill_env henv
    have hnone : waybillStatus c = none := by
      rw [waybillStatus, hrow]
      rfl
    have hempty : waybillTrail c = [] := by
      rw [← List.getLast?_eq_none_iff, h.last, hnone]
    have hun : waybillUnrecorded c = false := by
      rw [Bool.eq_false_iff]
      intro hun
      rw [waybillTrail, hun] at hempty
      exact absurd hempty (by simp)
    refine h.stage (t := .pending) ?_ rfl (Or.inl hnone) ?_ ?_
    · rw [waybillTrail_eq (c := c) hun]
      refine Eq.trans (waybillTrail_eq ?_) List.map_append
      exact hun
    · rintro _ ⟨⟩ s hs
      rw [hempty]
      cases s <;> first | exact absurd hs (by decide) | simp [Waybill.stamp, Waybills.create]
    · intro k o w hk hpc
      have hread := (h.fresh k o w hk hpc).1
      rw [hrow] at hread
      exact absurd hread (by simp)

/-! ## All runs -/

theorem WaybillInStep.init (h : (waybills waybillId).init c) : WaybillInStep c := by
  obtain ⟨hshared, hprocs⟩ := h
  have hrow : c.shared.row = none := by rw [hshared]
  have hempty : waybillTrail c = [] := by
    rw [waybillTrail, waybillEvents, waybillUnrecorded, hprocs, hshared]
    rfl
  refine ⟨?_, ?_, ?_, ?_⟩
  · rw [hempty, waybillStatus, hrow]
    rfl
  · rw [hempty]
    exact List.isChain_nil
  · intro row hr
    rw [hrow] at hr
    exact absurd hr (by simp)
  · intro l o w hl
    rw [hprocs] at hl
    exact absurd hl (by simp)

/-- A recorded run leaves its history in the trail. -/
theorem waybill_trail_of_run {acts : List (Act WaybillOp WaybillInput (WaybillRequest × Time))}
    (h : (waybills waybillId).init c₀)
    (hall : (waybills waybillId).AllSteps (fun c a => WaybillInTurn c a ∧ WaybillRecorded c a) c₀
      acts)
    (hrun : (waybills waybillId).run c₀ acts = some c) :
    WaybillInStep c ∧ waybillTrail c = waybillHistory waybillId c₀ acts := by
  have hinit := WaybillInStep.init h
  refine ⟨?_, ?_⟩
  · exact hall.invariant hrun (fun m b m' hm hC hs => (waybill_in_step hm hC.1 hC.2 hs).1) hinit
  · have hlog := hall.collect_eq hrun
      (fun m b m' hm hC hs => waybill_in_step hm hC.1 hC.2 hs) hinit
    have hempty : waybillTrail c₀ = [] := by
      rw [waybillTrail, waybillEvents, waybillUnrecorded, h.2, h.1]
      rfl
    rw [hlog, hempty]
    rfl

/-- A call that stops between the two statements leaves a row that is paid without its
event. -/
theorem waybill_unrecorded (h : WaybillInStep c) (hturn : WaybillInTurn c a)
    (hnot : ¬ WaybillRecorded c a) :
    ∃ c', (waybills waybillId).step c a = some c' ∧ waybillUnrecorded c' = false ∧
      ∃ row, c'.shared.row = some row ∧ row.stamp .paid ≠ none ∧ .paid ∉ waybillEvents c' := by
  obtain ⟨hun, hstop⟩ := Classical.not_imp.mp hnot
  have htrail : waybillTrail c = waybillEvents c ++ [.paid] := by
    rw [waybillTrail, hun]
    rfl
  have hlast := h.last
  rw [htrail, List.getLast?_concat] at hlast
  obtain ⟨row, hrow, -⟩ := Option.map_eq_some_iff.mp hlast.symm
  have hstamp : row.stamp .paid ≠ none := by
    rw [h.stamps row hrow .paid (by decide), htrail]
    exact List.mem_append_right _ List.mem_cons_self
  have hmiss : .paid ∉ waybillEvents c := by
    have hnodup := WaybillStatus.nodup_of_isChain h.chain
    rw [htrail, List.nodup_append] at hnodup
    intro hmem
    exact hnodup.2.2 _ hmem _ List.mem_cons_self rfl
  cases a with
  | spawn op =>
    refine ⟨_, Machine.next_spawn c op, ?_, row, hrow, hstamp, hmiss⟩
    exact (waybillUnrecorded_eq List.getLast?_concat).trans rfl
  | run i x =>
    have hi := hturn i x rfl
    have hfault : x.fault = true := by
      by_contra hfault
      refine hstop ⟨by simp, ?_⟩
      intro j y heq
      cases heq
      exact Bool.eq_false_iff.mpr hfault
    cases hl : c.procs.getLast? with
    | none =>
      rw [waybillUnrecorded, hl] at hun
      exact absurd hun Bool.false_ne_true
    | some l =>
      rw [waybillUnrecorded_eq hl] at hun
      obtain ⟨w, k, hpc⟩ := WaybillPc.unrecorded_iff.mp hun
      have hget : c.procs[i]? = some l := by
        rw [← hl, List.getLast?_eq_getElem?, ← hi]
        rfl
      refine ⟨_, Machine.next_run.mpr ⟨l, _, _, hget,
        WaybillProc.step_unrecorded hpc hfault, rfl⟩, ?_, row, hrow, hstamp, hmiss⟩
      rw [waybillUnrecorded_eq (getLast?_set_of_succ hi _)]
      cases k <;> rfl
  | env data =>
    exact absurd ⟨by simp, by simp⟩ hstop

/-- **The audit trail after any failure.**  However calls run one after another, fail and
are retried, the events agree with the row whenever no call stands between the two
statements of `confirmPayment`, exactly when no call has stopped there. -/
theorem waybill_trail_iff {acts : List (Act WaybillOp WaybillInput (WaybillRequest × Time))}
    (h : (waybills waybillId).init c₀)
    (hturn : (waybills waybillId).AllSteps WaybillInTurn c₀ acts) :
    (waybills waybillId).AllSteps WaybillRecorded c₀ acts ↔
      ∀ l₁ l₂ m, acts = l₁ ++ l₂ → (waybills waybillId).run c₀ l₁ = some m →
        waybillUnrecorded m = false → WaybillTrail waybillId c₀ l₁ m := by
  constructor
  · rintro hrec l₁ l₂ m rfl hm hun
    have hboth : (waybills waybillId).AllSteps
        (fun c a => WaybillInTurn c a ∧ WaybillRecorded c a) c₀ l₁ :=
      (hturn.take).and (hrec.take)
    obtain ⟨hin, hhist⟩ := waybill_trail_of_run h hboth hm
    rw [waybillTrail_eq hun] at hhist
    refine ⟨hhist, ?_, ?_, ?_⟩
    · rw [← waybillTrail_eq hun]
      exact hin.last
    · rw [← waybillTrail_eq hun]
      exact WaybillStatus.nodup_of_isChain hin.chain
    · rw [← waybillTrail_eq hun]
      exact hin.stamps
  · intro htrail
    refine hturn.of_prefixes (J := WaybillInStep)
      (Q := fun l m => waybillUnrecorded m = false → WaybillTrail waybillId c₀ l m)
      (fun m b m' hm hT hC hs => (waybill_in_step hm hT hC hs).1) ?_ (.init h) htrail
    intro l m b hm hT hnot
    obtain ⟨m', hs, hun, row, hrow, hstamp, hmiss⟩ := waybill_unrecorded hm hT hnot
    refine ⟨m', hs, ?_⟩
    intro hQ
    exact hmiss (((hQ hun).stamps row hrow .paid (by decide)).mp hstamp)

/-! ## One run -/

/-- A step in which the statement fails. -/
def waybillFault : WaybillInput := { waybillPlain with fault := true }

/-- The webhook confirms the payment, and the insertion of its event fails. -/
def parcelUnrecorded : List (Act WaybillOp WaybillInput (WaybillRequest × Time)) :=
  parcelPaid ++ [.run 1 waybillFault]

/-- The delivery is repeated. -/
def parcelRetried : List (Act WaybillOp WaybillInput (WaybillRequest × Time)) :=
  parcelUnrecorded ++ [.spawn (.webhook (parcelWebhook 66 150000)), .run 2 waybillPlain,
    .run 2 waybillPlain]

theorem parcelRetried_runs : ((waybills 1).run waybillStart parcelRetried).isSome = true := by
  decide +kernel

/-- Where that run ends. -/
def parcelSilent : Config WaybillDB WaybillProc :=
  ((waybills 1).run waybillStart parcelRetried).get parcelRetried_runs

theorem parcelPaid_inTurn : (waybills 1).AllSteps WaybillInTurn waybillStart parcelPaid := by
  decide +kernel

theorem parcelRetried_inTurn :
    (waybills 1).AllSteps WaybillInTurn waybillStart parcelRetried := by
  decide +kernel

theorem waybill_trail_iff_paid : (waybills 1).init waybillStart ∧
    ((waybills 1).AllSteps WaybillRecorded waybillStart parcelPaid ↔
      ∀ l₁ l₂ m, parcelPaid = l₁ ++ l₂ → (waybills 1).run waybillStart l₁ = some m →
        waybillUnrecorded m = false → WaybillTrail 1 waybillStart l₁ m) :=
  ⟨⟨rfl, rfl⟩, waybill_trail_iff ⟨rfl, rfl⟩ parcelPaid_inTurn⟩

/-- **The event of a payment is lost**, and no retry brings it back. -/
theorem paid_event_lost :
    ¬ ∀ waybillId c acts m, (waybills waybillId).init c →
      (waybills waybillId).AllSteps WaybillInTurn c acts →
      (waybills waybillId).run c acts = some m → waybillUnrecorded m = false →
      WaybillTrail waybillId c acts m := by
  intro h
  have htrail := h 1 waybillStart parcelRetried parcelSilent ⟨rfl, rfl⟩ parcelRetried_inTurn
    (Option.some_get _).symm (by decide +kernel)
  have hevents : waybillEvents parcelSilent = [.pending, .quoteSent] := by decide +kernel
  have hstatus : waybillStatus parcelSilent = some .paid := by decide +kernel
  have hlast := htrail.last
  rw [hevents, hstatus] at hlast
  exact absurd hlast (by decide)

end TransHub
