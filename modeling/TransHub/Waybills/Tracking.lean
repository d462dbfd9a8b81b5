import TransHub.Waybills.Lifecycle

/-!
# What trackers are told

Every change of a waybill is followed by `emitTrackingUpdate`, in a later step of the same call,
with the row as it is read then.  Calls interleave, so a push may come late and tell of a change
that another call has made.

* `WaybillPush`, `WaybillDB.view`: the number, the status and the trail; those of the row and
  those of the pushes.
* `WaybillPc.unannounced`: a call that has changed the waybill and has not told of it yet.
* `TrackingEffect`: what a step does to the view and to the pushes.
* `waybill_tracked`: what a run tells.
-/

namespace TransHub

variable {waybillId : WaybillId} {i : ℕ} {l l' : WaybillProc} {r r' : WaybillDB}
  {x : WaybillInput} {c c' m n : Config WaybillDB WaybillProc}
  {a : Act WaybillOp WaybillInput (WaybillRequest × Time)}
  {acts : List (Act WaybillOp WaybillInput (WaybillRequest × Time))}

/-- The payload of `waybill.tracking_updated`. -/
structure WaybillPush where
  waybillNo : ℕ
  status : WaybillStatus
  events : List WaybillEvent
  deriving DecidableEq, Repr

def WaybillNotice.push? : WaybillNotice → Option WaybillPush
  | trackingUpdated waybillNo status events => some ⟨waybillNo, status, events⟩
  | _ => none

namespace WaybillDB

/-- What a push would say now. -/
def view (r : WaybillDB) : Option WaybillPush :=
  r.row.map fun w => ⟨w.waybillNo, w.status, r.events⟩

/-- What has been pushed. -/
def pushes (r : WaybillDB) : List WaybillPush := r.emitted.filterMap WaybillNotice.push?

end WaybillDB

/-- The call has changed the waybill and has yet to push. -/
def WaybillPc.unannounced : WaybillPc → Bool
  | written _ | confirmed _ _ | track _ _ => true
  | _ => false

/-- Some call has changed the waybill and has yet to push. -/
def WaybillUnannounced (c : Config WaybillDB WaybillProc) : Prop :=
  ∃ (i : ℕ) (l : WaybillProc), c.procs[i]? = some l ∧ l.pc.unannounced = true

/-- No statement fails between a change and its push. -/
def WaybillUndisturbed (c : Config WaybillDB WaybillProc)
    (a : Act WaybillOp WaybillInput (WaybillRequest × Time)) : Prop :=
  ∀ i x l, a = .run i x → c.procs[i]? = some l → l.pc.unannounced = true → x.fault = false

instance (c : Config WaybillDB WaybillProc) : Decidable (WaybillUnannounced c) :=
  decidable_of_iff (∃ l ∈ c.procs, l.pc.unannounced = true) <| by
    constructor
    · rintro ⟨l, hl, hun⟩
      obtain ⟨i, hi⟩ := List.mem_iff_getElem?.mp hl
      exact ⟨i, l, hi, hun⟩
    · rintro ⟨i, l, hi, hun⟩
      exact ⟨l, List.mem_of_getElem? hi, hun⟩

instance (c : Config WaybillDB WaybillProc) :
    (a : Act WaybillOp WaybillInput (WaybillRequest × Time)) → Decidable (WaybillUndisturbed c a)
  | .run i x => decidable_of_iff
      ((c.procs[i]?).all (fun l => !l.pc.unannounced || !x.fault) = true) <| by
        rw [Option.all_eq_true]
        constructor
        · rintro h _ _ l ⟨⟩ hl hun
          simpa [hun] using h l hl
        · intro h l hl
          by_cases hun : l.pc.unannounced = true
          · simp [h i x l rfl hl hun]
          · simp [hun]
  | .spawn _ => isTrue fun _ _ _ h => nomatch h
  | .env _ => isTrue fun _ _ _ h => nomatch h

/-! ## One step -/

/-- What a step of a call does to the view and to the pushes. -/
inductive TrackingEffect (l : WaybillProc) (r : WaybillDB) (x : WaybillInput) (l' : WaybillProc)
    (r' : WaybillDB) : Prop where
  | quiet (hview : r'.view = r.view) (hpushes : r'.pushes = r.pushes)
      (hleft : l.pc.unannounced = true → x.fault = true ∨ r.row = none)
  | changes (p q : WaybillPush) (hview : r.view = some p) (hview' : r'.view = some q)
      (hno : q.waybillNo = p.waybillNo) (hpushes : r'.pushes = r.pushes)
      (hpc : l'.pc.unannounced = true)
  | tells (p : WaybillPush) (hview : r.view = some p) (hview' : r'.view = some p)
      (hpushes : r'.pushes = r.pushes ++ [p])

/-- A step that touches neither the row nor the log. -/
theorem TrackingEffect.same (hpc : l.pc.unannounced = true → x.fault = true ∨ r.row = none) :
    TrackingEffect l r x l' r :=
  .quiet rfl rfl hpc

/-- An operation pushes the row that it has read back. -/
theorem pushes_notices (updated : Waybill) (events : List WaybillEvent) (email : String)
    (o : WaybillWrite) :
    (WaybillProc.notices updated events email o).filterMap WaybillNotice.push? =
      [⟨updated.waybillNo, updated.status, events⟩] := by
  cases o with
  | sendQuote data => rfl
  | updateWaybillStatus requester data =>
    rw [WaybillProc.notices]
    split <;> rfl

theorem WaybillWrite.write_waybillNo (o : WaybillWrite) (now : Time) (w : Waybill) :
    (o.write now w).waybillNo = w.waybillNo := by
  cases o with
  | sendQuote data => rfl
  | updateWaybillStatus requester data =>
    show (Waybills.updateStatus data now w).waybillNo = w.waybillNo
    unfold Waybills.updateStatus
    split <;> rfl

namespace WaybillProc

/-- **What a step tells.** -/
theorem step_tracking (h : step waybillId i l r x = some (l', r')) :
    TrackingEffect l r x l' r' := by
  cases step_cases h with
  | failed hfail => exact .same fun _ => hfail
  | throws caller hfault => exact .same fun _ => Or.inl hfault
  | route body hpc hop => exact .same (by simp [hpc, WaybillPc.unannounced])
  | check o hpc hop => exact .same (by simp [hpc, WaybillPc.unannounced])
  | initiate userId hpc hop => exact .same (by simp [hpc, WaybillPc.unannounced])
  | verify reference userId hpc hop => exact .same (by simp [hpc, WaybillPc.unannounced])
  | refused waybill e hpc => exact .same (by simp [hpc, WaybillPc.unannounced])
  | started waybill reference hpc => exact .same (by simp [hpc, WaybillPc.unannounced])
  | lookup waybill reference hpc => exact .same (by simp [hpc, WaybillPc.unannounced])
  | find d caller hpc => exact .same (by simp [hpc, WaybillPc.unannounced])
  | late d waybill caller hpc => exact .same (by simp [hpc, WaybillPc.unannounced])
  | reread waybill hpc => exact .same (by simp [hpc, WaybillPc.unannounced])
  | write o waybill w hpc hfault hrow =>
    refine .changes ⟨w.waybillNo, w.status, r.events⟩
      ⟨(o.write x.now w).waybillNo, (o.write x.now w).status, r.events ++ [o.event x.now]⟩
      ?_ rfl (o.write_waybillNo x.now w) rfl rfl
    rw [WaybillDB.view, hrow, Option.map_some]
  | announce o updated hpc hrow =>
    have hview : r.view = some ⟨updated.waybillNo, updated.status, r.events⟩ := by
      rw [WaybillDB.view, hrow, Option.map_some]
    refine .tells _ hview hview ?_
    show (r.emitted ++ notices updated r.events x.email o).filterMap WaybillNotice.push? = _
    rw [List.filterMap_append, pushes_notices]
    rfl
  | setPaymentRef waybill reference w hpc hfault hrow =>
    refine .quiet ?_ rfl (by simp [hpc, WaybillPc.unannounced])
    rw [WaybillDB.view, WaybillDB.view, hrow]
    rfl
  | confirm d waybill caller w hpc hfault hconf =>
    obtain ⟨w, hrow, hpaid, hst, rfl⟩ := Waybills.confirmPayment_eq_some.mp hconf
    refine .changes ⟨w.waybillNo, w.status, r.events⟩ ⟨w.waybillNo, .paid, r.events⟩
      ?_ rfl rfl rfl rfl
    rw [WaybillDB.view, hrow, Option.map_some]
  | record waybill caller hpc hfault =>
    cases hrow : r.row with
    | none =>
      refine .quiet ?_ rfl fun _ => Or.inr hrow
      rw [WaybillDB.view, WaybillDB.view, hrow]
      rfl
    | some w =>
      refine .changes ⟨w.waybillNo, w.status, r.events⟩
        ⟨w.waybillNo, w.status, r.events ++ [Waybills.paidEvent x.now]⟩ ?_ rfl rfl rfl rfl
      rw [WaybillDB.view, hrow, Option.map_some]
  | track waybill caller hpc hfault =>
    cases hrow : r.row with
    | none =>
      refine .quiet ?_ ?_ fun _ => Or.inr hrow
      · rw [WaybillDB.view, WaybillDB.view, hrow]
      · show (r.emitted ++ []).filterMap WaybillNotice.push? = _
        rw [List.append_nil]
        rfl
    | some w =>
      have hview : r.view = some ⟨w.waybillNo, w.status, r.events⟩ := by
        rw [WaybillDB.view, hrow, Option.map_some]
      refine .tells _ hview rfl ?_
      · show (r.emitted ++ [_]).filterMap WaybillNotice.push? = _
        rw [List.filterMap_append]
        rfl
  | notify waybill caller hpc =>
    refine .quiet rfl ?_ (by simp [hpc, WaybillPc.unannounced])
    show (r.emitted ++ [_]).filterMap WaybillNotice.push? = _
    rw [List.filterMap_append]
    exact List.append_nil _

end WaybillProc

/-- **One step of a submitted waybill.**  What is pushed is what the row says after the step; and
unless a statement fails in between, a change is pushed or waits for its push. -/
theorem waybill_tracking_step {p : WaybillPush} (h : (waybills waybillId).step c a = some c')
    (hview : c.shared.view = some p) :
    ∃ q news, c'.shared.view = some q ∧ q.waybillNo = p.waybillNo ∧
      c'.shared.pushes = c.shared.pushes ++ news ∧ (∀ k ∈ news, k = q) ∧
      (WaybillUndisturbed c a → WaybillUnannounced c' ∨ q ∈ news ∨
        q = p ∧ ¬ WaybillUnannounced c) := by
  rcases Machine.next_cases h with ⟨o, -, rfl⟩ | ⟨i, x, l, l', r', rfl, hi, hs, rfl⟩ |
    ⟨data, r', -, henv, -⟩
  · refine ⟨p, [], hview, rfl, (List.append_nil _).symm, by simp, fun _ => ?_⟩
    by_cases hun : WaybillUnannounced c
    · obtain ⟨j, k, hj, hk⟩ := hun
      obtain ⟨hlt, -⟩ := List.getElem?_eq_some_iff.mp hj
      exact Or.inl ⟨j, k, (List.getElem?_append_left hlt).trans hj, hk⟩
    · exact Or.inr (Or.inr ⟨rfl, hun⟩)
  · obtain ⟨hlt, -⟩ := List.getElem?_eq_some_iff.mp hi
    cases WaybillProc.step_tracking hs with
    | quiet hsame hpushes hleft =>
      refine ⟨p, [], hsame.trans hview, rfl, ?_, by simp, fun hund => ?_⟩
      · rw [List.append_nil]
        exact hpushes
      by_cases hun : WaybillUnannounced c
      · -- The call that has yet to push is another one, and stays where it is.
        obtain ⟨j, k, hj, hk⟩ := hun
        refine Or.inl ⟨j, k, ?_, hk⟩
        have hne : i ≠ j := by
          rintro rfl
          rw [hi, Option.some.injEq] at hj
          subst hj
          rcases hleft hk with hfault | hrow
          · exact absurd (hund i x l rfl hi hk) (by simp [hfault])
          · rw [WaybillDB.view, hrow] at hview
            exact absurd hview (by simp)
        exact (List.getElem?_set_ne hne).trans hj
      · exact Or.inr (Or.inr ⟨rfl, hun⟩)
    | changes p' q hview' hq hno hpushes hpc =>
      rw [hview, Option.some.injEq] at hview'
      subst hview'
      refine ⟨q, [], hq, hno, ?_, by simp, fun _ => ?_⟩
      · rw [List.append_nil]
        exact hpushes
      · exact Or.inl ⟨i, l', List.getElem?_set_self hlt, hpc⟩
    | tells p' hview' hq hpushes =>
      rw [hview, Option.some.injEq] at hview'
      subst hview'
      exact ⟨p, [p], hq, rfl, hpushes, fun k hk => List.mem_singleton.mp hk,
        fun _ => Or.inr (Or.inl (List.mem_singleton_self p))⟩
  · rw [WaybillDB.view, (waybill_env henv).1] at hview
    exact absurd hview (by simp)

/-- **A run of a submitted waybill.**  Each push is what the row said in some state on the way,
and when no call has a push left and no statement has failed in between, a change has been
pushed. -/
theorem waybill_tracked {p : WaybillPush} (hview : m.shared.view = some p)
    (hrun : (waybills waybillId).run m acts = some n) :
    ∃ q news, n.shared.view = some q ∧ q.waybillNo = p.waybillNo ∧
      n.shared.pushes = m.shared.pushes ++ news ∧
      (∀ k ∈ news, ∃ t ∈ (waybills waybillId).trace m acts, t.shared.view = some k) ∧
      ((waybills waybillId).AllSteps WaybillUndisturbed m acts →
        q = p ∨ WaybillUnannounced n ∨ q ∈ news) := by
  refine System.run_rule (P := fun acts n => ∃ q news, n.shared.view = some q ∧
      q.waybillNo = p.waybillNo ∧ n.shared.pushes = m.shared.pushes ++ news ∧
      (∀ k ∈ news, ∃ t ∈ (waybills waybillId).trace m acts, t.shared.view = some k) ∧
      ((waybills waybillId).AllSteps WaybillUndisturbed m acts →
        q = p ∨ WaybillUnannounced n ∨ q ∈ news)) hrun ?_ ?_
  · exact ⟨p, [], hview, rfl, (List.append_nil _).symm, by simp, fun _ => Or.inl rfl⟩
  · rintro acts r a r' hr ⟨q, news, hq, hno, hpushes, hold, hlast⟩ hs
    obtain ⟨q', news', hq', hno', hpushes', hnew, hstep⟩ := waybill_tracking_step hs hq
    have hrun' : (waybills waybillId).run m (acts ++ [a]) = some r' :=
      System.run_snoc_eq_some _ |>.mpr ⟨r, hr, hs⟩
    refine ⟨q', news ++ news', hq', hno'.trans hno, ?_, ?_, ?_⟩
    · rw [hpushes', hpushes, List.append_assoc]
    · intro k hk
      rcases List.mem_append.mp hk with hk | hk
      · obtain ⟨t, ht, hview⟩ := hold k hk
        exact ⟨t, System.mem_trace_append ht, hview⟩
      · rw [hnew k hk]
        exact ⟨r', System.mem_trace_of_run hrun', hq'⟩
    · intro hall
      rcases hstep (hall.at hr) with hun | hmem | ⟨rfl, hun⟩
      · exact Or.inr (Or.inl hun)
      · exact Or.inr (Or.inr (List.mem_append_right _ hmem))
      · rcases hlast hall.take with rfl | hun' | hmem
        · exact Or.inl rfl
        · exact absurd hun' hun
        · exact Or.inr (Or.inr (List.mem_append_left _ hmem))

end TransHub
