import TransHub.Charters.Reconciliation
import TransHub.Waybills.Reconciliation

/-!
# Captured charges of charters and waybills

`handleWebhook` acknowledges a charge as soon as it has emitted the event for it.

* `no_charge_lost_iff`: the captured charges of a run are all accounted for exactly when
  nothing hinders the listeners.
* `second_charge_lost`: a customer who has paid twice.
-/

namespace TransHub

/-- **Which captured charges are lost.**  In every run of calls on a charter, and in every
run of calls on a waybill, each captured charge whose listener has ended has confirmed the
entity, repeats the charge that has, or has been reported, exactly when every step that a
listener takes is unhindered or comes after its own charge has settled the entity. -/
theorem no_charge_lost_iff {charterId : CharterId} {waybillId : WaybillId}
    {c : Config CharterDB CharterProc} {w : Config WaybillDB WaybillProc}
    (hc : (charters charterId).init c) (hw : (waybills waybillId).init w)
    (acts : List (Act CharterOp CharterInput CharterRequest))
    (moves : List (Act WaybillOp WaybillInput (WaybillRequest × Time))) :
    ((charters charterId).AllSteps (Machine.Safe (CharterProc.Unhindered charterId)) c acts ↔
      ∀ m ∈ (charters charterId).trace c acts,
        Machine.Accounted CharterProc.IsDone (CharterProc.Accounted charterId) m) ∧
    ((waybills waybillId).AllSteps (Machine.Safe (WaybillProc.Unhindered waybillId)) w moves ↔
      ∀ m ∈ (waybills waybillId).trace w moves,
        Machine.Accounted WaybillProc.IsDone (WaybillProc.Accounted waybillId) m) :=
  ⟨(charterCustody charterId).allSteps_iff hc acts,
    (waybillCustody waybillId).allSteps_iff hw moves⟩

/-- A quoted charter, and a submitted waybill that is quoted and paid. -/
theorem no_charge_lost_iff_samples : (charters 1).init charterStart ∧
    (waybills 1).init waybillStart ∧
    ((charters 1).AllSteps (Machine.Safe (CharterProc.Unhindered 1)) charterStart busPaidTwice ↔
      ∀ m ∈ (charters 1).trace charterStart busPaidTwice,
        Machine.Accounted CharterProc.IsDone (CharterProc.Accounted 1) m) ∧
    ((waybills 1).AllSteps (Machine.Safe (WaybillProc.Unhindered 1)) waybillStart parcelPaid ↔
      ∀ m ∈ (waybills 1).trace waybillStart parcelPaid,
        Machine.Accounted WaybillProc.IsDone (WaybillProc.Accounted 1) m) :=
  ⟨⟨rfl, rfl⟩, ⟨rfl, rfl⟩, no_charge_lost_iff ⟨rfl, rfl⟩ ⟨rfl, rfl⟩ busPaidTwice parcelPaid⟩

/-! ## Two payments of one charter -/

/-- The customer starts two payments, `55` and `56`, and pays both. -/
def busPaidByTwo : List (Act CharterOp CharterInput CharterRequest) :=
  busQuoted ++
    .spawn (.initiatePayment 7) :: List.replicate 3 (.run 2 charterPlain) ++
    .spawn (.initiatePayment 7) ::
      List.replicate 3 (.run 3 { charterPlain with started := .ok 56 }) ++
    .spawn (.webhook (busWebhook 55 250000)) :: List.replicate 4 (.run 4 charterPlain) ++
    .spawn (.webhook (busWebhook 56 250000)) :: List.replicate 2 (.run 5 charterPlain)

theorem busPaidByTwo_runs : ((charters 1).run charterStart busPaidByTwo).isSome = true := by
  decide +kernel

/-- Where that run ends. -/
def busOverpaid : Config CharterDB CharterProc :=
  ((charters 1).run charterStart busPaidByTwo).get busPaidByTwo_runs

theorem busOverpaid_last :
    busOverpaid.procs[5]?.map (fun l => (l.captured 1, l.pc, l.flipped, l.issues)) =
      some (some 56, .done .acknowledged, false, []) := by
  decide +kernel

theorem busOverpaid_settledBy : busOverpaid.shared.settledBy = some (4, 55) := by
  decide +kernel

/-- **The second charge is lost.**  It is acknowledged, it has not confirmed the charter,
and nobody is told. -/
theorem second_charge_lost : ¬ ∀ charterId c acts, (charters charterId).init c →
    ∀ m ∈ (charters charterId).trace c acts,
      Machine.Accounted CharterProc.IsDone (CharterProc.Accounted charterId) m := by
  intro h
  have hacc := h 1 charterStart busPaidByTwo ⟨rfl, rfl⟩ busOverpaid
    (System.mem_trace_of_run (Option.some_get _).symm)
  obtain ⟨l, hl, heq⟩ := Option.map_eq_some_iff.mp busOverpaid_last
  simp only [Prod.mk.injEq] at heq
  obtain ⟨hcap, hpc, hflip, hissues⟩ := heq
  rcases hacc 5 l hl ⟨_, hpc⟩ 56 hcap with ⟨j, hj⟩ | hconf | ⟨issue, hissue, -⟩
  · rw [busOverpaid_settledBy] at hj
    exact absurd hj (by simp)
  · exact absurd (hflip.symm.trans hconf) Bool.false_ne_true
  · rw [hissues] at hissue
    exact absurd hissue List.not_mem_nil

end TransHub
