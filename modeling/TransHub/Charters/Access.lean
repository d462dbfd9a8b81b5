import TransHub.Charters.Api
import TransHub.Listings.Isolation

/-!
# Who reaches a charter

A charter is changed, and its contents are returned, on behalf of its own passenger or of
an admin.  The route of a single charter lets operators and drivers read it too.

* `Requested`: the requester's check of a call, as a fact about the row.
* `Holds`, `step_holds`, `exec_holds`: a call that has passed its check keeps working on a
  charter that meets it.
* `Permitted`, `handle_guarded`, `charters_guarded`.
-/

namespace TransHub
namespace CharterApi

open Listings

/-! ## The requester's check -/

/-- The requester of the call passes its check on this charter. -/
def Requested (op : CharterOp) (c : Charter) : Prop :=
  match op with
  | .write w => w.checkRequester c = .ok ()
  | .initiatePayment userId | .verifyPayment userId => c.passengerId = userId
  | .webhook _ => True

/-- The check reads the passenger of the charter and nothing else. -/
theorem Requested.congr {op : CharterOp} {c c' : Charter} (h : Requested op c)
    (hid : c'.passengerId = c.passengerId) : Requested op c' := by
  cases op with
  | write w =>
    have hcheck : w.checkRequester c = .ok () := h
    show w.checkRequester c' = .ok ()
    rw [← hcheck]
    cases w <;> simp only [CharterWrite.checkRequester, Charters.checkOwner, hid]
  | initiatePayment userId => exact hid.trans h
  | webhook body => trivial
  | verifyPayment userId => exact hid.trans h

/-- A check that passes has passed the requester. -/
theorem requested_of_check {w : CharterWrite} {row : Option Charter} {c : Charter}
    (h : w.check row = .ok c) : Requested (.write w) c := by
  obtain ⟨c', -, h⟩ := bind_eq_ok.mp h
  obtain ⟨_, hcheck, h⟩ := bind_eq_ok.mp h
  obtain ⟨_, -, h⟩ := bind_eq_ok.mp h
  cases h
  exact hcheck

theorem requested_of_initiate {userId : UserId} {row : Option Charter} {c : Charter}
    (h : CharterProc.checkInitiate userId row = .ok c) :
    row = some c ∧ Requested (.initiatePayment userId) c := by
  obtain ⟨c', hrow, h⟩ := bind_eq_ok.mp h
  obtain ⟨_, howner, h⟩ := bind_eq_ok.mp h
  obtain ⟨_, -, h⟩ := bind_eq_ok.mp h
  obtain ⟨_, -, h⟩ := bind_eq_ok.mp h
  cases h
  exact ⟨orThrow_eq_ok.mp hrow, beq_iff_eq.mp (ensure_eq_ok.mp howner)⟩

/-! ## Writes keep the passenger -/

@[simp] theorem write_passengerId (w : CharterWrite) (now : Time) (c : Charter) :
    (w.write now c).passengerId = c.passengerId := by
  cases w <;> rfl

@[simp] theorem write_id (w : CharterWrite) (now : Time) (c : Charter) :
    (w.write now c).id = c.id := by
  cases w <;> rfl

/-- Two states of the stored row, of one charter. -/
def SameCharter (row row' : Option Charter) : Prop :=
  (row' = none → row = none) ∧
    ∀ c', row' = some c' → ∃ c, row = some c ∧ c'.id = c.id ∧ c'.passengerId = c.passengerId

theorem SameCharter.refl (row : Option Charter) : SameCharter row row :=
  ⟨fun h => h, fun c hc => ⟨c, hc, rfl, rfl⟩⟩

theorem SameCharter.of_some {row : Option Charter} {c c' : Charter} (hrow : row = some c)
    (hid : c'.id = c.id) (hpassenger : c'.passengerId = c.passengerId) :
    SameCharter row (some c') := by
  refine ⟨by simp, ?_⟩
  rintro _ ⟨⟩
  exact ⟨c, hrow, hid, hpassenger⟩

/-- A step of a call changes neither the id nor the passenger of the row, and changes the
row only in the statements that `wrote` names. -/
theorem step_same {id : CharterId} {i : ℕ} {l l' : CharterProc} {r r' : CharterDB}
    {x : CharterInput} (h : l.step id i r x = some (l', r')) :
    SameCharter r.row r'.row ∧ (wrote l'.pc = false → r'.row = r.row) := by
  have heffect := CharterProc.step_effect h
  cases heffect with
  | write w charter c hpc hfault hrow =>
    exact ⟨.of_some hrow (write_id w x.now c) (write_passengerId w x.now c),
      by simp [wrote, CharterProc.finish]⟩
  | setPaymentRef reference c hpc hrow =>
    exact ⟨.of_some hrow rfl rfl, by simp [wrote, CharterProc.finish]⟩
  | confirm d charter price caller c hpc hrow hpaid hst =>
    exact ⟨.of_some hrow rfl rfl, by simp [wrote]⟩
  | _ => exact ⟨.refl _, fun _ => rfl⟩

/-! ## A call keeps to what it has checked -/

/-- The charter that a call may still return. -/
def seen : CharterPc → Option Charter
  | .lookup charter _ | .reread charter => some charter
  | .find _ caller | .confirm _ _ _ caller | .notify _ _ caller => caller
  | .done (.returned charter) | .done (.verified _ charter) => some charter
  | _ => none

/-- The places before the requester has been checked, and after the last statement. -/
def outside : CharterPc → Bool
  | .start | .done _ => true
  | _ => false

/-- **What a call has checked.**  Past its check the row meets the check, and so does the
charter that it remembers. -/
structure Holds (op : CharterOp) (pc : CharterPc) (row : Option Charter) : Prop where
  row : outside pc = false → ∀ c, row = some c → Requested op c
  seen : ∀ c, seen pc = some c → Requested op c
  write : ∀ w c, pc = .write w c → op = .write w

theorem Holds.of_start {op : CharterOp} {row : Option Charter} : Holds op .start row :=
  ⟨by simp [outside], by simp [CharterApi.seen], by simp⟩

theorem Holds.of_thrown {op : CharterOp} {e : Thrown} {row : Option Charter} :
    Holds op (.done (.thrown e)) row :=
  ⟨by simp [outside], by simp [CharterApi.seen], by simp⟩

theorem Holds.of_returned {op : CharterOp} {c : Charter} {row : Option Charter}
    (h : Requested op c) : Holds op (.done (.returned c)) row :=
  ⟨by simp [outside], by simpa [CharterApi.seen] using h, by simp⟩

theorem Holds.of_verified {op : CharterOp} {state : TxState} {c : Charter} {row : Option Charter}
    (h : Requested op c) : Holds op (.done (.verified state c)) row :=
  ⟨by simp [outside], by simpa [CharterApi.seen] using h, by simp⟩

theorem Holds.of_payment {op : CharterOp} {reference : Ref} {row : Option Charter} :
    Holds op (.done (.payment reference)) row :=
  ⟨by simp [outside], by simp [CharterApi.seen], by simp⟩

/-- Going on, with the row checked and a charter that has been checked. -/
theorem Holds.of_inside {op : CharterOp} {pc : CharterPc} {row : Option Charter}
    (hrow : ∀ c, row = some c → Requested op c) (hseen : ∀ c, CharterApi.seen pc = some c →
      Requested op c) (hwrite : ∀ w c, pc ≠ .write w c) : Holds op pc row :=
  ⟨fun _ => hrow, hseen, fun w c hpc => absurd hpc (hwrite w c)⟩

section
variable {l : CharterProc} {r : CharterDB} {op : CharterOp}

/-- `processWebhookPayment` returns to its caller, or the listener ends. -/
theorem holds_returns {caller : Option Charter} (hrow : ∀ c, r.row = some c → Requested op c)
    (hcaller : ∀ c, caller = some c → Requested op c) :
    Holds op (l.returns caller).pc r.row := by
  cases caller with
  | none => exact ⟨by simp [CharterProc.returns, CharterProc.finish, outside],
      by simp [CharterProc.returns, CharterProc.finish, CharterApi.seen],
      by simp [CharterProc.returns, CharterProc.finish]⟩
  | some charter =>
    refine .of_inside hrow ?_ (by simp [CharterProc.returns, CharterProc.goto])
    intro c hc
    exact hcaller c (by simpa [CharterProc.returns, CharterProc.goto, CharterApi.seen] using hc)

theorem holds_throws {caller : Option Charter} {e : Thrown} :
    Holds op (l.throws caller e).pc r.row := by
  cases caller with
  | none => exact ⟨by simp [CharterProc.throws, CharterProc.finish, outside],
      by simp [CharterProc.throws, CharterProc.finish, CharterApi.seen],
      by simp [CharterProc.throws, CharterProc.finish]⟩
  | some charter => exact .of_thrown

theorem holds_verifyStart {userId : UserId} :
    Holds (.verifyPayment userId) (l.verifyStart userId r.row).pc r.row := by
  unfold CharterProc.verifyStart
  split
  · exact .of_thrown
  · next charter hrow =>
    split
    · exact .of_thrown
    · next howner =>
      have hreq : Requested (.verifyPayment userId) charter := not_not.mp howner
      split
      · exact .of_verified hreq
      · split
        · exact .of_verified hreq
        · split
          · exact .of_verified hreq
          · refine .of_inside ?_ ?_ (by simp [CharterProc.goto])
            · intro c hc
              rw [hrow] at hc
              cases hc
              exact hreq
            · intro c hc
              cases hc
              exact hreq

theorem holds_lookedUp {charter : Charter} {reference : Ref} {now : Time}
    (answer : Except ProviderFailure (Option VerifiedTransaction))
    (hrow : ∀ c, r.row = some c → Requested op c) (hreq : Requested op charter) :
    Holds op (l.lookedUp charter reference now answer).pc r.row := by
  unfold CharterProc.lookedUp
  split
  · exact .of_thrown
  · exact .of_verified hreq
  · split
    · exact .of_verified hreq
    · exact .of_verified hreq
    · refine .of_inside hrow ?_ (by simp)
      intro c hc
      cases hc
      exact hreq

theorem holds_checkCharge {d : CharterCharge} {caller : Option Charter}
    (hrow : ∀ c, r.row = some c → Requested op c)
    (hcaller : ∀ c, caller = some c → Requested op c) :
    Holds op (l.checkCharge d caller r.row).pc r.row := by
  unfold CharterProc.checkCharge
  split
  · exact holds_returns hrow hcaller
  · split
    · exact holds_returns hrow hcaller
    · split
      · exact holds_returns hrow hcaller
      · dsimp only
        split
        · exact holds_returns hrow hcaller
        · exact .of_inside hrow hcaller (by simp [CharterProc.goto])

end

/-- **A step keeps it.** -/
theorem step_holds {id : CharterId} {i : ℕ} {l l' : CharterProc} {r r' : CharterDB}
    {x : CharterInput} (hl : Holds l.op l.pc r.row) (h : l.step id i r x = some (l', r')) :
    Holds l.op l'.pc r'.row := by
  have hrow := hl.row
  have hseen := hl.seen
  cases CharterProc.step_cases h with
  | failed => exact .of_thrown
  | route body hpc hop =>
    rw [hop]
    unfold CharterProc.route
    split
    · split
      · exact .of_inside (fun _ _ => trivial) (fun _ _ => trivial) (by simp)
      · exact ⟨by simp [CharterProc.finish, outside], fun _ _ => trivial,
          by simp [CharterProc.finish]⟩
    · exact ⟨by simp [CharterProc.finish, outside], fun _ _ => trivial,
        by simp [CharterProc.finish]⟩
  | check w hpc hop =>
    unfold CharterProc.after
    split
    · exact .of_thrown
    · next charter hcheck =>
      have hreq := requested_of_check hcheck
      refine ⟨?_, by simp [CharterProc.goto, CharterApi.seen], ?_⟩
      · intro _ c hc
        rw [(CharterWrite.check_ok hcheck).1] at hc
        cases hc
        rw [hop]
        exact hreq
      · intro w' c hpc
        cases hpc
        exact hop
  | initiate userId hpc hop =>
    unfold CharterProc.after
    split
    · exact .of_thrown
    · next charter hcheck =>
      obtain ⟨hcharter, hreq⟩ := requested_of_initiate hcheck
      refine .of_inside ?_ (by simp [CharterProc.goto, CharterApi.seen])
        (by simp [CharterProc.goto])
      intro c hc
      rw [hcharter] at hc
      cases hc
      rw [hop]
      exact hreq
  | verify userId hpc hop =>
    rw [hop]
    exact holds_verifyStart
  | write w charter c hpc hfault hc =>
    rw [hpc] at hrow
    exact .of_returned ((hrow rfl c hc).congr (write_passengerId w x.now c))
  | refused => exact .of_thrown
  | started charter reference hpc =>
    rw [hpc] at hrow
    exact .of_inside (hrow rfl) (by simp [CharterProc.goto, CharterApi.seen])
      (by simp [CharterProc.goto])
  | setPaymentRef => exact .of_payment
  | lookup charter reference hpc =>
    rw [hpc] at hrow hseen
    exact holds_lookedUp x.lookedUp (hrow rfl) (hseen charter rfl)
  | throws => exact holds_throws
  | find d caller hpc =>
    rw [hpc] at hrow hseen
    exact holds_checkCharge (hrow rfl) hseen
  | late d charter price caller hpc =>
    rw [hpc] at hrow hseen
    exact holds_returns (hrow rfl) hseen
  | confirm d charter price caller c hpc hfault hconf =>
    rw [hpc] at hrow hseen
    obtain ⟨c, hc, -, -, rfl⟩ := Charters.confirmPayment_eq_some.mp hconf
    refine .of_inside ?_ hseen (by simp)
    intro c' hc'
    cases hc'
    exact (hrow rfl c hc).congr rfl
  | notify charter price caller hpc =>
    rw [hpc] at hrow hseen
    exact holds_returns (hrow rfl) hseen
  | reread charter hpc =>
    rw [hpc] at hrow hseen
    refine .of_verified ?_
    cases hc : r.row with
    | none => exact hseen charter rfl
    | some c => exact hrow rfl c hc

/-! ## Calls on the table -/

/-- `charters_pkey`. -/
def Keyed (rows : List CharterRow) : Prop := (rows.map fun c => c.id).Nodup

theorem findById_eq_some {id : CharterId} {rows : List CharterRow} {c : CharterRow}
    (h : findById id rows = some c) : c ∈ rows ∧ c.id = id :=
  Table.mem_of_find? (k := fun c : CharterRow => c.id) h

/-- What a request may do to the table: rows outside `ok` stay as they are, and a row that is
new or changed lies in `ok`. -/
structure Confined (ok : CharterRow → Prop) (rows rows' : List CharterRow) : Prop where
  kept : ∀ c ∈ rows, c ∉ rows' → ok c
  added : ∀ c ∈ rows', c ∉ rows → ok c

theorem Confined.refl {ok : CharterRow → Prop} (rows : List CharterRow) : Confined ok rows rows :=
  ⟨fun _ hc hnot => absurd hc hnot, fun _ hc hnot => absurd hc hnot⟩

theorem Confined.trans {ok : CharterRow → Prop} {rows₁ rows₂ rows₃ : List CharterRow}
    (h₁ : Confined ok rows₁ rows₂) (h₂ : Confined ok rows₂ rows₃) : Confined ok rows₁ rows₃ := by
  constructor
  · intro c hc hnot
    by_cases hmid : c ∈ rows₂
    · exact h₂.kept c hmid hnot
    · exact h₁.kept c hc hmid
  · intro c hc hnot
    by_cases hmid : c ∈ rows₂
    · exact h₁.added c hmid hnot
    · exact h₂.added c hc hmid

/-- The rows of the charter `id` for which the call's requester passes. -/
def Served (op : CharterOp) (id : CharterId) (c : CharterRow) : Prop :=
  c.id = id ∧ Requested op c.toCharter

/-- A row of the table after `save`. -/
theorem mem_save {id : CharterId} {now : Time} {row : Option Charter} {rows : List CharterRow}
    {c : CharterRow} (hc : c ∈ save id now row rows) :
    c ∈ rows ∨ ∃ old ∈ rows, ∃ new, old.id = id ∧ row = some new ∧
      c = { old with toCharter := new, updatedAt := now } := by
  cases row with
  | none => exact Or.inl hc
  | some new =>
    obtain ⟨old, hold, hold'⟩ := Table.mem_updateMany.mp hc
    split at hold'
    · next hid => exact Or.inr ⟨old, hold, new, beq_iff_eq.mp hid, rfl, hold'.symm⟩
    · rw [← hold']
      exact Or.inl hold

theorem stored_of_mem {rows : List CharterRow} (hkeyed : Keyed rows) {c : CharterRow}
    (hc : c ∈ rows) : (stored c.id rows).row = some c.toCharter := by
  have hfind : findById c.id rows = some c := Table.find?_eq_some_of_mem hkeyed hc
  rw [stored, hfind]
  rfl

section
variable {id : CharterId} {x : CharterInput} {l l' : CharterProc} {r' : CharterDB}
  {rows : List CharterRow}

/-- An `UPDATE` writes the row of the charter, under its id and for its passenger. -/
theorem save_same (hkeyed : Keyed rows) (hsame : SameCharter (stored id rows).row r'.row)
    {old : CharterRow} (hold : old ∈ rows) (hid : old.id = id) {new : Charter}
    (hnew : r'.row = some new) : new.id = id ∧ new.passengerId = old.passengerId := by
  obtain ⟨c, hc, hcid, hpassenger⟩ := hsame.2 new hnew
  rw [← hid, stored_of_mem hkeyed hold] at hc
  cases hc
  exact ⟨hcid.trans hid, hpassenger⟩

/-- The next statement reads what the `UPDATE` has stored. -/
theorem stored_save (hsame : SameCharter (stored id rows).row r'.row) (now : Time) :
    (stored id (save id now r'.row rows)).row = r'.row := by
  cases hrow : r'.row with
  | none => exact hsame.1 hrow
  | some new =>
    obtain ⟨c, hc, hid, -⟩ := hsame.2 new hrow
    obtain ⟨old, hold, hc⟩ := Option.map_eq_some_iff.mp hc
    have holdid : old.id = id := (findById_eq_some hold).2
    have hnewid : new.id = id := by rw [hid, ← hc, holdid]
    have hcomp : (fun c : CharterRow => decide (c.id = id)) ∘ (fun c : CharterRow =>
        if c.id == id then { c with toCharter := new, updatedAt := now } else c) =
          fun c => decide (c.id = id) := by
      funext c
      show decide ((if c.id == id then { c with toCharter := new, updatedAt := now } else c).id =
        id) = _
      refine decide_eq_decide.mpr ?_
      split
      · next h => exact ⟨fun _ => beq_iff_eq.mp h, fun _ => hnewid⟩
      · exact Iff.rfl
    show (findById id (Table.updateMany _ _ rows)).map _ = _
    rw [findById, Table.updateMany, List.find?_map, hcomp]
    rw [findById] at hold
    rw [hold, Option.map_some, Option.map_some, if_pos (beq_iff_eq.mpr holdid)]

theorem keyed_save (hkeyed : Keyed rows) (hsame : SameCharter (stored id rows).row r'.row)
    (now : Time) : Keyed (save id now r'.row rows) := by
  cases hrow : r'.row with
  | none => exact hkeyed
  | some new =>
    have hid : ∀ old ∈ rows, (old.id == id) = true →
        ({ old with toCharter := new, updatedAt := now } : CharterRow).id = old.id := by
      intro old hold hid
      exact (save_same hkeyed hsame hold (beq_iff_eq.mp hid) hrow).1.trans (beq_iff_eq.mp hid).symm
    have hmap : (save id now (some new) rows).map (fun c => c.id) = rows.map fun c => c.id :=
      Table.map_updateMany hid
    rw [Keyed, hmap]
    exact hkeyed

theorem wrote_after (check : Except Thrown Charter) (k : Charter → CharterPc) :
    wrote (l.after check k).pc = true → ∃ charter, check = .ok charter ∧
      wrote (k charter) = true := by
  intro hwrote
  unfold CharterProc.after at hwrote
  split at hwrote
  · exact absurd hwrote Bool.false_ne_true
  · next charter => exact ⟨charter, rfl, hwrote⟩

theorem wrote_verifyStart (userId : UserId) (row : Option Charter) :
    wrote (l.verifyStart userId row).pc = false := by
  unfold CharterProc.verifyStart
  split
  · rfl
  · next charter =>
    by_cases hother : charter.passengerId ≠ userId
    · rw [if_pos hother]
      rfl
    rw [if_neg hother]
    by_cases hsettled : Charters.settled charter = true
    · rw [if_pos hsettled]
      rfl
    rw [if_neg hsettled]
    cases charter.paymentRef with
    | none => rfl
    | some reference =>
      show wrote (if charter.status ≠ .awaitingPayment then
        l.finish (.verified .pending charter) else l.goto (.lookup charter reference)).pc = false
      split <;> rfl

theorem wrote_route (charterId : CharterId) (now : Time) (body : WebhookBody) :
    wrote (l.route charterId now body).pc = false := by
  unfold CharterProc.route
  split
  · split <;> rfl
  · rfl

/-- Only the places past the check are followed by an `UPDATE`. -/
theorem outside_of_wrote {i : ℕ} (h : l.step id i (stored id rows) x = some (l', r'))
    (hwrote : wrote l'.pc = true) : outside l.pc = false := by
  cases CharterProc.step_cases h with
  | route => exact absurd ((wrote_route _ _ _).symm.trans hwrote) Bool.false_ne_true
  | check | initiate =>
    obtain ⟨charter, -, hnext⟩ := wrote_after _ _ hwrote
    exact absurd hnext Bool.false_ne_true
  | verify => exact absurd ((wrote_verifyStart _ _).symm.trans hwrote) Bool.false_ne_true
  | write w charter c hpc => rw [hpc]; rfl
  | started charter reference hpc => rw [hpc]; rfl
  | setPaymentRef reference c hpc => rw [hpc]; rfl
  | lookup charter reference hpc => rw [hpc]; rfl
  | find d caller hpc => rw [hpc]; rfl
  | late d charter price caller hpc => rw [hpc]; rfl
  | confirm d charter price caller c hpc => rw [hpc]; rfl
  | notify charter price caller hpc => rw [hpc]; rfl
  | throws caller => cases caller <;> exact absurd hwrote Bool.false_ne_true
  | failed | refused | reread => exact absurd hwrote Bool.false_ne_true

/-- **A call confines itself to its charter.**  Every row that it changes is the charter it is
about, for which its requester has passed the check; so is the charter that it returns. -/
theorem exec_confined (xs : List CharterInput) (hkeyed : Keyed rows)
    (hl : Holds l.op l.pc (stored id rows).row) :
    Keyed (exec id xs l rows).2 ∧ Confined (Served l.op id) rows (exec id xs l rows).2 ∧
      Holds l.op (exec id xs l rows).1.pc (stored id (exec id xs l rows).2).row := by
  induction xs generalizing l rows with
  | nil => exact ⟨hkeyed, .refl rows, hl⟩
  | cons x xs ih =>
    rw [exec]
    split
    · exact ⟨hkeyed, .refl rows, hl⟩
    · next l₁ r₁ hstep =>
      obtain ⟨hsame, hkeep⟩ := step_same hstep
      have hl₁ : Holds l₁.op l₁.pc r₁.row := by
        rw [CharterProc.step_op hstep]
        exact step_holds hl hstep
      cases hwrote : wrote l₁.pc with
      | false =>
        rw [hkeep hwrote] at hl₁
        rw [← CharterProc.step_op hstep]
        exact ih hkeyed hl₁
      | true =>
        have hout := outside_of_wrote hstep hwrote
        have hconfined : Confined (Served l.op id) rows (save id x.now r₁.row rows) := by
          constructor
          · intro c hc hnot
            have hid : c.id = id := by
              by_contra hne
              cases hrow : r₁.row with
              | none => exact hnot (by rw [hrow]; exact hc)
              | some new =>
                rw [hrow] at hnot
                exact hnot (Table.mem_updateMany_of_not hc (by simpa using hne))
            refine ⟨hid, hl.row hout _ ?_⟩
            rw [← hid]
            exact stored_of_mem hkeyed hc
          · intro c hc hnot
            rcases mem_save hc with hmem | ⟨old, hold, new, hid, hnew, hc⟩
            · exact absurd hmem hnot
            · obtain ⟨hnewid, hpassenger⟩ := save_same hkeyed hsame hold hid hnew
              have hreq : Requested l.op old.toCharter := by
                refine hl.row hout _ ?_
                rw [← hid]
                exact stored_of_mem hkeyed hold
              rw [hc]
              exact ⟨hnewid, hreq.congr hpassenger⟩
        rw [← stored_save hsame x.now] at hl₁
        rw [← CharterProc.step_op hstep] at hconfined ⊢
        obtain ⟨hkeyed', hconfined', hl'⟩ := ih (keyed_save hkeyed hsame x.now) hl₁
        exact ⟨hkeyed', hconfined.trans hconfined', hl'⟩

end

/-! ## Requests -/

/-- The charter's own passenger, or an admin. -/
def Permitted (user : AuthUser) (c : CharterRow) : Prop :=
  user.role = .admin ∨ (user.role = .passenger ∧ c.passengerId = user.id)

instance (user : AuthUser) (c : CharterRow) : Decidable (Permitted user c) :=
  inferInstanceAs (Decidable (_ ∨ _))

/-- The requester is neither a passenger nor an admin. -/
def Staff (user : AuthUser) : Prop := user.role = .operator ∨ user.role = .driver

instance (user : AuthUser) : Decidable (Staff user) := inferInstanceAs (Decidable (_ ∨ _))

/-- A cancellation by an operator or a driver, which no guard refuses. -/
def StaffCancels (user : AuthUser) (endpoint : Endpoint) : Prop :=
  (∃ id, endpoint = .cancelCharter id) ∧ Staff user

/-- The answer to one request returns only charters in `ok`. -/
def Shows (ok : CharterRow → Prop) (answer : Option (Except Thrown CharterResponse)) : Prop :=
  ∀ response, answer = some (.ok response) → ∀ c ∈ response.shows, ok c

theorem view_passengerId (user : AuthUser) (c : CharterRow) (endpoint : Endpoint) :
    (endpoint.view user c).passengerId = c.passengerId := by
  cases endpoint <;> simp only [Endpoint.view] <;> try rfl
  all_goals split <;> rfl

/-- A guard that lets a request through has seen the role that it asks for. -/
theorem permitted_of_requested {user : AuthUser} {endpoint : Endpoint} {id : CharterId}
    {op : CharterOp} {c : CharterRow} (hguard : endpoint.guard user = .ok ())
    (hcall : endpoint.call user = some (id, op)) (hnot : ¬ StaffCancels user endpoint)
    (hreq : Requested op c.toCharter) : Permitted user c := by
  have hadmin : requireRole [.admin] user = .ok () → Permitted user c := by
    intro h
    exact Or.inl (List.mem_singleton.mp (requireRole_eq_ok.mp h))
  have hown : requireRole [.passenger] user = .ok () → c.passengerId = user.id →
      Permitted user c := by
    intro h hid
    exact Or.inr ⟨List.mem_singleton.mp (requireRole_eq_ok.mp h), hid⟩
  cases endpoint with
  | createCharter data => exact absurd hcall (by simp [Endpoint.call])
  | listMyCharters filter pagination => exact absurd hcall (by simp [Endpoint.call])
  | listAllCharters filter pagination => exact absurd hcall (by simp [Endpoint.call])
  | getCharter id => exact absurd hcall (by simp [Endpoint.call])
  | sendQuote id data => exact hadmin hguard
  | adminConfirmBooking id data => exact hadmin hguard
  | completeCharter id => exact hadmin hguard
  | acceptQuote id =>
    cases hcall
    exact hown hguard (beq_iff_eq.mp (ensure_eq_ok.mp hreq))
  | rejectQuote id =>
    cases hcall
    exact hown hguard (beq_iff_eq.mp (ensure_eq_ok.mp hreq))
  | initiatePayment id =>
    cases hcall
    exact hown hguard hreq
  | verifyPayment id =>
    cases hcall
    exact hown hguard hreq
  | cancelCharter id =>
    cases hcall
    have hcheck := ensure_eq_ok.mp hreq
    cases hrole : user.role with
    | admin => exact Or.inl hrole
    | passenger =>
      refine Or.inr ⟨hrole, ?_⟩
      simpa [hrole] using hcheck
    | operator => exact absurd ⟨⟨id, rfl⟩, Or.inl hrole⟩ hnot
    | driver => exact absurd ⟨⟨id, rfl⟩, Or.inr hrole⟩ hnot

/-- The response to a call shows a charter that meets the requester's check. -/
theorem response_shows {user : AuthUser} {endpoint : Endpoint} {id : CharterId} {op : CharterOp}
    {pc : CharterPc} {row : Option Charter} {rows : List CharterRow} (hl : Holds op pc row) :
    Shows (fun c => ∃ c₀ : Charter, Requested op c₀ ∧ c.passengerId = c₀.passengerId)
      (endpoint.response user id rows pc) := by
  have hwhole : ∀ c row', seen pc = some c → whole id c rows = some row' →
      ∃ c₀ : Charter, Requested op c₀ ∧ (endpoint.view user row').passengerId = c₀.passengerId := by
    intro c row' hc hrow'
    obtain ⟨stored, -, hrow'⟩ := Option.map_eq_some_iff.mp hrow'
    refine ⟨c, hl.seen c hc, ?_⟩
    rw [view_passengerId, ← hrow']
  intro response hresponse shown hshown
  unfold Endpoint.response at hresponse
  split at hresponse
  · next c =>
    obtain ⟨row', hrow', heq⟩ := Option.map_eq_some_iff.mp hresponse
    cases heq
    rw [List.mem_singleton.mp hshown]
    exact hwhole c row' rfl hrow'
  · next state c =>
    obtain ⟨row', hrow', heq⟩ := Option.map_eq_some_iff.mp hresponse
    cases heq
    rw [List.mem_singleton.mp hshown]
    exact hwhole c row' rfl hrow'
  · cases hresponse
    exact absurd hshown (by simp [CharterResponse.shows])
  · exact absurd hresponse (by simp)
  · exact absurd hresponse (by simp)

/-- A passenger's own request adds a charter of its own. -/
theorem requestCharter_ok {passengerId : UserId} {data : CreateCharterInput} {x : ApiInput}
    {rows rows' : List CharterRow} {row : CharterRow} (hkeyed : Keyed rows)
    (h : requestCharter passengerId data x rows = .ok (row, rows')) :
    row.passengerId = passengerId ∧ rows' = rows ++ [row] ∧ Keyed rows' := by
  obtain ⟨_, -, h⟩ := bind_eq_ok.mp h
  obtain ⟨_, -, h⟩ := bind_eq_ok.mp h
  obtain ⟨_, -, h⟩ := bind_eq_ok.mp h
  obtain ⟨rows₁, hrows₁, h⟩ := bind_eq_ok.mp h
  cases h
  obtain ⟨hclash, rfl⟩ := Table.insert_eq_some.mp (orThrow_eq_ok.mp hrows₁)
  refine ⟨rfl, rfl, ?_⟩
  rw [Keyed, List.map_append, List.nodup_append]
  refine ⟨hkeyed, List.nodup_singleton _, ?_⟩
  intro id hid id' hid' heq
  obtain ⟨c, hc, rfl⟩ := List.mem_map.mp hid
  rw [List.map_singleton, List.mem_singleton] at hid'
  have hne := hclash c hc
  simp [clash, heq, hid'] at hne

section
variable {text : SearchText} {user : AuthUser} {x : ApiInput} {rows : List CharterRow}

/-- A call on one charter. -/
theorem call_guarded {endpoint : Endpoint} {id : CharterId} {op : CharterOp} (hkeyed : Keyed rows)
    (hguard : endpoint.guard user = .ok ()) (hcall : endpoint.call user = some (id, op)) :
    Keyed (exec id x.statements { op } rows).2 ∧ (¬ StaffCancels user endpoint →
      Confined (Permitted user) rows (exec id x.statements { op } rows).2 ∧
        Shows (Permitted user) (endpoint.response user id (exec id x.statements { op } rows).2
          (exec id x.statements { op } rows).1.pc)) := by
  obtain ⟨hkeyed', hconfined, hl⟩ := exec_confined x.statements (l := { op }) hkeyed .of_start
  refine ⟨hkeyed', ?_⟩
  intro hnot
  have hserved : ∀ c, Served op id c → Permitted user c :=
    fun c hc => permitted_of_requested hguard hcall hnot hc.2
  refine ⟨⟨fun c hc hgone => hserved c (hconfined.kept c hc hgone),
    fun c hc hnew => hserved c (hconfined.added c hc hnew)⟩, ?_⟩
  intro response hresponse c hc
  obtain ⟨c₀, hreq, hpassenger⟩ := response_shows hl response hresponse c hc
  exact permitted_of_requested hguard hcall hnot (hreq.congr hpassenger)

/-- What the route of a single charter lets operators and drivers do. -/
def StaffReads (user : AuthUser) (endpoint : Endpoint) : Prop :=
  (∃ id, endpoint = .getCharter id) ∧ Staff user

/-- **One request.**  Cancellations by operators and drivers apart, it changes charters of its
requester only, unless that is an admin, and returns none but these, save that operators and
drivers may read one charter. -/
theorem serve_guarded {endpoint : Endpoint} (hkeyed : Keyed rows)
    (hguard : endpoint.guard user = .ok ()) :
    Keyed (serve text user endpoint x rows).2 ∧ (¬ StaffCancels user endpoint →
      Confined (Permitted user) rows (serve text user endpoint x rows).2 ∧
        Shows (fun c => Permitted user c ∨ StaffReads user endpoint)
          (serve text user endpoint x rows).1) := by
  cases endpoint with
  | createCharter data =>
    have hrole : user.role = .passenger := List.mem_singleton.mp (requireRole_eq_ok.mp hguard)
    simp only [serve]
    split
    · refine ⟨hkeyed, fun _ => ⟨.refl rows, ?_⟩⟩
      intro response hresponse
      exact absurd hresponse (by simp)
    · split
      · refine ⟨hkeyed, fun _ => ⟨.refl rows, ?_⟩⟩
        intro response hresponse
        exact absurd hresponse (by simp)
      · next row rows' hrequest =>
        obtain ⟨hpassenger, hrows, hkeyed'⟩ := requestCharter_ok hkeyed hrequest
        have hown : Permitted user row := Or.inr ⟨hrole, hpassenger⟩
        refine ⟨hkeyed', fun _ => ⟨⟨?_, ?_⟩, ?_⟩⟩
        · intro c hc hgone
          exact absurd (by rw [hrows]; exact List.mem_append_left _ hc) hgone
        · intro c hc hnew
          rw [hrows] at hc
          rcases List.mem_append.mp hc with hc | hc
          · exact absurd hc hnew
          · rw [List.mem_singleton.mp hc]
            exact hown
        · intro response hresponse c hc
          cases hresponse
          rw [List.mem_singleton.mp hc]
          exact Or.inl (Or.inr ⟨hrole, hpassenger⟩)
  | listMyCharters filter pagination =>
    have hrole : user.role = .passenger := List.mem_singleton.mp (requireRole_eq_ok.mp hguard)
    refine ⟨hkeyed, fun _ => ⟨.refl rows, ?_⟩⟩
    intro response hresponse c hc
    obtain ⟨_, -, hresponse⟩ := bind_eq_ok.mp (Option.some.inj hresponse)
    obtain ⟨listed, hlisted, hresponse⟩ := bind_eq_ok.mp hresponse
    cases hresponse
    obtain ⟨row, -, hpassenger, hview⟩ := listed_within
      (fun row hrow => charterWhere_passenger hrow) hlisted c hc
    rw [← hview]
    exact Or.inl (Or.inr ⟨hrole, beq_iff_eq.mp hpassenger⟩)
  | listAllCharters filter pagination =>
    have hrole : user.role = .admin := List.mem_singleton.mp (requireRole_eq_ok.mp hguard)
    refine ⟨hkeyed, fun _ => ⟨.refl rows, ?_⟩⟩
    intro response _ c _
    exact Or.inl (Or.inl hrole)
  | getCharter id =>
    refine ⟨hkeyed, fun _ => ⟨.refl rows, ?_⟩⟩
    intro response hresponse c hc
    obtain ⟨charter, hcharter, hresponse⟩ := bind_eq_ok.mp (Option.some.inj hresponse)
    cases hresponse
    obtain ⟨_, -, hcharter⟩ := bind_eq_ok.mp hcharter
    obtain ⟨charter', -, hcharter⟩ := bind_eq_ok.mp hcharter
    obtain ⟨_, hcheck, hcharter⟩ := bind_eq_ok.mp hcharter
    cases hcharter
    have hcheck := ensure_eq_ok.mp hcheck
    rw [List.mem_singleton.mp hc]
    cases hrole : user.role with
    | admin => exact Or.inl (Or.inl hrole)
    | passenger =>
      refine Or.inl (Or.inr ⟨hrole, ?_⟩)
      rw [view_passengerId]
      simpa [hrole] using hcheck
    | operator => exact Or.inr ⟨⟨id, rfl⟩, Or.inl hrole⟩
    | driver => exact Or.inr ⟨⟨id, rfl⟩, Or.inr hrole⟩
  | _ =>
    obtain ⟨hkeyed', hrest⟩ := call_guarded (x := x) hkeyed hguard rfl
    refine ⟨hkeyed', ?_⟩
    intro hnot
    obtain ⟨hconfined, hshows⟩ := hrest hnot
    exact ⟨hconfined, fun response hresponse c hc => Or.inl (hshows response hresponse c hc)⟩

/-- A request that its guard refuses does and shows nothing. -/
theorem handle_guarded (hkeyed : Keyed rows) (endpoint : Endpoint) :
    Keyed (handle text user endpoint x rows).2 ∧ (¬ StaffCancels user endpoint →
      Confined (Permitted user) rows (handle text user endpoint x rows).2 ∧
        Shows (fun c => Permitted user c ∨ StaffReads user endpoint)
          (handle text user endpoint x rows).1) := by
  unfold handle
  split
  · refine ⟨hkeyed, fun _ => ⟨.refl rows, ?_⟩⟩
    intro response hresponse
    exact absurd hresponse (by simp)
  · next hguard => exact serve_guarded hkeyed hguard

end

/-! ## Sequences of requests -/

/-- What the act may do: a request changes and returns charters of its requester only, or any
as an admin. -/
def ApiAct.OwnerOnly (text : SearchText) (rows : List CharterRow) : ApiAct → Prop
  | .request user endpoint x =>
      Confined (Permitted user) rows (handle text user endpoint x rows).2 ∧
        Shows (Permitted user) (handle text user endpoint x rows).1
  | .webhook _ _ _ => True

/-- The same, where the single-charter route returns charters to operators and drivers too, and
where nothing is said of the cancellations that these ask for. -/
def ApiAct.Guarded (text : SearchText) (rows : List CharterRow) : ApiAct → Prop
  | .request user endpoint x => ¬ StaffCancels user endpoint →
      Confined (Permitted user) rows (handle text user endpoint x rows).2 ∧
        Shows (fun c => Permitted user c ∨ StaffReads user endpoint)
          (handle text user endpoint x rows).1
  | .webhook _ _ _ => True

theorem after_keyed {text : SearchText} {rows : List CharterRow} (hkeyed : Keyed rows)
    (act : ApiAct) : Keyed (after text rows act) := by
  cases act with
  | request user endpoint x => exact (handle_guarded hkeyed endpoint).1
  | webhook id body statements =>
    exact (exec_confined statements (l := { op := .webhook body }) hkeyed .of_start).1

theorem allSteps_guarded (text : SearchText) {rows : List CharterRow} (hkeyed : Keyed rows)
    (acts : List ApiAct) :
    (charterApi text).AllSteps (fun rows act => act.Guarded text rows) rows acts := by
  induction acts generalizing rows with
  | nil => trivial
  | cons act acts ih =>
    refine ⟨?_, ?_⟩
    · cases act with
      | request user endpoint x => exact (handle_guarded hkeyed endpoint).2
      | webhook id body statements => trivial
    · rintro _ ⟨⟩
      exact ih (after_keyed hkeyed act)

/-- **Access to charters.**  In every sequence of requests and payment webhooks, a request
changes a charter, or returns its contents, only for the charter's own passenger or for an
admin.  The route of a single charter also returns it to operators and drivers; the
cancellations that these ask for are left out. -/
theorem charters_guarded (text : SearchText) (acts : List ApiAct) :
    (charterApi text).AllSteps (fun rows act => act.Guarded text rows) [] acts := by
  have hempty : Keyed [] := List.nodup_nil
  exact allSteps_guarded text hempty acts

/-! ## An operator reads a customer's charter -/

/-- A passenger, and the account of an operator. -/
def bola : AuthUser := ⟨8, .passenger, none⟩

def metro : AuthUser := ⟨9, .operator, some 2⟩

/-- The passenger's account, and the request that it makes. -/
def bolaInput : ApiInput :=
  { newId := 1, referenceNo := "CHR-20260601-A3F2B1",
    account := ⟨8, "Bola Ade", "bola@mail.ng", "+2348000000002"⟩ }

def weddingTrip : CreateCharterInput :=
  { vehicleType := "coaster", fromLocation := "Lagos", toLocation := "Ibadan",
    departureAt := 172800000, passengerCount := 20 }

/-- The charter table with the passenger's one charter. -/
def oneCharter : List CharterRow := [createRow 8 weddingTrip bolaInput]

theorem charter_requested :
    after plainText [] (.request bola (.createCharter weddingTrip) bolaInput) = oneCharter := by
  decide +kernel

/-- The operator's request for it. -/
def metroReads : ApiAct := .request metro (.getCharter 1) bolaInput

theorem metro_shown :
    (handle plainText metro (.getCharter 1) bolaInput oneCharter).1 =
      some (.ok (.charter (createRow 8 weddingTrip bolaInput))) := by
  rfl

/-- A passenger requests a charter, and an operator that has nothing to do with it reads it. -/
theorem charter_read_by_operator :
    ¬ ∀ (text : SearchText) (acts : List ApiAct),
      (charterApi text).AllSteps (fun rows act => act.OwnerOnly text rows) [] acts := by
  intro h
  have hsteps := h plainText [.request bola (.createCharter weddingTrip) bolaInput, metroReads]
  have hread : metroReads.OwnerOnly plainText oneCharter := by
    have htail := hsteps.2 oneCharter (congrArg some charter_requested)
    exact htail.1
  have hpermitted := hread.2 _ metro_shown _ (List.mem_singleton_self _)
  exact absurd hpermitted (by decide)

end CharterApi
end TransHub
