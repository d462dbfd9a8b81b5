import TransHub.Foundation.Machine
import TransHub.Ledger.SkipLocked

/-!
# When concurrent holds conserve work

A hold that is refused has passed over every seat that it could not lock.  As long as none
of these is given back afterwards, by a hold that is refused in its turn or by one that gives
up seats of an earlier hold, no more seats remain than it had locked.  Nothing in
`claimSeats` sees to that: holds for several seats can pass over each other's locks until all
of them are refused.

* `WorkConserving`, `StepsAside`: the property, and the condition on steps.
* `Inv`, `inv_step`: what passing over a seat says about it.
* `holds_work_conserving`, `all_five_refused`.
-/

namespace TransHub
namespace SkipLocked

open Inventory

/-! ## The property and the condition -/

def HoldPc.ended : HoldPc → Bool
  | held _ | refused _ => true
  | start | claim _ | scan _ _ _ => false

/-- The call has thrown `InsufficientSeatsError`. -/
def HoldPc.insufficient : HoldPc → Bool
  | refused _ => true
  | start | claim _ | scan _ _ _ | held _ => false

/-- The seats of a trip that remain available. -/
def available (tripId : TripId) (seats : List Seat) : ℕ := seats.countP (claimable tripId)

/-- When all holds have ended, each one that was refused asked for more seats than remain
available. -/
def WorkConserving (c : HoldState) : Prop :=
  (∀ l ∈ c.holds, l.pc.ended = true) → ∀ l ∈ c.holds, l.pc.insufficient = true →
    available l.input.tripId c.seats < l.input.quantity

instance (c : HoldState) : Decidable (WorkConserving c) :=
  inferInstanceAs (Decidable ((∀ l ∈ c.holds, _) → ∀ l ∈ c.holds, _ → _))

/-- The hold has been refused, or is still short of seats, and will not visit this one (again). -/
def Hold.passedOver (l : Hold) (s : SeatId) : Bool :=
  match l.pc with
  | .scan _ todo got => got.length < l.input.quantity && !todo.contains s && !got.contains s
  | .refused got => !got.contains s
  | .start | .claim _ | .held _ => false

/-- The seats that the next step of the hold leaves available and unlocked: those of an
earlier hold that it does not take again, or those that it had locked when it is refused. -/
def Hold.givesBack (l : Hold) : List SeatId :=
  match l.pc with
  | .scan released todo got =>
      if l.input.quantity ≤ got.length then released.filter fun s => !got.contains s
      else if todo.isEmpty then got.filter fun s => !released.contains s
      else []
  | .start | .claim _ | .held _ | .refused _ => []

/-- The next step of `l` gives back a seat of the trip of `l'` that `l'` has passed over. -/
def Overlooks (seats : List Seat) (l l' : Hold) : Prop :=
  ∃ row ∈ seats, row.tripId = l'.input.tripId ∧ row.id ∈ l.givesBack ∧
    l'.passedOver row.id = true

instance (seats : List Seat) (l l' : Hold) : Decidable (Overlooks seats l l') :=
  inferInstanceAs (Decidable (∃ row ∈ seats, _ ∧ _ ∧ _))

/-- Hold `i` gives back no seat that another hold on its trip has passed over. -/
def StepsAside (c : HoldState) (i : ℕ) : Prop :=
  ∀ l ∈ c.holds[i]?, ∀ j < c.holds.length, j ≠ i → ∀ l' ∈ c.holds[j]?, ¬ Overlooks c.seats l l'

instance (c : HoldState) (i : ℕ) : Decidable (StepsAside c i) :=
  inferInstanceAs (Decidable (∀ l ∈ c.holds[i]?, ∀ j < c.holds.length, _ → ∀ l' ∈ c.holds[j]?, _))

/-! ## The invariant -/

/-- The seat is not available, or another transaction has locked it. -/
def Taken (i : ℕ) (l : Hold) (locks : Locks SeatId ℕ) (row : Seat) : Prop :=
  claimable l.input.tripId row = false ∨ ∃ j, j ≠ i ∧ locks row.id = some j

/-- **What holds between steps.**  A hold finds taken what it has passed over. -/
structure Inv (c : HoldState) : Prop where
  ids : (c.seats.map Seat.id).Nodup
  locks : ∀ (s : SeatId) (k : ℕ), c.locks s = some k ↔
    ∃ l : Hold, c.holds[k]? = some l ∧ s ∈ l.pc.locked
  released : ∀ (k : ℕ) (l : Hold), c.holds[k]? = some l → ∀ row ∈ c.seats, row.id ∈ l.pc.released →
    row.status ≠ .available
  passed : ∀ (k : ℕ) (l : Hold), c.holds[k]? = some l → ∀ row ∈ c.seats,
    l.passedOver row.id = true → Taken k l c.locks row
  short : ∀ (k : ℕ) (l : Hold) (got : List SeatId), c.holds[k]? = some l → l.pc = .refused got →
    got.length < l.input.quantity

theorem inv_init {c : HoldState} (h : concurrentHolds.init c) : Inv c := by
  obtain ⟨hids, hlocks, -, hstart⟩ := h
  have hpc : ∀ (k : ℕ) (l : Hold), c.holds[k]? = some l → l.pc = .start :=
    fun k l hl => hstart l (List.mem_of_getElem? hl)
  refine ⟨hids, ?_, ?_, ?_, ?_⟩
  · intro s k
    rw [hlocks]
    constructor
    · exact fun h => absurd h (by simp [Locks.empty])
    · rintro ⟨l, hl, hs⟩
      rw [hpc k l hl] at hs
      exact absurd hs (by simp [HoldPc.locked])
  · intro k l hl row _ hrow
    rw [hpc k l hl] at hrow
    exact absurd hrow (by simp [HoldPc.released])
  · intro k l hl row _ hrow
    rw [Hold.passedOver, hpc k l hl] at hrow
    exact absurd hrow (by simp)
  · intro k l got hl hgot
    rw [hpc k l hl] at hgot
    exact absurd hgot (by simp)

section
variable {i : ℕ} {l l' : Hold} {seats seats' : List Seat} {locks locks' : Locks SeatId ℕ}
  {holds : List Hold}

/-- The rows that a step locks and unlocks are the hold's own. -/
theorem effect_locks (h : HoldEffect i l seats locks l' seats' locks')
    (hown : ∀ s, locks s = some i ↔ s ∈ l.pc.locked) :
    (∀ s k, k ≠ i → (locks' s = some k ↔ locks s = some k)) ∧
      ∀ s, locks' s = some i ↔ s ∈ l'.pc.locked := by
  have hacquire : ∀ keys : List SeatId, (∀ s ∈ keys, locks.openTo i s = true) →
      ∀ s k, k ≠ i → (locks.acquire i keys s = some k ↔ locks s = some k) := by
    intro keys hopen s k hne
    constructor
    · intro hs
      rcases Locks.acquire_eq_some.mp hs with ⟨-, hk⟩ | ⟨-, hs⟩
      · exact absurd hk hne
      · exact hs
    · exact fun hs => Locks.acquire_of_open hopen hs hne
  have hrelease : (∀ s k, k ≠ i → (locks.release i s = some k ↔ locks s = some k)) ∧
      ∀ s, ¬ locks.release i s = some i := by
    refine ⟨fun s k hne => ?_, fun s hs => (Locks.release_eq_some.mp hs).2 rfl⟩
    rw [Locks.release_eq_some]
    exact ⟨And.left, fun hs => ⟨hs, hne⟩⟩
  cases h with
  | free released hpc hreleased hopen =>
    refine ⟨hacquire released hopen, ?_⟩
    intro s
    have hnone : ¬ locks s = some i := by
      rw [hown s, hpc]
      simp [HoldPc.locked]
    rw [Locks.acquire_eq_some]
    simp [Hold.goto, HoldPc.locked, hnone]
  | select released hpc =>
    refine ⟨fun _ _ _ => Iff.rfl, ?_⟩
    intro s
    rw [hown s, hpc]
    simp [Hold.goto, HoldPc.locked]
  | commit released todo got hpc hle =>
    refine ⟨hrelease.1, ?_⟩
    intro s
    simp [Hold.goto, HoldPc.locked, hrelease.2 s]
  | refuse released got hpc hlt =>
    refine ⟨hrelease.1, ?_⟩
    intro s
    simp [Hold.goto, HoldPc.locked, hrelease.2 s]
  | take released todo got s hpc hopen =>
    have hopen' : ∀ s' ∈ [s], locks.openTo i s' = true := by
      intro s' hs'
      rw [List.mem_singleton.mp hs']
      exact hopen
    refine ⟨hacquire [s] hopen', ?_⟩
    intro s'
    rw [Locks.acquire_eq_some, hown s', hpc]
    simp only [Hold.goto, HoldPc.locked, List.mem_append, List.mem_singleton]
    tauto
  | pass released todo got s hpc htaken =>
    refine ⟨fun _ _ _ => Iff.rfl, ?_⟩
    intro s'
    rw [hown s', hpc]
    rfl

/-- **A hold goes on finding taken what it passes over.**  The seats that it passes over in this
step are taken as it does. -/
theorem passed_own (h : HoldEffect i l seats locks l' seats' locks')
    (hpassed : ∀ row ∈ seats, l.passedOver row.id = true → Taken i l locks row) :
    ∀ row ∈ seats', l'.passedOver row.id = true → Taken i l' locks' row := by
  cases h with
  | free released hpc hreleased hopen =>
    intro row _ hrow
    exact absurd hrow (by simp [Hold.passedOver, Hold.goto])
  | select released hpc =>
    intro row hmem hrow
    simp only [Hold.passedOver, Hold.goto, Bool.and_eq_true, Bool.not_eq_true',
      List.contains_eq_mem, decide_eq_false_iff_not] at hrow
    refine Or.inl ?_
    show claimable l.input.tripId row = false
    by_contra hclaim
    exact hrow.1.2 (mem_candidates hmem (by simpa using hclaim))
  | commit released todo got hpc hle =>
    intro row _ hrow
    exact absurd hrow (by simp [Hold.passedOver, Hold.goto])
  | refuse released got hpc hlt =>
    intro row hmem hrow
    have hbefore : l.passedOver row.id = true := by
      simp only [Hold.passedOver, hpc]
      simpa [Hold.passedOver, Hold.goto, hlt] using hrow
    rcases hpassed row hmem hbefore with hclaim | ⟨j, hne, hlock⟩
    · exact Or.inl hclaim
    · exact Or.inr ⟨j, hne, Locks.release_eq_some.mpr ⟨hlock, hne⟩⟩
  | take released todo got s hpc hopen =>
    intro row hmem hrow
    simp only [Hold.passedOver, Hold.goto, Bool.and_eq_true, Bool.not_eq_true',
      List.contains_eq_mem, decide_eq_false_iff_not, decide_eq_true_eq, List.length_append,
      List.mem_append, List.mem_singleton, List.length_singleton, not_or] at hrow
    have hbefore : l.passedOver row.id = true := by
      simp only [Hold.passedOver, hpc, Bool.and_eq_true, Bool.not_eq_true', List.contains_eq_mem,
        decide_eq_false_iff_not, decide_eq_true_eq, List.mem_cons, not_or]
      exact ⟨⟨by omega, hrow.2.2, hrow.1.2⟩, hrow.2.1⟩
    rcases hpassed row hmem hbefore with hclaim | ⟨j, hne, hlock⟩
    · exact Or.inl hclaim
    · refine Or.inr ⟨j, hne, Locks.acquire_eq_some.mpr (Or.inr ⟨?_, hlock⟩)⟩
      simpa using hrow.2.2
  | pass released todo got s hpc htaken =>
    intro row hmem hrow
    by_cases hs : row.id = s
    · rcases htaken with ⟨j, hlock, hne⟩ | hclaim
      · exact Or.inr ⟨j, hne, by rw [hs]; exact hlock⟩
      · exact Or.inl (hclaim row hmem hs)
    · have hbefore : l.passedOver row.id = true := by
        have hrow : (decide (got.length < l.input.quantity) && !todo.contains row.id &&
            !got.contains row.id) = true := hrow
        simpa [Hold.passedOver, hpc, hs] using hrow
      exact hpassed row hmem hbefore

/-- **So do the others**, when the hold that steps gives back nothing that they have passed
over. -/
theorem passed_other (h : HoldEffect i l seats locks l' seats' locks') {k : ℕ} {m : Hold}
    (hne : k ≠ i) (haside : ¬ Overlooks seats l m)
    (hown : ∀ s, locks s = some i ↔ s ∈ l.pc.locked)
    (hreleased : ∀ row ∈ seats, row.id ∈ l.pc.released → row.status ≠ .available)
    (hpassed : ∀ row ∈ seats, m.passedOver row.id = true → Taken k m locks row) :
    ∀ row ∈ seats', m.passedOver row.id = true → Taken k m locks' row := by
  have hacquire : ∀ keys : List SeatId, ∀ row ∈ seats, m.passedOver row.id = true →
      Taken k m (locks.acquire i keys) row := by
    intro keys row hmem hrow
    rcases hpassed row hmem hrow with hclaim | ⟨j, hj, hlock⟩
    · exact Or.inl hclaim
    · by_cases hkey : row.id ∈ keys
      · exact Or.inr ⟨i, hne.symm, Locks.acquire_eq_some.mpr (Or.inl ⟨hkey, rfl⟩)⟩
      · exact Or.inr ⟨j, hj, Locks.acquire_eq_some.mpr (Or.inr ⟨hkey, hlock⟩)⟩
  -- a row of another trip is taken in any case
  have htrip : ∀ row : Seat, (row.tripId = m.input.tripId → False) →
      claimable m.input.tripId row = false := by
    intro row hrow
    rw [claimable, Bool.and_eq_false_iff, beq_eq_false_iff_ne]
    exact Or.inl hrow
  cases h with
  | free released hpc hreleased hopen => exact hacquire released
  | select released hpc => exact hpassed
  | take released todo got s hpc hopen => exact hacquire [s]
  | pass released todo got s hpc htaken => exact hpassed
  | commit released todo got hpc hle =>
    intro row' hmem' hrow'
    obtain ⟨row, hmem, hid, htripId, hcase⟩ := mem_commit hmem'
    rw [hid] at hrow'
    rcases hcase with ⟨-, hheld⟩ | ⟨hgot, hrel⟩ | ⟨hgot, hrel, rfl⟩
    · exact Or.inl (by simp [claimable, hheld])
    · refine Or.inl (htrip row' ?_)
      intro htripRow
      refine haside ⟨row, hmem, htripId.symm.trans htripRow, ?_, hrow'⟩
      simp [Hold.givesBack, hpc, hle, hrel, hgot]
    · rcases hpassed row' hmem hrow' with hclaim | ⟨j, hj, hlock⟩
      · exact Or.inl hclaim
      · refine Or.inr ⟨j, hj, Locks.release_eq_some.mpr ⟨hlock, ?_⟩⟩
        rintro rfl
        have hlocked := (hown row'.id).mp hlock
        rw [hpc, HoldPc.locked, List.mem_append] at hlocked
        exact hlocked.elim hrel hgot
  | refuse released got hpc hlt =>
    intro row hmem hrow
    rcases hpassed row hmem hrow with hclaim | ⟨j, hj, hlock⟩
    · exact Or.inl hclaim
    · by_cases hji : j = i
      · subst hji
        have hlocked := (hown row.id).mp hlock
        rw [hpc, HoldPc.locked, List.mem_append] at hlocked
        by_cases hrel : row.id ∈ released
        · have hstatus := hreleased row hmem (by rw [hpc]; exact hrel)
          exact Or.inl (by simp [claimable, hstatus])
        · refine Or.inl (htrip row ?_)
          intro htripRow
          refine haside ⟨row, hmem, htripRow, ?_, hrow⟩
          have hgot : row.id ∈ got := hlocked.resolve_left hrel
          simp [Hold.givesBack, hpc, not_le.mpr hlt, hgot, hrel]
      · exact Or.inr ⟨j, hj, Locks.release_eq_some.mpr ⟨hlock, hji⟩⟩

/-- Rows that a transaction has freed are held until it commits. -/
theorem released_step (h : HoldEffect i l seats locks l' seats' locks') {k : ℕ} {m : Hold}
    (hne : k ≠ i) (hown : ∀ s, locks s = some i ↔ s ∈ l.pc.locked)
    (hother : ∀ s, locks s = some k ↔ s ∈ m.pc.locked)
    (hreleased : ∀ row ∈ seats, row.id ∈ m.pc.released → row.status ≠ .available) :
    ∀ row ∈ seats', row.id ∈ m.pc.released → row.status ≠ .available := by
  cases h with
  | commit released todo got hpc hle =>
    intro row' hmem' hrow'
    obtain ⟨row, hmem, hid, -, hcase⟩ := mem_commit hmem'
    rcases hcase with ⟨-, hheld⟩ | ⟨-, hrel⟩ | ⟨-, -, rfl⟩
    · rw [hheld]
      exact SeatStatus.noConfusion
    · have hlocked : row.id ∈ m.pc.locked := by
        rw [hid] at hrow'
        cases hm : m.pc with
        | claim released => rwa [hm] at hrow'
        | scan released todo got =>
          rw [hm] at hrow'
          exact List.mem_append_left _ hrow'
        | _ =>
          rw [hm] at hrow'
          exact absurd hrow' (by simp [HoldPc.released])
      have hk := (hother row.id).mpr hlocked
      have hi : row.id ∈ l.pc.locked := by
        rw [hpc]
        exact List.mem_append_left _ hrel
      rw [(hown row.id).mpr hi] at hk
      exact absurd (Option.some.inj hk).symm hne
    · exact hreleased row' hmem hrow'
  | _ => exact hreleased

end

theorem effect_ids {i : ℕ} {l l' : Hold} {seats seats' : List Seat} {locks locks' : Locks SeatId ℕ}
    (h : HoldEffect i l seats locks l' seats' locks') : seats'.map Seat.id = seats.map Seat.id := by
  cases h with
  | commit released todo got => exact commit_ids l released got seats
  | _ => rfl

/-- A hold is refused when it has locked too few seats. -/
theorem effect_short {i : ℕ} {l l' : Hold} {seats seats' : List Seat}
    {locks locks' : Locks SeatId ℕ} (h : HoldEffect i l seats locks l' seats' locks')
    {got : List SeatId} (hrefused : l'.pc = .refused got) : got.length < l'.input.quantity := by
  cases h with
  | refuse released got' hpc hlt =>
    cases hrefused
    exact hlt
  | _ => exact absurd hrefused (by simp [Hold.goto])

/-- What a hold has freed of an earlier one is not available to others. -/
theorem released_own {i : ℕ} {l l' : Hold} {seats seats' : List Seat}
    {locks locks' : Locks SeatId ℕ} (h : HoldEffect i l seats locks l' seats' locks')
    (hreleased : ∀ row ∈ seats, row.id ∈ l.pc.released → row.status ≠ .available) :
    ∀ row ∈ seats', row.id ∈ l'.pc.released → row.status ≠ .available := by
  cases h with
  | free released hpc hfreed => exact hfreed
  | select released hpc =>
    rw [hpc] at hreleased
    exact hreleased
  | commit released todo got hpc hle =>
    intro row _ hrow
    exact absurd hrow (by simp [Hold.goto, HoldPc.released])
  | refuse released got hpc hlt =>
    intro row _ hrow
    exact absurd hrow (by simp [Hold.goto, HoldPc.released])
  | take released todo got s hpc hopen =>
    rw [hpc] at hreleased
    exact hreleased
  | pass released todo got s hpc htaken =>
    rw [hpc] at hreleased
    exact hreleased

/-- **A step that steps aside keeps the invariant.** -/
theorem inv_step {c c' : HoldState} {i : ℕ} (hinv : Inv c) (haside : StepsAside c i)
    (h : concurrentHolds.step c i = some c') : Inv c' := by
  obtain ⟨l, hl, h⟩ := Option.bind_eq_some_iff.mp h
  obtain ⟨⟨l', seats', locks'⟩, hstep, hc'⟩ := Option.map_eq_some_iff.mp h
  subst hc'
  have heffect := step_effect hinv.ids hstep
  have hown : ∀ s, c.locks s = some i ↔ s ∈ l.pc.locked := by
    intro s
    rw [hinv.locks s i]
    constructor
    · rintro ⟨m, hm, hs⟩
      rw [hl] at hm
      cases hm
      exact hs
    · exact fun hs => ⟨l, hl, hs⟩
  obtain ⟨hlocks, hlocks'⟩ := effect_locks heffect hown
  have hset : (c.holds.set i l')[i]? = some l' := by
    obtain ⟨hlt, -⟩ := List.getElem?_eq_some_iff.mp hl
    exact List.getElem?_set_self hlt
  refine ⟨?_, ?_, ?_, ?_, ?_⟩
  · show (seats'.map Seat.id).Nodup
    rw [effect_ids heffect]
    exact hinv.ids
  · intro s k
    by_cases hki : k = i
    · subst hki
      rw [hlocks' s]
      constructor
      · exact fun hs => ⟨l', hset, hs⟩
      · rintro ⟨m, hm, hs⟩
        rw [hset] at hm
        cases hm
        exact hs
    · rw [hlocks s k hki, hinv.locks s k]
      show _ ↔ ∃ m, (c.holds.set i l')[k]? = some m ∧ _
      rw [List.getElem?_set_ne (Ne.symm hki)]
  · intro k m hm
    rcases Machine.getElem?_set_cases hl hm with ⟨rfl, rfl⟩ | ⟨hne, hm⟩
    · exact released_own heffect (hinv.released k l hl)
    · have hother : ∀ s, c.locks s = some k ↔ s ∈ m.pc.locked := by
        intro s
        rw [hinv.locks s k]
        constructor
        · rintro ⟨m', hm', hs⟩
          rw [hm] at hm'
          cases hm'
          exact hs
        · exact fun hs => ⟨m, hm, hs⟩
      exact released_step heffect hne hown hother (hinv.released k m hm)
  · intro k m hm
    rcases Machine.getElem?_set_cases hl hm with ⟨rfl, rfl⟩ | ⟨hne, hm⟩
    · exact passed_own heffect (hinv.passed k l hl)
    · obtain ⟨hlt, -⟩ := List.getElem?_eq_some_iff.mp hm
      exact passed_other heffect hne (haside l hl k hlt hne m hm) hown (hinv.released i l hl)
        (hinv.passed k m hm)
  · intro k m got hm hrefused
    rcases Machine.getElem?_set_cases hl hm with ⟨rfl, rfl⟩ | ⟨hne, hm⟩
    · exact effect_short heffect hrefused
    · exact hinv.short k m got hm hrefused

/-- Once all holds have ended, a hold that was refused had locked every seat that remains. -/
theorem workConserving_of_inv {c : HoldState} (hinv : Inv c) : WorkConserving c := by
  intro hended l hl hrefused
  obtain ⟨k, hk⟩ := List.mem_iff_getElem?.mp hl
  cases hpc : l.pc with
  | refused got =>
    have hunlocked : ∀ s j, ¬ c.locks s = some j := by
      intro s j hlock
      obtain ⟨m, hm, hs⟩ := (hinv.locks s j).mp hlock
      have hend := hended m (List.mem_of_getElem? hm)
      cases hmpc : m.pc <;> rw [hmpc] at hend hs <;>
        simp [HoldPc.ended, HoldPc.locked] at hend hs
    have hgot : ∀ row ∈ c.seats, claimable l.input.tripId row = true →
        got.contains row.id = true := by
      intro row hrow hclaim
      by_contra hnot
      have hpassed : l.passedOver row.id = true := by
        simp only [Hold.passedOver, hpc]
        simpa using hnot
      rcases hinv.passed k l hk row hrow hpassed with hfalse | ⟨j, -, hlock⟩
      · rw [hclaim] at hfalse
        exact absurd hfalse (by simp)
      · exact hunlocked row.id j hlock
    calc available l.input.tripId c.seats
        ≤ c.seats.countP fun row => got.contains row.id :=
          List.countP_mono_left hgot
      _ ≤ got.length := Table.countP_contains_le hinv.ids got
      _ < l.input.quantity := hinv.short k l got hk hpc
  | _ =>
    rw [hpc] at hrefused
    exact absurd hrefused (by simp [HoldPc.insufficient])

/-! ## The theorem -/

/-- **Concurrent holds conserve work as long as they step aside.**  In every run of holds by
distinct users in which no hold gives back a seat that another one has passed over, a hold
that was refused asked for more seats than remain when all have ended. -/
theorem holds_work_conserving {c : HoldState} (hinit : concurrentHolds.init c) (acts : List ℕ)
    (hsteps : concurrentHolds.AllSteps StepsAside c acts) {m : HoldState}
    (hm : m ∈ concurrentHolds.trace c acts) : WorkConserving m := by
  have hinv : Inv m := by
    refine hsteps.invariant_trace ?_ (inv_init hinit) hm
    exact fun r i r' hr haside hstep => inv_step hr haside hstep
  exact workConserving_of_inv hinv

/-! ## Five seats, five holds for two -/

/-- The seats of a trip of five. -/
def fiveSeats : List Seat :=
  [⟨1, 7, ⟨65, 1⟩, .available, none, none⟩, ⟨2, 7, ⟨65, 2⟩, .available, none, none⟩,
    ⟨3, 7, ⟨65, 3⟩, .available, none, none⟩, ⟨4, 7, ⟨65, 4⟩, .available, none, none⟩,
    ⟨5, 7, ⟨66, 1⟩, .available, none, none⟩]

/-- A hold for two of them. -/
def holdTwo (userId : UserId) : Hold where
  input := ⟨7, 2, by decide, by decide⟩
  userId
  expiresAt := 600000

/-- Five users ask for two seats each. -/
def fiveHolds : HoldState := ⟨fiveSeats, .empty, [1, 2, 3, 4, 5].map holdTwo⟩

theorem fiveHolds_init : concurrentHolds.init fiveHolds :=
  ⟨by decide, rfl, by decide, by decide⟩

/-- One after the other: two holds win, and one seat remains. -/
def inTurn : List ℕ :=
  [0, 0, 0, 0, 0] ++ [1, 1, 1, 1, 1] ++ [2, 2, 2, 2] ++ [3, 3, 3, 3] ++ [4, 4, 4, 4]

theorem inTurn_runs : (concurrentHolds.run fiveHolds inTurn).isSome = true := by
  decide +kernel

def inTurnEnd : HoldState := (concurrentHolds.run fiveHolds inTurn).get inTurn_runs

theorem holds_work_conserving_in_turn : WorkConserving inTurnEnd :=
  holds_work_conserving fiveHolds_init inTurn (by decide +kernel)
    (System.mem_trace_of_run (Option.some_get _).symm)

/-- All five at once: each locks one seat, passes over the others, and is refused. -/
def atOnce : List ℕ :=
  [0, 1, 2, 3, 4] ++ [0, 1, 2, 3, 4] ++ [0, 1, 2, 3, 4] ++ [1, 0, 2, 3, 4] ++ [2, 0, 1, 3, 4] ++
    [3, 0, 1, 2, 4] ++ [4, 0, 1, 2, 3] ++ [0, 1, 2, 3, 4]

theorem atOnce_runs : (concurrentHolds.run fiveHolds atOnce).isSome = true := by
  decide +kernel

def atOnceEnd : HoldState := (concurrentHolds.run fiveHolds atOnce).get atOnce_runs

/-- Five holds for two of five seats are all refused, and five seats remain. -/
theorem all_five_refused :
    ¬ ∀ c : HoldState, concurrentHolds.init c → ∀ (acts : List ℕ) (m : HoldState),
      m ∈ concurrentHolds.trace c acts → WorkConserving m := by
  intro h
  have hend : WorkConserving atOnceEnd :=
    h fiveHolds fiveHolds_init atOnce atOnceEnd (System.mem_trace_of_run (Option.some_get _).symm)
  exact absurd hend (by decide +kernel)

end SkipLocked
end TransHub
