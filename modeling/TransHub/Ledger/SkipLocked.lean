import TransHub.Foundation.Locks
import TransHub.Foundation.System
import TransHub.Ledger.Bookings

/-!
# Concurrent holds, row by row

The transactions of concurrent `holdSeats` calls under PostgreSQL's row locks.  The
`SELECT … ORDER BY label LIMIT quantity FOR UPDATE SKIP LOCKED` of `claimSeats` reads the
rows of its snapshot in label order and locks them one at a time; it passes over a row that
another transaction has locked, or that is no longer available.  What a transaction writes
is seen by others when it commits, and its locks end with it.

* `Hold`, `HoldPc`: a call, and where its transaction stands.
* `holdStep`, `concurrentHolds`: the steps, and the runs of any number of holds.
* `HoldEffect`, `step_effect`: what a step can do.
* `hold_alone`: a hold that nothing interrupts is the `holdSeats` of the ledger.
-/

namespace TransHub
namespace SkipLocked

open Inventory

/-- Where a hold stands.  `released` are the rows of the user's earlier hold, which the
transaction has freed; `todo` are the rows that its `SELECT` has still to visit and `got` those
that it has locked. -/
inductive HoldPc where
  | start
  | claim (released : List SeatId)
  | scan (released todo got : List SeatId)
  | held (seatIds : List SeatId)
  | refused (got : List SeatId)
  deriving DecidableEq

/-- A call of `holdSeats`. -/
structure Hold where
  input : Bookings.HoldInput
  userId : UserId
  expiresAt : Time
  pc : HoldPc := .start

/-- The committed rows, the row locks, and the calls. -/
structure HoldState where
  seats : List Seat
  locks : Locks SeatId ℕ
  holds : List Hold

def Hold.goto (l : Hold) (pc : HoldPc) : Hold := { l with pc }

/-- The rows as the transaction sees them. -/
def freed (released : List SeatId) (seats : List Seat) : List Seat :=
  Table.updateMany (fun s => released.contains s.id) Seat.free seats

/-- The rows that the `SELECT` visits, in label order. -/
def candidates (tripId : TripId) (released : List SeatId) (seats : List Seat) : List SeatId :=
  (((freed released seats).filter (claimable tripId)).insertionSort
    fun a b => a.label.le b.label = true).map Seat.id

/-- The row is still available to the transaction. -/
def stillClaimable (tripId : TripId) (released : List SeatId) (seats : List Seat) (s : SeatId) :
    Bool :=
  (freed released seats).any fun row => row.id == s && claimable tripId row

/-- The rows after the transaction. -/
def commit (l : Hold) (released got : List SeatId) (seats : List Seat) : List Seat :=
  markHeld got l.userId l.expiresAt (freed released seats)

/-- The next step of the `i`-th hold.  Its first `UPDATE` waits for the locks on its rows. -/
def holdStep (i : ℕ) (l : Hold) (seats : List Seat) (locks : Locks SeatId ℕ) :
    Option (Hold × List Seat × Locks SeatId ℕ) :=
  match l.pc with
  | .start =>
      let released := (seats.filter (heldByUser l.input.tripId l.userId)).map Seat.id
      if released.all (locks.openTo i) then
        some (l.goto (.claim released), seats, locks.acquire i released)
      else none
  | .claim released =>
      some (l.goto (.scan released (candidates l.input.tripId released seats) []), seats, locks)
  | .scan released todo got =>
      if l.input.quantity ≤ got.length then
        some (l.goto (.held got), commit l released got seats, locks.release i)
      else match todo with
        | [] => some (l.goto (.refused got), seats, locks.release i)
        | s :: todo =>
            if locks.openTo i s && stillClaimable l.input.tripId released seats s then
              some (l.goto (.scan released todo (got ++ [s])), seats, locks.acquire i [s])
            else some (l.goto (.scan released todo got), seats, locks)
  | .held _ | .refused _ => none

/-- Runs of holds by distinct users that start together, on any rows.  A label is the hold
that steps. -/
def concurrentHolds : System HoldState ℕ where
  init c := (c.seats.map Seat.id).Nodup ∧ c.locks = .empty ∧
    (c.holds.map Hold.userId).Nodup ∧ ∀ l ∈ c.holds, l.pc = .start
  step c i := (c.holds[i]?).bind fun l =>
    (holdStep i l c.seats c.locks).map fun p => ⟨p.2.1, p.2.2, c.holds.set i p.1⟩

/-! ## What a step does -/

/-- The rows that a transaction has locked. -/
def HoldPc.locked : HoldPc → List SeatId
  | claim released => released
  | scan released _ got => released ++ got
  | start | held _ | refused _ => []

/-- The rows of the user's earlier hold that a transaction has freed. -/
def HoldPc.released : HoldPc → List SeatId
  | claim released | scan released _ _ => released
  | start | held _ | refused _ => []

/-- The effects of a step of hold `i`. -/
inductive HoldEffect (i : ℕ) (l : Hold) (seats : List Seat) (locks : Locks SeatId ℕ) :
    Hold → List Seat → Locks SeatId ℕ → Prop where
  | free (released : List SeatId) (hpc : l.pc = .start)
      (hreleased : ∀ s ∈ seats, s.id ∈ released → s.status ≠ .available)
      (hopen : ∀ s ∈ released, locks.openTo i s = true) :
      HoldEffect i l seats locks (l.goto (.claim released)) seats (locks.acquire i released)
  | select (released : List SeatId) (hpc : l.pc = .claim released) :
      HoldEffect i l seats locks
        (l.goto (.scan released (candidates l.input.tripId released seats) [])) seats locks
  | commit (released todo got : List SeatId) (hpc : l.pc = .scan released todo got)
      (hle : l.input.quantity ≤ got.length) :
      HoldEffect i l seats locks (l.goto (.held got)) (commit l released got seats)
        (locks.release i)
  | refuse (released got : List SeatId) (hpc : l.pc = .scan released [] got)
      (hlt : got.length < l.input.quantity) :
      HoldEffect i l seats locks (l.goto (.refused got)) seats (locks.release i)
  | take (released todo got : List SeatId) (s : SeatId)
      (hpc : l.pc = .scan released (s :: todo) got) (hopen : locks.openTo i s = true) :
      HoldEffect i l seats locks (l.goto (.scan released todo (got ++ [s]))) seats
        (locks.acquire i [s])
  | pass (released todo got : List SeatId) (s : SeatId)
      (hpc : l.pc = .scan released (s :: todo) got)
      (htaken : (∃ k, locks s = some k ∧ k ≠ i) ∨
        ∀ row ∈ seats, row.id = s → claimable l.input.tripId row = false) :
      HoldEffect i l seats locks (l.goto (.scan released todo got)) seats locks

/-- A row that is available stays so in the transaction that frees others. -/
theorem stillClaimable_of_mem {tripId : TripId} {released : List SeatId} {seats : List Seat}
    {row : Seat} (hrow : row ∈ seats) (h : claimable tripId row = true) :
    stillClaimable tripId released seats row.id = true := by
  rw [stillClaimable, List.any_eq_true]
  have hmem := Table.mem_updateMany_of_mem (p := fun s : Seat => released.contains s.id)
    (f := Seat.free) hrow
  refine ⟨_, hmem, ?_⟩
  rw [claimable, Bool.and_eq_true] at h
  split
  · simp [claimable, h.1]
  · simp [claimable, h.1, h.2]

theorem mem_candidates {tripId : TripId} {released : List SeatId} {seats : List Seat} {row : Seat}
    (hrow : row ∈ seats) (h : claimable tripId row = true) :
    row.id ∈ candidates tripId released seats := by
  have hstill : stillClaimable tripId released seats row.id = true := stillClaimable_of_mem hrow h
  obtain ⟨row', hrow', hclaim⟩ := List.any_eq_true.mp hstill
  rw [Bool.and_eq_true, beq_iff_eq] at hclaim
  rw [candidates, List.mem_map]
  refine ⟨row', (List.mem_insertionSort _).mpr (List.mem_filter.mpr ⟨hrow', hclaim.2⟩), hclaim.1⟩

/-- **What a step does.** -/
theorem step_effect {i : ℕ} {l l' : Hold} {seats seats' : List Seat} {locks locks' : Locks SeatId ℕ}
    (hids : (seats.map Seat.id).Nodup)
    (h : holdStep i l seats locks = some (l', seats', locks')) :
    HoldEffect i l seats locks l' seats' locks' := by
  unfold holdStep at h
  split at h
  · next hpc =>
    dsimp only at h
    split at h
    · next hall =>
      cases h
      refine .free _ hpc ?_ (List.all_eq_true.mp hall)
      intro s hs hreleased
      obtain ⟨s', hs', hid⟩ := List.mem_map.mp hreleased
      obtain ⟨hs', hheld⟩ := List.mem_filter.mp hs'
      have heq : s' = s := List.inj_on_of_nodup_map hids hs' hs hid
      rw [heq, heldByUser, Bool.and_eq_true, Bool.and_eq_true, beq_iff_eq, beq_iff_eq] at hheld
      simp [hheld.1.2]
    · exact absurd h (by simp)
  · next released hpc =>
    cases h
    exact .select released hpc
  · next released todo got hpc =>
    split at h
    · next hle =>
      cases h
      exact .commit released todo got hpc hle
    · next hlt =>
      split at h
      · cases h
        exact .refuse released got hpc (not_le.mp hlt)
      · next s todo =>
        split at h
        · next hgrab =>
          cases h
          exact .take released todo got s hpc (Bool.and_eq_true_iff.mp hgrab).1
        · next hgrab =>
          cases h
          refine .pass released todo got s hpc ?_
          rw [Bool.and_eq_true, not_and_or] at hgrab
          rcases hgrab with hopen | hclaim
          · exact Or.inl (Locks.openTo_eq_false.mp (by simpa using hopen))
          · refine Or.inr ?_
            intro row hrow hid
            by_contra hrowclaim
            rw [← hid] at hclaim
            exact hclaim (stillClaimable_of_mem hrow (by simpa using hrowclaim))
  · exact absurd h (by simp)
  · exact absurd h (by simp)

/-- A row after a commit. -/
theorem mem_commit {l : Hold} {released got : List SeatId} {seats : List Seat} {row' : Seat}
    (h : row' ∈ commit l released got seats) :
    ∃ row ∈ seats, row'.id = row.id ∧ row'.tripId = row.tripId ∧
      ((row.id ∈ got ∧ row'.status = .held) ∨ (row.id ∉ got ∧ row.id ∈ released) ∨
        (row.id ∉ got ∧ row.id ∉ released ∧ row' = row)) := by
  obtain ⟨mid, hmid, hrow'⟩ := Table.mem_updateMany.mp h
  obtain ⟨row, hrow, hmid⟩ := Table.mem_updateMany.mp hmid
  have hid : mid.id = row.id := by
    rw [← hmid]
    split <;> rfl
  have htrip : mid.tripId = row.tripId := by
    rw [← hmid]
    split <;> rfl
  by_cases hgot : row.id ∈ got
  · rw [if_pos (by rw [hid]; exact List.contains_iff_mem.mpr hgot)] at hrow'
    rw [← hrow']
    exact ⟨row, hrow, hid, htrip, Or.inl ⟨hgot, rfl⟩⟩
  · rw [if_neg (by rw [hid, List.contains_iff_mem]; exact hgot)] at hrow'
    rw [← hrow']
    refine ⟨row, hrow, hid, htrip, Or.inr ?_⟩
    by_cases hreleased : row.id ∈ released
    · exact Or.inl ⟨hgot, hreleased⟩
    · rw [if_neg (by rw [List.contains_iff_mem]; exact hreleased)] at hmid
      exact Or.inr ⟨hgot, hreleased, hmid.symm⟩

theorem commit_ids (l : Hold) (released got : List SeatId) (seats : List Seat) :
    (commit l released got seats).map Seat.id = seats.map Seat.id := by
  have hheld : (commit l released got seats).map Seat.id = (freed released seats).map Seat.id :=
    Table.map_updateMany fun _ _ _ => rfl
  have hfreed : (freed released seats).map Seat.id = seats.map Seat.id :=
    Table.map_updateMany fun _ _ _ => rfl
  rw [hheld, hfreed]

/-! ## A hold that nothing interrupts -/

instance : Std.Total fun a b : Seat => a.label.le b.label = true where
  total a b := by
    simp only [SeatLabel.le, Bool.or_eq_true, Bool.and_eq_true, decide_eq_true_eq, beq_iff_eq]
    omega

instance : IsTrans Seat fun a b => a.label.le b.label = true where
  trans a b c hab hbc := by
    simp only [SeatLabel.le, Bool.or_eq_true, Bool.and_eq_true, decide_eq_true_eq,
      beq_iff_eq] at hab hbc ⊢
    omega

/-- The rows that the scan of hold `i` locks, when nothing interrupts it. -/
def takes (i : ℕ) (l : Hold) (released : List SeatId) (seats : List Seat)
    (locks : Locks SeatId ℕ) (s : SeatId) : Bool :=
  locks.openTo i s && stillClaimable l.input.tripId released seats s

/-- What a hold that has visited all its rows does with those it has locked. -/
def Ends (i : ℕ) (l : Hold) (released got : List SeatId) (seats : List Seat) (c : HoldState) :
    Prop :=
  if got.length < l.input.quantity then
    c.holds[i]? = some (l.goto (.refused got)) ∧ c.seats = seats
  else c.holds[i]? = some (l.goto (.held got)) ∧ c.seats = commit l released got seats

theorem step_eq_some {c : HoldState} {i : ℕ} {l l' : Hold} {seats : List Seat}
    {locks : Locks SeatId ℕ} (hi : c.holds[i]? = some l)
    (hs : holdStep i l c.seats c.locks = some (l', seats, locks)) :
    concurrentHolds.step c i = some ⟨seats, locks, c.holds.set i l'⟩ := by
  show (c.holds[i]?).bind _ = _
  rw [hi, Option.bind_some, hs]
  rfl

theorem getElem?_set_self_of_some {holds : List Hold} {i : ℕ} {l l' : Hold}
    (hi : holds[i]? = some l) : (holds.set i l')[i]? = some l' :=
  List.getElem?_set_self (List.getElem?_eq_some_iff.mp hi).1

/-- A hold that has locked as many rows as it needs commits. -/
theorem held_alone {released todo got : List SeatId} {i : ℕ} {l : Hold} {c : HoldState}
    (hlen : got.length = l.input.quantity)
    (hi : c.holds[i]? = some (l.goto (.scan released todo got))) :
    ∃ n c', concurrentHolds.run c (List.replicate n i) = some c' ∧
      Ends i l released got c.seats c' := by
  have hstep : concurrentHolds.step c i = some ⟨commit l released got c.seats, c.locks.release i,
      c.holds.set i (l.goto (.held got))⟩ := step_eq_some hi (if_pos hlen.ge)
  refine ⟨1, _, concurrentHolds.run_cons_eq_some.mpr ⟨_, hstep, rfl⟩, ?_⟩
  rw [Ends, if_neg (by omega)]
  exact ⟨getElem?_set_self_of_some hi, rfl⟩

/-- **The scan of a hold that nothing interrupts.**  It locks the first rows that it may, as
many as it needs. -/
theorem scan_alone {released : List SeatId} (todo : List SeatId) {i : ℕ} {l : Hold} {c : HoldState}
    {got : List SeatId} (hle : got.length ≤ l.input.quantity)
    (hi : c.holds[i]? = some (l.goto (.scan released todo got))) :
    ∃ n c', concurrentHolds.run c (List.replicate n i) = some c' ∧
      Ends i l released
        ((got ++ todo.filter (takes i l released c.seats c.locks)).take l.input.quantity)
        c.seats c' := by
  induction todo generalizing c got with
  | nil =>
    rw [List.filter_nil, List.append_nil, List.take_of_length_le hle]
    by_cases hlt : got.length < l.input.quantity
    · have hstep : concurrentHolds.step c i = some ⟨c.seats, c.locks.release i,
          c.holds.set i (l.goto (.refused got))⟩ := step_eq_some hi (if_neg (Nat.not_le.mpr hlt))
      refine ⟨1, _, concurrentHolds.run_cons_eq_some.mpr ⟨_, hstep, rfl⟩, ?_⟩
      rw [Ends, if_pos hlt]
      exact ⟨getElem?_set_self_of_some hi, rfl⟩
    · exact held_alone (by omega) hi
  | cons s todo ih =>
    by_cases hlt : got.length < l.input.quantity
    · by_cases ht : takes i l released c.seats c.locks s = true
      · have hstep : concurrentHolds.step c i = some ⟨c.seats, c.locks.acquire i [s],
            c.holds.set i (l.goto (.scan released todo (got ++ [s])))⟩ :=
          step_eq_some hi ((if_neg (Nat.not_le.mpr hlt)).trans (if_pos ht))
        have hopen : ∀ t ∈ [s], c.locks.openTo i t = true := by
          intro t ht'
          rw [List.mem_singleton.mp ht']
          exact (Bool.and_eq_true_iff.mp ht).1
        have hle' : (got ++ [s]).length ≤ l.input.quantity := by
          rw [List.length_append, List.length_singleton]
          omega
        obtain ⟨n, c', hrun, hends⟩ := ih (c := ⟨c.seats, c.locks.acquire i [s], _⟩) hle'
          (getElem?_set_self_of_some hi)
        refine ⟨n + 1, c', concurrentHolds.run_cons_eq_some.mpr ⟨_, hstep, hrun⟩, ?_⟩
        have hsame : todo.filter (takes i l released c.seats (c.locks.acquire i [s]))
            = todo.filter (takes i l released c.seats c.locks) := by
          refine List.filter_congr fun t _ => ?_
          rw [takes, takes, Locks.openTo_acquire hopen t]
        rwa [hsame, List.append_assoc, List.singleton_append,
          ← List.filter_cons_of_pos ht] at hends
      · have hstep : concurrentHolds.step c i = some ⟨c.seats, c.locks,
            c.holds.set i (l.goto (.scan released todo got))⟩ :=
          step_eq_some hi ((if_neg (Nat.not_le.mpr hlt)).trans (if_neg ht))
        obtain ⟨n, c', hrun, hends⟩ := ih (c := ⟨c.seats, c.locks, _⟩) hle
          (getElem?_set_self_of_some hi)
        refine ⟨n + 1, c', concurrentHolds.run_cons_eq_some.mpr ⟨_, hstep, hrun⟩, ?_⟩
        rw [List.filter_cons_of_neg ht]
        exact hends
    · have hlen : got.length = l.input.quantity := by omega
      rw [List.take_left' hlen]
      exact held_alone hlen hi

/-- The transaction frees the rows of the user's earlier hold. -/
theorem freed_eq_release {tripId : TripId} {userId : UserId} {seats : List Seat}
    (hids : (seats.map Seat.id).Nodup) :
    freed ((seats.filter (heldByUser tripId userId)).map Seat.id) seats =
      releaseUserHoldsForTrip tripId userId seats := by
  refine List.map_congr_left fun s hs => ?_
  have hcontains : ((seats.filter (heldByUser tripId userId)).map Seat.id).contains s.id =
      heldByUser tripId userId s := by
    rw [Bool.eq_iff_iff, List.contains_iff_mem, List.mem_map]
    constructor
    · rintro ⟨s', hs', hid⟩
      obtain ⟨hmem, hheld⟩ := List.mem_filter.mp hs'
      rwa [List.inj_on_of_nodup_map hids hmem hs hid] at hheld
    · exact fun hheld => ⟨s, List.mem_filter.mpr ⟨hs, hheld⟩, rfl⟩
  simp only [hcontains]

/-- The scan locks the rows that `claimSeats` selects. -/
theorem take_candidates {i : ℕ} {l : Hold} {released : List SeatId} {c : HoldState} :
    ((candidates l.input.tripId released c.seats).filter (takes i l released c.seats c.locks)).take
        l.input.quantity =
      (claimRows (fun s => !c.locks.openTo i s) l.input.tripId l.input.quantity
        (freed released c.seats)).map Seat.id := by
  have hrows : ((freed released c.seats).filter (claimable l.input.tripId)).filter
        (takes i l released c.seats c.locks ∘ Seat.id) =
      (freed released c.seats).filter
        fun s => claimable l.input.tripId s && !!c.locks.openTo i s.id := by
    rw [List.filter_filter]
    refine List.filter_congr fun row hrow => ?_
    by_cases hclaim : claimable l.input.tripId row = true
    · have hstill : stillClaimable l.input.tripId released c.seats row.id = true :=
        List.any_eq_true.mpr ⟨row, hrow, by simp [hclaim]⟩
      simp [takes, hstill, hclaim]
    · simp [hclaim]
  rw [candidates, List.filter_map, Table.filter_insertionSort, hrows, claimRows, List.map_take]

/-- **A hold that nothing interrupts does what `holdSeats` does.**  It gets the seats that
`claimSeats` gives it beside the rows that others have locked, or is refused when that
throws. -/
theorem hold_alone {c : HoldState} {i : ℕ} {l : Hold} (hids : (c.seats.map Seat.id).Nodup)
    (hi : c.holds[i]? = some l) (hpc : l.pc = .start)
    (hopen : ∀ s ∈ c.seats, heldByUser l.input.tripId l.userId s = true →
      c.locks.openTo i s.id = true) :
    ∃ n c', concurrentHolds.run c (List.replicate n i) = some c' ∧
      match claimSeats (fun s => !c.locks.openTo i s) l.input.tripId l.input.quantity l.userId
        l.expiresAt (releaseUserHoldsForTrip l.input.tripId l.userId c.seats) with
      | .ok (ids, seats) => c'.holds[i]? = some (l.goto (.held ids)) ∧ c'.seats = seats
      | .error _ => (∃ got, c'.holds[i]? = some (l.goto (.refused got))) ∧ c'.seats = c.seats := by
  have hall : ((c.seats.filter (heldByUser l.input.tripId l.userId)).map Seat.id).all
      (c.locks.openTo i) = true := by
    rw [List.all_eq_true]
    intro s hs
    obtain ⟨row, hrow, rfl⟩ := List.mem_map.mp hs
    obtain ⟨hmem, hheld⟩ := List.mem_filter.mp hrow
    exact hopen row hmem hheld
  obtain ⟨released, hreleased⟩ : ∃ released,
      released = (c.seats.filter (heldByUser l.input.tripId l.userId)).map Seat.id := ⟨_, rfl⟩
  rw [← hreleased] at hall
  have hstart : concurrentHolds.step c i = some ⟨c.seats, c.locks.acquire i released,
      c.holds.set i (l.goto (.claim released))⟩ := by
    refine step_eq_some hi ?_
    rw [holdStep, hpc]
    simp only [← hreleased, hall, if_true]
  have hselect := step_eq_some (c := ⟨c.seats, c.locks.acquire i released, _⟩)
    (getElem?_set_self_of_some hi) (show holdStep i (l.goto (.claim released)) _ _ = _ from rfl)
  have hnone : ([] : List SeatId).length ≤ l.input.quantity := Nat.zero_le _
  obtain ⟨n, c', hrun, hends⟩ := scan_alone
    (c := ⟨c.seats, c.locks.acquire i released, _⟩)
    (candidates l.input.tripId released c.seats) hnone
    (getElem?_set_self_of_some (getElem?_set_self_of_some hi))
  refine ⟨n + 2, c', concurrentHolds.run_cons_eq_some.mpr ⟨_, hstart,
    concurrentHolds.run_cons_eq_some.mpr ⟨_, hselect, hrun⟩⟩, ?_⟩
  have hgot : (candidates l.input.tripId released c.seats).filter
      (takes i l released c.seats (c.locks.acquire i released)) =
        (candidates l.input.tripId released c.seats).filter
          (takes i l released c.seats c.locks) := by
    refine List.filter_congr fun t _ => ?_
    rw [takes, takes, Locks.openTo_acquire (List.all_eq_true.mp hall) t]
  rw [List.nil_append, hgot, take_candidates, hreleased, freed_eq_release hids] at hends
  rw [claimSeats]
  unfold Ends at hends
  rw [List.length_map] at hends
  split at hends
  · next hlt =>
    rw [if_pos hlt]
    exact ⟨⟨_, hends.1⟩, hends.2⟩
  · next hlt =>
    rw [if_neg hlt]
    refine ⟨hends.1, hends.2.trans ?_⟩
    rw [commit, freed_eq_release hids]

end SkipLocked
end TransHub
