import TransHub.Ledger.Expiry
import TransHub.Foundation.Machine

/-!
# Concurrent holds of one user

`holdSeats` runs `releaseUserHoldsForTrip` and `claimSeats` in one transaction.  Here
each request is a process whose statements interleave with those of others: an
update blocks on a row that an open transaction has locked and looks at it again
once the lock is gone, the claim skips such rows, and writes are seen when they
commit.

* `HoldTx`, `HoldTx.step`: a request and its statements; `step_commit` and
  `step_of_not_commit` say what they do to the committed rows.
* `CommitClean`: when a hold commits, its own release has reached every seat that
  the user holds on the trip.
* `commitExact_iff`: exactly then the user ends up with the seats of that request
  alone; `rehold_never_stacks` says so of every run, and `rehold_stacks` is a run
  where two concurrent holds add up.
-/

namespace TransHub

/-- The committed rows, and the row locks of the open transactions. -/
structure HoldDB where
  seats : List Seat
  locks : List (SeatId × ℕ)
  deriving DecidableEq

/-- Where a hold request stands.  `mine` are the row versions that its transaction has
written. -/
inductive HoldPc where
  | release
  | releasing (todo : List SeatId) (mine : List Seat)
  | claim (mine : List Seat)
  | commit (mine : List Seat) (ids : List SeatId)
  | done (claimed : Option (List SeatId))
  deriving DecidableEq

/-- A hold request. -/
structure HoldTx where
  input : Bookings.HoldInput
  userId : UserId
  expiresAt : Time
  pc : HoldPc := .release

namespace HoldDB

/-- A row that another open transaction has locked. -/
def lockedByOther (r : HoldDB) (i : ℕ) (x : SeatId) : Bool :=
  r.locks.any fun l => l.1 == x && l.2 != i

def lock (r : HoldDB) (i : ℕ) (ids : List SeatId) : HoldDB :=
  { r with locks := r.locks ++ ids.map fun x => (x, i) }

/-- The end of a transaction. -/
def unlock (r : HoldDB) (i : ℕ) : HoldDB :=
  { r with locks := r.locks.filter fun l => l.2 != i }

end HoldDB

/-- The rows as the transaction that wrote `mine` sees them. -/
def overlay (mine seats : List Seat) : List Seat :=
  seats.map fun s => (mine.find? fun m => m.id = s.id).getD s

namespace HoldTx

/-- The next statement, or part of it, of the `i`-th request; `abort` ends the
transaction instead. -/
def step (i : ℕ) (l : HoldTx) (r : HoldDB) (abort : Bool) : Option (HoldTx × HoldDB) :=
  match l.pc, abort with
  | .done _, _ => none
  | _, true => some ({ l with pc := .done none }, r.unlock i)
  | .release, false =>
      -- the snapshot of `releaseUserHoldsForTrip`
      let todo := (r.seats.filter (Inventory.heldByUser l.input.tripId l.userId)).map Seat.id
      some ({ l with pc := .releasing todo [] }, r)
  | .releasing [] mine, false => some ({ l with pc := .claim mine }, r)
  | .releasing (x :: todo) mine, false =>
      if r.lockedByOther i x then none
      else match r.seats.find? fun s => s.id = x with
        | some s =>
            if Inventory.heldByUser l.input.tripId l.userId s then
              some ({ l with pc := .releasing todo (s.free :: mine) }, r.lock i [x])
            else some ({ l with pc := .releasing todo mine }, r)
        | none => some ({ l with pc := .releasing todo mine }, r)
  | .claim mine, false =>
      match Inventory.claimSeats (r.lockedByOther i) l.input.tripId l.input.quantity l.userId
          l.expiresAt (overlay mine r.seats) with
      | .ok (ids, seats) =>
          let written := ids ++ mine.map Seat.id
          some ({ l with pc := .commit (seats.filter fun s => written.contains s.id) ids },
            r.lock i ids)
      | .error _ => some ({ l with pc := .done none }, r.unlock i)
  | .commit mine ids, false =>
      some ({ l with pc := .done (some ids) }, { r with seats := overlay mine r.seats }.unlock i)

end HoldTx

/-- Hold requests over the rows of `seats`; a request is its validated body, the user
and the instant its seats will lapse. -/
def holdMachine : Machine HoldDB HoldTx (Bookings.HoldInput × UserId × Time) Bool Empty where
  start o := { input := o.1, userId := o.2.1, expiresAt := o.2.2 }
  step := HoldTx.step
  env _ e := nomatch e

/-- Runs of any requests on any rows with distinct ids. -/
def holds : System (Config HoldDB HoldTx) (Act (Bookings.HoldInput × UserId × Time) Bool Empty) :=
  holdMachine.system fun r => (r.seats.map Seat.id).Nodup ∧ r.locks = []

/-! ## Overlays -/

theorem overlay_id (mine : List Seat) (s : Seat) :
    ((mine.find? fun m => m.id = s.id).getD s).id = s.id := by
  cases h : mine.find? fun m => m.id = s.id with
  | none => rfl
  | some m => simpa using List.find?_some h

theorem overlay_map_id (mine seats : List Seat) :
    (overlay mine seats).map Seat.id = seats.map Seat.id := by
  rw [overlay, List.map_map]
  exact List.map_congr_left fun s _ => overlay_id mine s

/-- A row of an overlay is one of the written versions or a row none of them is of. -/
theorem mem_overlay {mine seats : List Seat} {s : Seat} (h : s ∈ overlay mine seats) :
    s ∈ mine ∨ (s ∈ seats ∧ s.id ∉ mine.map Seat.id) := by
  obtain ⟨s₀, hs₀, rfl⟩ := List.mem_map.mp h
  cases hf : mine.find? fun m => m.id = s₀.id with
  | none =>
    refine Or.inr ⟨hs₀, ?_⟩
    intro hmem
    obtain ⟨m, hm, hid⟩ := List.mem_map.mp hmem
    exact absurd hid (by simpa using List.find?_eq_none.mp hf m hm)
  | some m => exact Or.inl (List.mem_of_find?_eq_some hf)

/-- A written version of a stored row shows. -/
theorem mem_overlay_of_mem {mine seats : List Seat} {m : Seat}
    (hmine : (mine.map Seat.id).Nodup) (hm : m ∈ mine) (hid : m.id ∈ seats.map Seat.id) :
    m ∈ overlay mine seats := by
  obtain ⟨s, hs, hsid⟩ := List.mem_map.mp hid
  refine List.mem_map.mpr ⟨s, hs, ?_⟩
  have hf := Table.find?_eq_some_of_mem hmine hm
  rw [hsid, hf, Option.getD_some]

/-- A row that no version was written of shows. -/
theorem mem_overlay_of_not_mem {mine seats : List Seat} {s : Seat} (hs : s ∈ seats)
    (hid : s.id ∉ mine.map Seat.id) : s ∈ overlay mine seats := by
  refine List.mem_map.mpr ⟨s, hs, ?_⟩
  have hf : mine.find? (fun m => m.id = s.id) = none :=
    List.find?_eq_none.mpr fun m hm => by
      simp only [decide_eq_true_eq]
      exact fun he => hid (he ▸ List.mem_map_of_mem hm)
  rw [hf, Option.getD_none]

/-! ## What the statements do -/

namespace HoldTx

variable {i : ℕ} {l l' : HoldTx} {r r' : HoldDB} {abort : Bool}

/-- A seat that the request's user holds on its trip. -/
def owns (l : HoldTx) (s : Seat) : Bool :=
  Inventory.heldByUser l.input.tripId l.userId s

theorem step_commit_eq {mine : List Seat} {ids : List SeatId} (hpc : l.pc = .commit mine ids) :
    step i l r false = some ({ l with pc := .done (some ids) },
      { r with seats := overlay mine r.seats }.unlock i) := by
  unfold step
  rw [hpc]

/-- A commit makes the written versions show. -/
theorem step_commit {mine : List Seat} {ids : List SeatId} (hpc : l.pc = .commit mine ids)
    (h : step i l r false = some (l', r')) :
    l' = { l with pc := .done (some ids) } ∧ r'.seats = overlay mine r.seats := by
  rw [step_commit_eq hpc] at h
  cases h
  exact ⟨rfl, rfl⟩

/-- No other step writes a committed row. -/
theorem step_of_not_commit (hpc : ∀ mine ids, l.pc = .commit mine ids → abort = true)
    (h : step i l r abort = some (l', r')) : r'.seats = r.seats := by
  unfold step at h
  split at h
  · exact absurd h (by simp)
  · cases h
    rfl
  · cases h
    rfl
  · cases h
    rfl
  · split at h
    · exact absurd h (by simp)
    · split at h
      · split at h <;> cases h <;> rfl
      · cases h
        rfl
  · split at h <;> cases h <;> rfl
  · next mine ids hcommit =>
    exact absurd (hpc mine ids hcommit) (by simp)

/-- The ids of the rows never change. -/
theorem step_ids (h : step i l r abort = some (l', r')) :
    r'.seats.map Seat.id = r.seats.map Seat.id := by
  by_cases hpc : ∃ mine ids, l.pc = .commit mine ids ∧ abort = false
  · obtain ⟨mine, ids, hpc, rfl⟩ := hpc
    rw [(step_commit hpc h).2, overlay_map_id]
  · rw [step_of_not_commit (fun mine ids hc => ?_) h]
    cases abort with
    | true => rfl
    | false => exact absurd ⟨mine, ids, hc, rfl⟩ hpc

/-- A request that has ended takes no step. -/
theorem step_done {claimed : Option (List SeatId)} (hpc : l.pc = .done claimed) (i : ℕ)
    (r : HoldDB) (abort : Bool) : step i l r abort = none := by
  unfold step
  rw [hpc]

/-! ## What a transaction has written -/

/-- What a transaction about to commit has written: the claimed seats, as many as it
was asked for and held by its user, and freed ones. -/
structure Claimed (l : HoldTx) (seats : List Seat) (mine : List Seat) (ids : List SeatId) :
    Prop where
  length : ids.length = l.input.quantity
  nodup : ids.Nodup
  mine_nodup : (mine.map Seat.id).Nodup
  stored : ∀ x ∈ ids, x ∈ seats.map Seat.id
  held : ∀ m ∈ mine, m.status = .held → m.id ∈ ids ∧ l.owns m = true
  claimed : ∀ x ∈ ids, ∃ m ∈ mine, m.id = x ∧ l.owns m = true

/-- What the transaction of a request has written so far. -/
def Written (l : HoldTx) (seats : List Seat) : Prop :=
  match l.pc with
  | .release | .done _ => True
  | .releasing _ mine | .claim mine => ∀ m ∈ mine, m.status ≠ .held
  | .commit mine ids => Claimed l seats mine ids

/-- What a request has written does not depend on the other columns of the rows. -/
theorem Written.congr {seats seats' : List Seat} (h : l.Written seats)
    (hids : seats'.map Seat.id = seats.map Seat.id) : l.Written seats' := by
  rw [Written] at h ⊢
  split
  · trivial
  · trivial
  · next hpc => rwa [hpc] at h
  · next hpc => rwa [hpc] at h
  · next hpc =>
    rw [hpc] at h
    exact { h with stored := fun x hx => by rw [hids]; exact h.stored x hx }

/-- A successful claim. -/
theorem claimed_of_claimSeats {locked : SeatId → Bool} {mine seats seats' : List Seat}
    {ids : List SeatId} (hseats : (seats.map Seat.id).Nodup)
    (hmine : ∀ m ∈ mine, m.status ≠ .held)
    (h : Inventory.claimSeats locked l.input.tripId l.input.quantity l.userId l.expiresAt
      (overlay mine seats) = .ok (ids, seats')) :
    Claimed l seats (seats'.filter fun s => (ids ++ mine.map Seat.id).contains s.id) ids := by
  obtain ⟨hids, hlen, -, rfl⟩ := Inventory.claimSeats_ok h
  have hover : ((overlay mine seats).map Seat.id).Nodup := by rwa [overlay_map_id]
  have hmark : ((Inventory.markHeld ids l.userId l.expiresAt (overlay mine seats)).map
      Seat.id).Nodup := by
    rw [Inventory.markHeld, Table.map_updateMany fun s _ _ => Seat.hold_id s _ _]
    exact hover
  -- a row with a claimed id is a claimed row
  have hrow : ∀ s ∈ overlay mine seats, s.id ∈ ids → s.tripId = l.input.tripId := by
    intro s hs hmem
    rw [hids] at hmem
    obtain ⟨c, hc, hcid⟩ := List.mem_map.mp hmem
    obtain ⟨hcmem, htrip, -, -⟩ := Inventory.mem_claimRows hc
    rwa [← List.inj_on_of_nodup_map hover hcmem hs hcid]
  have howns : ∀ s ∈ overlay mine seats, s.id ∈ ids →
      l.owns (s.hold l.userId l.expiresAt) = true := fun s hs hmem =>
    Inventory.heldByUser_iff.mpr ⟨hrow s hs hmem, rfl, rfl⟩
  refine ⟨hlen, ?_, Table.nodup_map_filter hmark _, ?_, ?_, ?_⟩
  · rw [hids]
    exact Inventory.nodup_claimRows hover
  · intro x hx
    rw [hids] at hx
    obtain ⟨c, hc, rfl⟩ := List.mem_map.mp hx
    rw [← overlay_map_id mine seats]
    exact List.mem_map_of_mem (Inventory.mem_claimRows hc).1
  · intro m hm hheld
    obtain ⟨hm, hwritten⟩ := List.mem_filter.mp hm
    obtain ⟨s, hs, rfl⟩ := Table.mem_updateMany.mp hm
    cases hc : ids.contains s.id with
    | true =>
      have hin := List.contains_iff_mem.mp hc
      rw [if_pos rfl]
      exact ⟨hin, howns s hs hin⟩
    | false =>
      rw [hc, if_neg (by simp)] at hheld hwritten
      have hnot : s.id ∉ ids := by simpa using hc
      rcases List.mem_append.mp (List.contains_iff_mem.mp hwritten) with hin | hin
      · exact absurd hin hnot
      · rcases mem_overlay hs with hmem | ⟨-, hnm⟩
        · exact absurd hheld (hmine s hmem)
        · exact absurd hin hnm
  · intro x hx
    have hx' := hx
    rw [hids] at hx'
    obtain ⟨c, hc, rfl⟩ := List.mem_map.mp hx'
    have hcmem := (Inventory.mem_claimRows hc).1
    refine ⟨c.hold l.userId l.expiresAt, List.mem_filter.mpr ⟨?_, ?_⟩, rfl,
      howns c hcmem hx⟩
    · have hupd := Table.mem_updateMany_of_mem (p := fun s => ids.contains s.id)
        (f := Seat.hold l.userId l.expiresAt) hcmem
      rwa [if_pos (List.contains_iff_mem.mpr hx)] at hupd
    · exact List.contains_iff_mem.mpr (List.mem_append_left _ hx)

/-- **What a step has written.** -/
theorem step_written (hseats : (r.seats.map Seat.id).Nodup) (hw : l.Written r.seats)
    (h : step i l r abort = some (l', r')) : l'.Written r'.seats := by
  refine Written.congr ?_ (step_ids h)
  unfold step at h
  split at h
  · exact absurd h (by simp)
  · cases h
    trivial
  · cases h
    exact fun m hm => absurd hm (by simp)
  · next hpc =>
    cases h
    rw [Written, hpc] at hw
    exact hw
  · next hpc =>
    rw [Written, hpc] at hw
    split at h
    · exact absurd h (by simp)
    · split at h
      · split at h
        · cases h
          intro m hm
          rcases List.mem_cons.mp hm with rfl | hm
          · simp
          · exact hw m hm
        · cases h
          exact hw
      · cases h
        exact hw
  · next hpc =>
    rw [Written, hpc] at hw
    split at h
    · next hok =>
      cases h
      exact claimed_of_claimSeats hseats hw hok
    · cases h
      trivial
  · cases h
    trivial

/-! ## What a commit leaves its user with -/

/-- After a clean commit the user holds on the trip what the request claimed. -/
theorem Claimed.count_le {mine seats : List Seat} {ids : List SeatId}
    (h : Claimed l seats mine ids) (hseats : (seats.map Seat.id).Nodup)
    (hclean : ∀ s ∈ seats, l.owns s = true → s.id ∈ mine.map Seat.id) :
    (overlay mine seats).countP l.owns ≤ l.input.quantity := by
  have hover : ((overlay mine seats).map Seat.id).Nodup := by rwa [overlay_map_id]
  have hle : (overlay mine seats).countP l.owns ≤
      (overlay mine seats).countP (fun s => ids.contains s.id) := by
    refine List.countP_mono_left fun s hs howns => List.contains_iff_mem.mpr ?_
    rcases mem_overlay hs with hmem | ⟨hmem, hnot⟩
    · exact (h.held s hmem (Inventory.heldByUser_iff.mp howns).2.1).1
    · exact absurd (hclean s hmem howns) hnot
  exact (hle.trans (Table.countP_contains_le hover ids)).trans (le_of_eq h.length)

/-- A held seat that the release has not reached comes on top. -/
theorem Claimed.lt_count {mine seats : List Seat} {ids : List SeatId}
    (h : Claimed l seats mine ids) {s : Seat} (hs : s ∈ seats) (howns : l.owns s = true)
    (hnot : s.id ∉ mine.map Seat.id) :
    l.input.quantity < (overlay mine seats).countP l.owns := by
  have hnodup : (s.id :: ids).Nodup := by
    refine List.nodup_cons.mpr ⟨?_, h.nodup⟩
    intro hmem
    obtain ⟨m, hm, hid, -⟩ := h.claimed s.id hmem
    exact hnot (hid ▸ List.mem_map_of_mem hm)
  have hsub : s.id :: ids ⊆ ((overlay mine seats).filter l.owns).map Seat.id := by
    intro x hx
    rcases List.mem_cons.mp hx with rfl | hx
    · exact List.mem_map_of_mem (List.mem_filter.mpr ⟨mem_overlay_of_not_mem hs hnot, howns⟩)
    · obtain ⟨m, hm, rfl, hm'⟩ := h.claimed x hx
      exact List.mem_map_of_mem (List.mem_filter.mpr
        ⟨mem_overlay_of_mem h.mine_nodup hm (h.stored m.id hx), hm'⟩)
  have hle := (List.subperm_of_subset hnodup hsub).length_le
  rw [List.length_map, ← List.countP_eq_length_filter, List.length_cons, h.length] at hle
  exact hle

/-- **A commit leaves its user with no more than the request claimed exactly when its
release has reached everything the user held.** -/
theorem Claimed.count_le_iff {mine seats : List Seat} {ids : List SeatId}
    (h : Claimed l seats mine ids) (hseats : (seats.map Seat.id).Nodup) :
    (overlay mine seats).countP l.owns ≤ l.input.quantity ↔
      ∀ s ∈ seats, l.owns s = true → s.id ∈ mine.map Seat.id := by
  refine ⟨?_, h.count_le hseats⟩
  intro hle s hs howns
  by_contra hnot
  exact absurd (h.lt_count hs howns hnot) (Nat.not_lt_of_le hle)

/-- A commit of another user or trip adds nothing to what a user holds. -/
theorem Claimed.count_other {mine seats : List Seat} {ids : List SeatId}
    (h : Claimed l seats mine ids) {tripId : TripId} {userId : UserId}
    (hne : ¬ (l.input.tripId = tripId ∧ l.userId = userId)) :
    (overlay mine seats).countP (Inventory.heldByUser tripId userId) ≤
      seats.countP (Inventory.heldByUser tripId userId) := by
  rw [overlay, List.countP_map]
  refine List.countP_mono_left ?_
  intro s _ hheld
  have hheld : Inventory.heldByUser tripId userId
      ((mine.find? fun m => m.id = s.id).getD s) = true := hheld
  cases hf : mine.find? fun m => m.id = s.id with
  | none => rwa [hf] at hheld
  | some m =>
    rw [hf, Option.getD_some] at hheld
    obtain ⟨htrip, hst, hby⟩ := Inventory.heldByUser_iff.mp hheld
    have howns := (h.held m (List.mem_of_find?_eq_some hf) hst).2
    obtain ⟨htrip', -, hby'⟩ := Inventory.heldByUser_iff.mp howns
    rw [hby', Option.some.injEq] at hby
    exact absurd ⟨htrip'.symm.trans htrip, hby⟩ hne

end HoldTx

/-! ## Runs -/

/-- Each request's writes are as `HoldTx.Written` says. -/
theorem holds_outline : holdMachine.Outline (fun _ => True)
    (fun r => (r.seats.map Seat.id).Nodup ∧ r.locks = [])
    (fun _ r => (r.seats.map Seat.id).Nodup) (fun _ l r => l.Written r.seats) where
  init r hr := hr.1
  spawn n o r _ hG := hG
  start n o r _ _ := trivial
  shared n i x l r l' r' _ _ hG _ hs := by
    rw [HoldTx.step_ids hs]
    exact hG
  self n i x l r l' r' _ _ hG hL hs := HoldTx.step_written hG hL hs
  other n i x l r l' r' j m _ _ _ _ _ hm hs := hm.congr (HoldTx.step_ids hs)
  env_shared n e := nomatch e
  env_other n e := nomatch e

theorem holds_asserts {c : Config HoldDB HoldTx} (h : holds.Reachable c) :
    Machine.Asserts (fun _ r => (r.seats.map Seat.id).Nodup)
      (fun _ l r => HoldTx.Written l r.seats) c :=
  holds_outline.invariant h.by_any

/-- The move commits a hold of the user on the trip. -/
structure Commits (tripId : TripId) (userId : UserId) (c : Config HoldDB HoldTx)
    (a : Act (Bookings.HoldInput × UserId × Time) Bool Empty) (l : HoldTx) (mine : List Seat)
    (ids : List SeatId) : Prop where
  run : ∃ i, a = .run i false ∧ c.procs[i]? = some l
  pc : l.pc = .commit mine ids
  trip : l.input.tripId = tripId
  user : l.userId = userId

/-- When a hold of the user on the trip commits, its own release has reached every
seat that the user then holds there. -/
def CommitClean (tripId : TripId) (userId : UserId) (c : Config HoldDB HoldTx)
    (a : Act (Bookings.HoldInput × UserId × Time) Bool Empty) : Prop :=
  ∀ l mine ids, Commits tripId userId c a l mine ids →
    ∀ s ∈ c.shared.seats, Inventory.heldByUser tripId userId s = true →
      s.id ∈ mine.map Seat.id

/-- The row versions of a request whose next statement is its commit. -/
def HoldPc.written : HoldPc → Option (List Seat)
  | .commit mine _ => some mine
  | _ => none

theorem HoldPc.mem_written {pc : HoldPc} {mine : List Seat} :
    mine ∈ pc.written ↔ ∃ ids, pc = .commit mine ids := by
  cases pc <;> simp [HoldPc.written, eq_comm]

theorem commitClean_run {tripId : TripId} {userId : UserId} {c : Config HoldDB HoldTx} {i : ℕ} :
    CommitClean tripId userId c (.run i false) ↔
      ∀ l ∈ c.procs[i]?, l.input.tripId = tripId ∧ l.userId = userId →
        ∀ mine ∈ l.pc.written, ∀ s ∈ c.shared.seats,
          Inventory.heldByUser tripId userId s = true → s.id ∈ mine.map Seat.id := by
  constructor
  · rintro h l hl ⟨htrip, huser⟩ mine hmine
    obtain ⟨ids, hpc⟩ := HoldPc.mem_written.mp hmine
    exact h l mine ids ⟨⟨i, rfl, hl⟩, hpc, htrip, huser⟩
  · rintro h l mine ids ⟨⟨j, hj, hl⟩, hpc, htrip, huser⟩
    obtain ⟨rfl, -⟩ := Act.run.inj hj
    exact h l hl ⟨htrip, huser⟩ mine (HoldPc.mem_written.mpr ⟨ids, hpc⟩)

theorem commitClean_of_ne {tripId : TripId} {userId : UserId} {c : Config HoldDB HoldTx}
    {a : Act (Bookings.HoldInput × UserId × Time) Bool Empty} (h : ∀ i, a ≠ .run i false) :
    CommitClean tripId userId c a := by
  rintro l mine ids ⟨⟨i, hi, -⟩, -, -, -⟩
  exact absurd hi (h i)

instance (tripId : TripId) (userId : UserId) (c : Config HoldDB HoldTx) :
    DecidablePred (CommitClean tripId userId c)
  | .spawn _ => isTrue (commitClean_of_ne fun _ => nofun)
  | .run _ true => isTrue (commitClean_of_ne fun _ => nofun)
  | .run _ false => decidable_of_iff _ commitClean_run.symm

/-- What a user holds on a trip. -/
def heldCount (tripId : TripId) (userId : UserId) (c : Config HoldDB HoldTx) : ℕ :=
  c.shared.seats.countP (Inventory.heldByUser tripId userId)

/-- Once a hold of the user on the trip has committed, the user holds no more than it
asked for. -/
def CommitExact (tripId : TripId) (userId : UserId) (c : Config HoldDB HoldTx)
    (a : Act (Bookings.HoldInput × UserId × Time) Bool Empty) : Prop :=
  ∀ l mine ids, Commits tripId userId c a l mine ids →
    ∀ c', holds.step c a = some c' → heldCount tripId userId c' ≤ l.input.quantity

theorem commits_step {tripId : TripId} {userId : UserId} {c c' : Config HoldDB HoldTx}
    {a : Act (Bookings.HoldInput × UserId × Time) Bool Empty} {l : HoldTx} {mine : List Seat}
    {ids : List SeatId} (h : Commits tripId userId c a l mine ids)
    (hs : holds.step c a = some c') : c'.shared.seats = overlay mine c.shared.seats := by
  obtain ⟨i, rfl, hi⟩ := h.run
  obtain ⟨l', r', hstep, rfl, -⟩ := Machine.step_of_next_run hi hs
  exact (HoldTx.step_commit h.pc hstep).2

/-- **One commit.** -/
theorem commitExact_iff {tripId : TripId} {userId : UserId} {c : Config HoldDB HoldTx}
    (hr : holds.Reachable c) (a : Act (Bookings.HoldInput × UserId × Time) Bool Empty) :
    CommitExact tripId userId c a ↔ CommitClean tripId userId c a := by
  obtain ⟨hG, hL⟩ := holds_asserts hr
  refine forall_congr' fun l => forall_congr' fun mine => forall_congr' fun ids =>
    forall_congr' ?_
  intro hc
  obtain ⟨i, rfl, hi⟩ := hc.run
  have hclaimed : l.Claimed c.shared.seats mine ids := by
    have hw : l.Written c.shared.seats := hL i l hi
    rwa [HoldTx.Written, hc.pc] at hw
  have howns : l.owns = Inventory.heldByUser tripId userId := by
    funext s
    rw [HoldTx.owns, hc.trip, hc.user]
  obtain ⟨c', hc'⟩ : ∃ c', holds.step c (.run i false) = some c' :=
    ⟨_, Machine.next_run.mpr ⟨l, _, _, hi, HoldTx.step_commit_eq hc.pc, rfl⟩⟩
  rw [← howns, ← hclaimed.count_le_iff hG, howns]
  have hseats := commits_step hc hc'
  constructor
  · intro h
    rw [← hseats]
    exact h c' hc'
  · intro h c'' hc''
    rw [heldCount, commits_step hc hc'']
    exact h

/-- What the user holds is covered by one successful request. -/
def Covered (tripId : TripId) (userId : UserId) (c : Config HoldDB HoldTx) : Prop :=
  heldCount tripId userId c = 0 ∨ ∃ (i : ℕ) (l : HoldTx) (ids : List SeatId),
    c.procs[i]? = some l ∧ l.input.tripId = tripId ∧ l.userId = userId ∧
    l.pc = .done (some ids) ∧ heldCount tripId userId c ≤ l.input.quantity

/-- A move that adds nothing to what the user holds keeps it covered. -/
theorem Covered.mono {tripId : TripId} {userId : UserId} {c c' : Config HoldDB HoldTx}
    {a : Act (Bookings.HoldInput × UserId × Time) Bool Empty} (h : Covered tripId userId c)
    (hs : holds.step c a = some c')
    (hle : heldCount tripId userId c' ≤ heldCount tripId userId c) :
    Covered tripId userId c' := by
  rcases h with h | ⟨i, l, ids, hi, htrip, huser, hpc, hq⟩
  · exact Or.inl (by omega)
  · have hi' := Machine.local_of_leads (M := holdMachine) (fun r x => HoldTx.step_done hpc i r x)
      hi (System.Leads.of_step hs)
    exact Or.inr ⟨i, l, ids, hi', htrip, huser, hpc, hle.trans hq⟩

/-- A move that meets the condition keeps what the user holds covered. -/
theorem covered_step {tripId : TripId} {userId : UserId} {c c' : Config HoldDB HoldTx}
    {a : Act (Bookings.HoldInput × UserId × Time) Bool Empty} (hr : holds.Reachable c)
    (h : Covered tripId userId c) (hclean : CommitClean tripId userId c a)
    (hs : holds.step c a = some c') : Covered tripId userId c' := by
  rcases Machine.next_cases hs with ⟨o, rfl, rfl⟩ | ⟨i, x, l, l', r', rfl, hi, hstep, rfl⟩ |
    ⟨e, -, -, -, -⟩
  · exact h.mono hs (le_refl _)
  · by_cases hpc : ∃ mine ids, l.pc = .commit mine ids ∧ x = false
    · obtain ⟨mine, ids, hpc, rfl⟩ := hpc
      obtain ⟨rfl, hseats⟩ := HoldTx.step_commit hpc hstep
      by_cases hsame : l.input.tripId = tripId ∧ l.userId = userId
      · have hc : Commits tripId userId c (.run i false) l mine ids :=
          ⟨⟨i, rfl, hi⟩, hpc, hsame.1, hsame.2⟩
        have hq := (commitExact_iff hr _).mpr hclean l mine ids hc _ hs
        obtain ⟨hlt, -⟩ := List.getElem?_eq_some_iff.mp hi
        exact Or.inr ⟨i, _, ids, List.getElem?_set_self hlt, hsame.1, hsame.2, rfl, hq⟩
      · have hclaimed : l.Claimed c.shared.seats mine ids := by
          have hw : l.Written c.shared.seats := (holds_asserts hr).2 i l hi
          rwa [HoldTx.Written, hpc] at hw
        refine h.mono hs ?_
        show r'.seats.countP _ ≤ _
        rw [hseats]
        exact hclaimed.count_other hsame
    · have hseats := HoldTx.step_of_not_commit (fun mine ids hc => by
        cases x with
        | true => rfl
        | false => exact absurd ⟨mine, ids, hc, rfl⟩ hpc) hstep
      refine h.mono hs (le_of_eq ?_)
      show r'.seats.countP _ = _
      rw [hseats]
      rfl
  · exact nomatch e

/-- **When holds stack.**  Along any run of concurrent hold requests from rows of which
the user holds none on the trip: each of the user's commits there leaves the user with
no more than it asked for exactly when its release has reached all the user held; and
in a run of such commits the user never holds more than one successful request asked
for, six seats at most. -/
theorem rehold_never_stacks {c₀ : Config HoldDB HoldTx} (h₀ : holds.init c₀) (tripId : TripId)
    (userId : UserId) (hfree : heldCount tripId userId c₀ = 0)
    (acts : List (Act (Bookings.HoldInput × UserId × Time) Bool Empty)) :
    (holds.AllSteps (CommitExact tripId userId) c₀ acts ↔
      holds.AllSteps (CommitClean tripId userId) c₀ acts) ∧
    (holds.AllSteps (CommitClean tripId userId) c₀ acts → ∀ c, holds.run c₀ acts = some c →
      heldCount tripId userId c = 0 ∨ ∃ (i : ℕ) (l : HoldTx) (ids : List SeatId),
        c.procs[i]? = some l ∧ l.input.tripId = tripId ∧ l.userId = userId ∧
        l.pc = .done (some ids) ∧ heldCount tripId userId c ≤ l.input.quantity ∧
        l.input.quantity ≤ 6) := by
  refine ⟨System.allSteps_iff (.of_init h₀) fun c a hr => commitExact_iff hr a, ?_⟩
  intro hall c hrun
  have hcov : holds.Reachable c ∧ Covered tripId userId c :=
    hall.invariant (P := fun c => holds.Reachable c ∧ Covered tripId userId c) hrun
      (fun r a r' hP hC hs => ⟨hP.1.step hs, covered_step hP.1 hP.2 hC hs⟩)
      ⟨.of_init h₀, Or.inl hfree⟩
  rcases hcov.2 with hzero | ⟨i, l, ids, hi, htrip, huser, hpc, hq⟩
  · exact Or.inl hzero
  · exact Or.inr ⟨i, l, ids, hi, htrip, huser, hpc, hq, l.input.le_six⟩

/-- Two free seats of one trip. -/
def twoFree : Config HoldDB HoldTx :=
  ⟨⟨[⟨10, 1, ⟨65, 1⟩, .available, none, none⟩, ⟨11, 1, ⟨65, 2⟩, .available, none, none⟩], []⟩, []⟩

theorem twoFree_init : holds.init twoFree := ⟨⟨by decide, rfl⟩, rfl⟩

/-- A request of user 7 for one seat of trip 1. -/
def oneSeat : Bookings.HoldInput × UserId × Time :=
  (⟨1, 1, by decide, by decide⟩, 7, 600000)

/-- A double tap: both releases take their snapshots before either claim commits. -/
def doubleTap : List (Act (Bookings.HoldInput × UserId × Time) Bool Empty) :=
  [.spawn oneSeat, .spawn oneSeat, .run 0 false, .run 0 false, .run 1 false, .run 1 false,
    .run 0 false, .run 1 false, .run 0 false, .run 1 false]

/-- The same two requests, one after the other. -/
def tapsInTurn : List (Act (Bookings.HoldInput × UserId × Time) Bool Empty) :=
  .spawn oneSeat :: List.replicate 4 (.run 0 false) ++
    .spawn oneSeat :: List.replicate 5 (.run 1 false)

theorem tapsInTurn_runs : (holds.run twoFree tapsInTurn).isSome = true := by decide +kernel

/-- Where the requests in turn end. -/
def tappedInTurn : Config HoldDB HoldTx := (holds.run twoFree tapsInTurn).get tapsInTurn_runs

theorem tapsInTurn_clean : holds.AllSteps (CommitClean 1 7) twoFree tapsInTurn := by
  decide +kernel

theorem rehold_never_stacks_taps : heldCount 1 7 twoFree = 0 ∧
    (holds.AllSteps (CommitExact 1 7) twoFree doubleTap ↔
      holds.AllSteps (CommitClean 1 7) twoFree doubleTap) ∧
    holds.AllSteps (CommitExact 1 7) twoFree tapsInTurn ∧
    tappedInTurn.procs.map HoldTx.pc = [.done (some [10]), .done (some [10])] ∧
    heldCount 1 7 tappedInTurn = 1 ∧
    (heldCount 1 7 tappedInTurn = 0 ∨ ∃ (i : ℕ) (l : HoldTx) (ids : List SeatId),
      tappedInTurn.procs[i]? = some l ∧ l.input.tripId = 1 ∧ l.userId = 7 ∧
      l.pc = .done (some ids) ∧ heldCount 1 7 tappedInTurn ≤ l.input.quantity ∧
      l.input.quantity ≤ 6) :=
  ⟨rfl, (rehold_never_stacks twoFree_init 1 7 rfl doubleTap).1,
    (rehold_never_stacks twoFree_init 1 7 rfl tapsInTurn).1.mpr tapsInTurn_clean,
    by decide +kernel, by decide +kernel,
    (rehold_never_stacks twoFree_init 1 7 rfl tapsInTurn).2 tapsInTurn_clean tappedInTurn
      (Option.some_get _).symm⟩

/-- **Two concurrent holds of one user add up.**  Both requests for one seat succeed, and
the user holds two. -/
theorem rehold_stacks : holds.init twoFree ∧ heldCount 1 7 twoFree = 0 ∧
    ∃ c, holds.run twoFree doubleTap = some c ∧ heldCount 1 7 c = 2 ∧
      c.procs.map HoldTx.pc = [.done (some [10]), .done (some [11])] ∧
      c.procs.map (fun l => l.input.quantity) = [1, 1] :=
  ⟨twoFree_init, rfl, _, rfl, rfl, rfl, rfl⟩

end TransHub
