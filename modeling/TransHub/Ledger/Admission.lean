import TransHub.Foundation.Machine
import TransHub.Ledger.Availability

/-!
# Holds on trips that close

`bookingsService.hold` reads the state of the trip and later claims the seats in a transaction
that does not look at the trip again.  Between the two, `toggleActive`, `markFull` and
`setOfflineCount` may write the columns that it has checked.

* `AdmissionCall.step`, `admission`: the calls over the ledger, one step for each statement or
  transaction, with the committed writes and the claimed trips as histories.
* `AdmissionEffect`, `step_effect`: what a step can do to the trips.
* `AdmissionCall.Checked`: the trip of a hold is as the writes since its check have left it.
* `LeftOpen`: no write since the check has closed the trip for good; `holds_open_iff`: the runs
  whose claims are so are those that hold seats on open trips only.
-/

namespace TransHub

open Bookings (HoldInput HoldResult)

/-! ## The calls -/

/-- What a committed write has put into the columns that `hold` checks. -/
structure StateWrite where
  tripId : TripId
  isActive : Option Bool := none
  isFull : Option Bool := none
  deriving DecidableEq

/-- The tables and, as histories, the committed writes, the latest last, and the row of the trip
at each committed hold. -/
structure AdmissionDB where
  db : DB
  writes : List StateWrite
  claims : List (Option Trip)
  deriving DecidableEq

/-- What a call returns. -/
inductive AdmissionResult where
  | held (result : HoldResult)
  | trip (t : Trips.TripDTO)
  deriving DecidableEq

/-- A call of `setOfflineCount`. -/
structure OfflineCall where
  id : TripId
  operatorId : Option OperatorId
  role : Role
  offlineCount : ℕ
  driverId : Option DriverId
  deriving DecidableEq

/-- Where a call stands.  At `claim` a hold has passed its checks, when `checkedAt` writes had
been committed; at `write` the two reads of `setOfflineCount` have been made. -/
inductive AdmissionCall where
  | hold (input : HoldInput) (userId : UserId)
  | claim (input : HoldInput) (userId : UserId) (checkedAt : ℕ)
  | toggleActive (id : TripId) (operatorId : OperatorId) (isActive : Bool)
  | markFull (id : TripId) (operatorId : Option OperatorId) (role : Role) (isFull : Bool)
      (driverId : Option DriverId)
  | setOfflineCount (q : OfflineCall)
  | countSeats (q : OfflineCall) (wasFull : Bool)
  | write (q : OfflineCall) (autoFull : Bool)
  | refetch (id : TripId)
  | done (result : Except Thrown AdmissionResult)

/-- What is called. -/
inductive AdmissionOp where
  | hold (input : HoldInput) (userId : UserId)
  | toggleActive (id : TripId) (operatorId : OperatorId) (isActive : Bool)
  | markFull (id : TripId) (operatorId : Option OperatorId) (role : Role) (isFull : Bool)
      (driverId : Option DriverId)
  | setOfflineCount (q : OfflineCall)

/-- Whether the statement of a step fails, the clock, and the seats that other open transactions
have locked. -/
structure AdmissionInput where
  fault : Bool
  now : Time
  locked : SeatId → Bool

namespace AdmissionCall

def thrown (e : Thrown) : AdmissionCall := .done (.error e)

/-- The tables after an `updateMany` on the trips, which `w` records. -/
def edited (r : AdmissionDB) (w : StateWrite) :
    Except Thrown DB → AdmissionCall × AdmissionDB
  | .error e => (thrown e, r)
  | .ok db => (.refetch w.tripId, { r with db, writes := r.writes ++ [w] })

/-- The next step of a call whose statement does not fail. -/
def perform (l : AdmissionCall) (r : AdmissionDB) (x : AdmissionInput) :
    AdmissionCall × AdmissionDB :=
  match l with
  | .hold input userId => match Bookings.checkTripState input.tripId r.db with
      | .error e => (thrown e, r)
      | .ok _ => (.claim input userId r.writes.length, r)
  | .claim input userId _ =>
      match Bookings.holdSeats x.locked input.tripId input.quantity userId x.now r.db with
      | .error e => (thrown e, r)
      | .ok (h, db) => (.done (.ok (.held h.result)),
          { r with db, claims := r.claims ++ [Trips.findUnique input.tripId r.db] })
  | .toggleActive id operatorId isActive =>
      edited r { tripId := id, isActive := some isActive }
        (Trips.toggleActive id operatorId isActive r.db)
  | .markFull id operatorId role isFull driverId =>
      edited r { tripId := id, isFull := some isFull }
        (Trips.markFull id operatorId role isFull driverId r.db)
  | .setOfflineCount q => match Trips.findById q.id r.db with
      | none => (thrown (.app (.notFoundError "Trip not found")), r)
      | some current =>
          if current.totalSeats < q.offlineCount then
            (thrown (.app (.conflictError "Offline count cannot exceed total seats")), r)
          else (.countSeats q current.isFull, r)
  | .countSeats q wasFull =>
      let effectiveAvailable : ℤ := Trips.countAvailableSeats q.id r.db.seats - q.offlineCount
      (.write q (decide (effectiveAvailable ≤ 0) && !wasFull), r)
  | .write q autoFull =>
      edited r { tripId := q.id, isFull := if autoFull then some true else none }
        (Trips.editTrip ((Trips.ownerFilter q.role q.operatorId q.driverId).matches q.id)
          (fun t => { t with
            offlineCount := q.offlineCount, isFull := if autoFull then true else t.isFull }) r.db)
  | .refetch id => match Trips.findById id r.db with
      | none => (thrown (.app (.notFoundError "Trip not found")), r)
      | some t => (.done (.ok (.trip t)), r)
  | .done result => (.done result, r)

/-- The next step of a call. -/
def step (l : AdmissionCall) (r : AdmissionDB) (x : AdmissionInput) :
    Option (AdmissionCall × AdmissionDB) :=
  match l with
  | .done _ => none
  | l => if x.fault then some (thrown (.db .failed), r) else some (perform l r x)

end AdmissionCall

/-- The operations that write seats and bookings only. -/
def LedgerOp.leavesTrips : LedgerOp → Bool
  | .confirm .. | .releaseSpecificHold .. | .sweepExpiredHolds .. => true
  | _ => false

/-- An operation of the ledger beside the calls. -/
def AdmissionDB.env (r : AdmissionDB) (a : Attempt) : Option AdmissionDB :=
  if a.op.leavesTrips then some { r with db := commit r.db a } else none

/-- Holds and edits of trips over the ledger. -/
def admissionMachine :
    Machine AdmissionDB AdmissionCall AdmissionOp AdmissionInput Attempt where
  start
    | .hold input userId => .hold input userId
    | .toggleActive id operatorId isActive => .toggleActive id operatorId isActive
    | .markFull id operatorId role isFull driverId => .markFull id operatorId role isFull driverId
    | .setOfflineCount q => .setOfflineCount q
  step _ := AdmissionCall.step
  env := AdmissionDB.env

/-- Runs of these from tables whose trips have unique ids. -/
def admission : System (Config AdmissionDB AdmissionCall)
    (Act AdmissionOp AdmissionInput Attempt) :=
  admissionMachine.system fun r =>
    (r.db.trips.map Trip.id).Nodup ∧ r.writes = [] ∧ r.claims = []

/-! ## Columns and the writes since -/

/-- The value of a column after some writes, when it was `b` before them. -/
def lastWritten (column : StateWrite → Option Bool) (id : TripId) (b : Bool)
    (writes : List StateWrite) : Bool :=
  writes.foldl (fun b w => if w.tripId = id then (column w).getD b else b) b

theorem lastWritten_snoc (column : StateWrite → Option Bool) (id : TripId) (b : Bool)
    (writes : List StateWrite) (w : StateWrite) :
    lastWritten column id b (writes ++ [w]) =
      if w.tripId = id then (column w).getD (lastWritten column id b writes)
      else lastWritten column id b writes := by
  rw [lastWritten, List.foldl_append]
  rfl

/-- Those of the writes since `n` that come last. -/
theorem drop_snoc {n : ℕ} {writes : List StateWrite} (hn : n ≤ writes.length) (w : StateWrite) :
    (writes ++ [w]).drop n = writes.drop n ++ [w] :=
  List.drop_append_of_le_length hn

/-! ## What a step does to the trips -/

/-- The effects of a step: the trips are left alone, or one `updateMany` is made on the trip of a
recorded write. -/
inductive AdmissionEffect (r : AdmissionDB) : AdmissionDB → Prop where
  | seats (db : DB) (claims : List (Option Trip)) (h : db.trips = r.db.trips) :
      AdmissionEffect r { r with db, claims }
  | edit (w : StateWrite) (p : Trip → Bool) (f : Trip → Trip) (hany : r.db.trips.any p = true)
      (hp : ∀ t, p t = true → t.id = w.tripId) (hid : ∀ t, (f t).id = t.id)
      (hstatus : ∀ t, (f t).status = t.status)
      (hactive : ∀ t, (f t).isActive = w.isActive.getD t.isActive)
      (hfull : ∀ t, (f t).isFull = w.isFull.getD t.isFull) :
      AdmissionEffect r { r with
        db := { r.db with trips := Table.updateMany p f r.db.trips }
        writes := r.writes ++ [w] }

theorem AdmissionEffect.refl (r : AdmissionDB) : AdmissionEffect r r := .seats r.db r.claims rfl

namespace AdmissionCall

variable {l l' : AdmissionCall} {r r' : AdmissionDB} {x : AdmissionInput}

theorem edited_effect {w : StateWrite} {p : Trip → Bool} {f : Trip → Trip}
    (h : edited r w (Trips.editTrip p f r.db) = (l', r'))
    (hp : ∀ t, p t = true → t.id = w.tripId) (hid : ∀ t, (f t).id = t.id)
    (hstatus : ∀ t, (f t).status = t.status)
    (hactive : ∀ t, (f t).isActive = w.isActive.getD t.isActive)
    (hfull : ∀ t, (f t).isFull = w.isFull.getD t.isFull) : AdmissionEffect r r' := by
  cases hedit : Trips.editTrip p f r.db with
  | error e =>
    rw [hedit] at h
    cases h
    exact .refl r
  | ok db =>
    rw [hedit] at h
    cases h
    obtain ⟨_, hany, hdb⟩ := bind_eq_ok.mp hedit
    cases hdb
    exact .edit w p f (ensure_eq_ok.mp hany) hp hid hstatus hactive hfull

theorem matches_id {f : Trips.OwnerFilter} {id : TripId} {t : Trip} (h : f.matches id t = true) :
    t.id = id := by
  rw [Trips.OwnerFilter.matches, Bool.and_eq_true, Bool.and_eq_true, beq_iff_eq] at h
  exact h.1.1

theorem perform_effect (h : perform l r x = (l', r')) : AdmissionEffect r r' := by
  cases l with
  | hold input userId =>
    dsimp only [perform] at h
    split at h <;> cases h <;> exact .refl r
  | claim input userId n =>
    dsimp only [perform] at h
    split at h
    · cases h
      exact .refl r
    · next hheld =>
      cases h
      obtain ⟨ids, -, -, -, hdb⟩ := Bookings.holdSeats_ok hheld
      exact .seats _ _ (by rw [hdb])
  | toggleActive id operatorId isActive =>
    exact edited_effect h (fun t ht => (Trips.owned_iff.mp ht).1) (fun _ => rfl) (fun _ => rfl)
      (fun _ => rfl) (fun _ => rfl)
  | markFull id operatorId role isFull driverId =>
    exact edited_effect h (fun t ht => matches_id ht) (fun _ => rfl) (fun _ => rfl)
      (fun _ => rfl) (fun _ => rfl)
  | setOfflineCount q =>
    dsimp only [perform] at h
    split at h
    · cases h
      exact .refl r
    · split at h <;> cases h <;> exact .refl r
  | countSeats q wasFull =>
    cases h
    exact .refl r
  | write q autoFull =>
    refine edited_effect h (fun t ht => matches_id ht) (fun _ => rfl) (fun _ => rfl)
      (fun _ => rfl) ?_
    intro t
    cases autoFull <;> rfl
  | refetch id =>
    dsimp only [perform] at h
    split at h <;> cases h <;> exact .refl r
  | done result =>
    cases h
    exact .refl r

/-- **What a step does to the trips.** -/
theorem step_effect (h : step l r x = some (l', r')) : AdmissionEffect r r' := by
  unfold step at h
  split at h
  · cases h
  · split at h
    · cases h
      exact .refl r
    · exact perform_effect (Option.some.inj h)

end AdmissionCall

theorem commit_trips (db : DB) {a : Attempt} (h : a.op.leavesTrips = true) :
    (commit db a).trips = db.trips := by
  obtain ⟨op, aborted⟩ := a
  rw [commit]
  split
  · rfl
  · split
    · next db' hexec =>
      cases op with
      | confirm uuids input userId totalAmount =>
        obtain ⟨dto, hdto⟩ := map_snd_eq_ok.mp hexec
        obtain ⟨seats, -, hcreate⟩ := bind_eq_ok.mp hdto
        exact (Bookings.createBookingRecord_ok hcreate).2.2.2.2.2.1
      | releaseSpecificHold seatIds tripId userId =>
        cases hexec
        rfl
      | sweepExpiredHolds now =>
        cases hexec
        rfl
      | _ => cases h
    · rfl

theorem admission_env {r r' : AdmissionDB} {a : Attempt} (h : r.env a = some r') :
    AdmissionEffect r r' ∧ r'.claims = r.claims := by
  unfold AdmissionDB.env at h
  split at h
  · next hop =>
    cases h
    exact ⟨.seats _ _ (commit_trips r.db hop), rfl⟩
  · cases h

/-! ## The trip of a hold -/

/-- The trip as the writes since the `n`-th have left it, open when they began. -/
structure LeftBy (n : ℕ) (r : AdmissionDB) (t : Trip) : Prop where
  status : [TripStatus.scheduled, .active].contains t.status = true
  isActive : t.isActive = lastWritten StateWrite.isActive t.id true (r.writes.drop n)
  isFull : t.isFull = lastWritten StateWrite.isFull t.id false (r.writes.drop n)

/-- The assertion on a call: the trip of a hold that has passed its checks is there, as the
writes since have left it. -/
def AdmissionCall.Checked (l : AdmissionCall) (r : AdmissionDB) : Prop :=
  match l with
  | .claim input _ n => n ≤ r.writes.length ∧
      ∃ t, Trips.findUnique input.tripId r.db = some t ∧ LeftBy n r t
  | _ => True

section Runs

variable {l l' : AdmissionCall} {r r' : AdmissionDB} {x : AdmissionInput}

/-- Ids stay unique. -/
theorem AdmissionEffect.nodup (he : AdmissionEffect r r') (h : (r.db.trips.map Trip.id).Nodup) :
    (r'.db.trips.map Trip.id).Nodup := by
  cases he with
  | seats db claims htrips =>
    show (db.trips.map Trip.id).Nodup
    rw [htrips]
    exact h
  | edit w p f hany hp hid =>
    show ((Table.updateMany p f r.db.trips).map Trip.id).Nodup
    rw [Table.map_updateMany fun t _ _ => hid t]
    exact h

/-- An `updateMany` that keeps the ids changes the row that is found by its id. -/
theorem findUnique_updateMany {p : Trip → Bool} {f : Trip → Trip} (hid : ∀ t, (f t).id = t.id)
    (id : TripId) (db : DB) :
    Trips.findUnique id { db with trips := Table.updateMany p f db.trips } =
      (Trips.findUnique id db).map fun t => if p t then f t else t := by
  have hcomp : ((fun t : Trip => decide (t.id = id)) ∘ fun t => if p t then f t else t) =
      fun t : Trip => decide (t.id = id) := by
    funext t
    show decide ((if p t = true then f t else t).id = id) = decide (t.id = id)
    split
    · rw [hid]
    · rfl
  rw [Trips.findUnique, Table.updateMany, List.find?_map, hcomp]
  rfl

/-- **A write is seen in the trip and in the writes since.** -/
theorem AdmissionEffect.checked (he : AdmissionEffect r r')
    (hids : (r.db.trips.map Trip.id).Nodup) {m : AdmissionCall} (hm : m.Checked r) :
    m.Checked r' := by
  cases m with
  | claim input userId n =>
    obtain ⟨hn, t, ht, hleft⟩ := hm
    cases he with
    | seats db claims htrips =>
      refine ⟨hn, t, ?_, hleft.status, hleft.isActive, hleft.isFull⟩
      show db.trips.find? _ = some t
      rw [htrips]
      exact ht
    | edit w p f hany hp hid hstatus hactive hfull =>
      obtain ⟨hmem, htid⟩ := Table.mem_of_find? ht
      -- ids are unique: the write is on the row of `t` exactly when it names its id
      have hpt : p t = true ↔ w.tripId = t.id := by
        constructor
        · exact fun h => (hp t h).symm
        · intro hw
          obtain ⟨s, hs, hps⟩ := List.any_eq_true.mp hany
          have hst : s = t := List.inj_on_of_nodup_map hids hs hmem ((hp s hps).trans hw)
          exact hst ▸ hps
      refine ⟨by rw [List.length_append]; omega, if p t then f t else t, ?_, ?_⟩
      · rw [findUnique_updateMany hid, ht]
        rfl
      · by_cases hpt' : p t = true
        · have hw := hpt.mp hpt'
          rw [if_pos hpt']
          refine ⟨by rw [hstatus]; exact hleft.status, ?_, ?_⟩
          · rw [hid, hactive, drop_snoc hn, lastWritten_snoc, if_pos hw, ← hleft.isActive]
          · rw [hid, hfull, drop_snoc hn, lastWritten_snoc, if_pos hw, ← hleft.isFull]
        · have hw : ¬ w.tripId = t.id := fun h => hpt' (hpt.mpr h)
          rw [if_neg hpt']
          refine ⟨hleft.status, ?_, ?_⟩
          · rw [drop_snoc hn, lastWritten_snoc, if_neg hw]
            exact hleft.isActive
          · rw [drop_snoc hn, lastWritten_snoc, if_neg hw]
            exact hleft.isFull
  | _ => trivial

theorem edited_checked {w : StateWrite} {result : Except Thrown DB}
    (h : AdmissionCall.edited r w result = (l', r')) : l'.Checked r' := by
  cases result <;> cases h <;> trivial

/-- A hold goes to its claim through the checks. -/
theorem perform_checked (h : AdmissionCall.perform l r x = (l', r')) (hdone : ∀ o, l ≠ .done o) :
    l'.Checked r' := by
  cases l with
  | hold input userId =>
    dsimp only [AdmissionCall.perform] at h
    split at h
    · cases h
      trivial
    · next hcheck =>
      cases h
      obtain ⟨t, ht, hopen⟩ := Bookings.checkTripState_eq_ok.mp hcheck
      rw [Bookings.tripOpen, Bool.and_eq_true, Bool.and_eq_true, Bool.not_eq_true'] at hopen
      refine ⟨le_refl _, t, ht, hopen.1.1, ?_, ?_⟩
      · rw [List.drop_length]
        exact hopen.1.2
      · rw [List.drop_length]
        exact hopen.2
  | claim input userId n =>
    dsimp only [AdmissionCall.perform] at h
    split at h <;> cases h <;> trivial
  | toggleActive id operatorId isActive => exact edited_checked h
  | markFull id operatorId role isFull driverId => exact edited_checked h
  | setOfflineCount q =>
    dsimp only [AdmissionCall.perform] at h
    split at h
    · cases h
      trivial
    · split at h <;> cases h <;> trivial
  | countSeats q wasFull =>
    cases h
    trivial
  | write q autoFull => exact edited_checked h
  | refetch id =>
    dsimp only [AdmissionCall.perform] at h
    split at h <;> cases h <;> trivial
  | done o => exact absurd rfl (hdone o)

theorem step_checked (h : AdmissionCall.step l r x = some (l', r')) : l'.Checked r' := by
  unfold AdmissionCall.step at h
  split at h
  · cases h
  · next hdone =>
    split at h
    · cases h
      trivial
    · exact perform_checked (Option.some.inj h) hdone

/-- **The proof outline of holds and edits.** -/
theorem admissionOutline : admissionMachine.Outline (fun _ => True)
    (fun r => (r.db.trips.map Trip.id).Nodup ∧ r.writes = [] ∧ r.claims = [])
    (fun _ r => (r.db.trips.map Trip.id).Nodup) (fun _ l r => l.Checked r) where
  init r h := h.1
  spawn _ _ _ _ h := h
  start _ o _ _ _ := by cases o <;> trivial
  shared _ _ _ _ _ _ _ _ _ h _ hs := (AdmissionCall.step_effect hs).nodup h
  self _ _ _ _ _ _ _ _ _ _ _ hs := step_checked hs
  other _ _ _ _ _ _ _ _ _ _ _ _ h _ hm hs := (AdmissionCall.step_effect hs).checked h hm
  env_shared _ _ _ _ _ h he := (admission_env he).1.nodup h
  env_other _ _ _ _ _ _ _ h hm he := (admission_env he).1.checked h hm

end Runs

/-! ## Claims on open trips -/

/-- Every hold so far was committed while its trip was open. -/
def HeldOpen (r : AdmissionDB) : Prop :=
  ∀ o ∈ r.claims, ∃ t, o = some t ∧ Bookings.tripOpen t = true

/-- When the claim of a hold finds its seats, the writes on the trip since the check of the hold
have left it open: the last of them that wrote `isActive` has set it, and the last that wrote
`isFull` has cleared it. -/
def LeftOpen (c : Config AdmissionDB AdmissionCall) (a : Act AdmissionOp AdmissionInput Attempt) :
    Prop :=
  ∀ (i : ℕ) (x : AdmissionInput) (input : HoldInput) (userId : UserId) (n : ℕ), a = .run i x →
    x.fault = false → c.procs[i]? = some (.claim input userId n) →
    input.quantity ≤ claimableRows x.locked input.tripId userId c.shared.db →
    lastWritten StateWrite.isActive input.tripId true (c.shared.writes.drop n) = true ∧
      lastWritten StateWrite.isFull input.tripId false (c.shared.writes.drop n) = false

variable {c c' : Config AdmissionDB AdmissionCall} {a : Act AdmissionOp AdmissionInput Attempt}

/-- The hold whose claim is next, and the writes that its check has seen. -/
def AdmissionCall.claiming : AdmissionCall → Option (HoldInput × UserId × ℕ)
  | .claim input userId n => some (input, userId, n)
  | _ => none

theorem AdmissionCall.mem_claiming {l : AdmissionCall} {q : HoldInput × UserId × ℕ} :
    q ∈ l.claiming ↔ l = .claim q.1 q.2.1 q.2.2 := by
  obtain ⟨input, userId, n⟩ := q
  cases l <;> simp [AdmissionCall.claiming]

theorem leftOpen_run {i : ℕ} {x : AdmissionInput} :
    LeftOpen c (.run i x) ↔ x.fault = false → ∀ l ∈ c.procs[i]?, ∀ q ∈ l.claiming,
      q.1.quantity ≤ claimableRows x.locked q.1.tripId q.2.1 c.shared.db →
        lastWritten StateWrite.isActive q.1.tripId true (c.shared.writes.drop q.2.2) = true ∧
          lastWritten StateWrite.isFull q.1.tripId false (c.shared.writes.drop q.2.2) = false := by
  constructor
  · intro h hfault l hl q hq
    exact h i x q.1 q.2.1 q.2.2 rfl hfault (AdmissionCall.mem_claiming.mp hq ▸ hl)
  · rintro h j y input userId n hj hfault hl
    obtain ⟨rfl, rfl⟩ := Act.run.inj hj
    exact h hfault _ hl (input, userId, n) rfl

instance (c : Config AdmissionDB AdmissionCall) : DecidablePred (LeftOpen c)
  | .run _ _ => decidable_of_iff _ leftOpen_run.symm
  | .spawn _ => isTrue fun _ _ _ _ _ h => nomatch h
  | .env _ => isTrue fun _ _ _ _ _ h => nomatch h

/-- A claim goes through when it finds its seats. -/
theorem holdSeats_isOk {locked : SeatId → Bool} {tripId : TripId} {quantity : ℕ} {userId : UserId}
    {now : Time} {db : DB} :
    (∃ r, Bookings.holdSeats locked tripId quantity userId now db = .ok r) ↔
      quantity ≤ claimableRows locked tripId userId db := by
  rw [claimableRows, releasedFor, ← Inventory.claimSeats_isOk]
  constructor
  · rintro ⟨r, hr⟩
    obtain ⟨p, hp, -⟩ := bind_eq_ok.mp hr
    exact ⟨p, hp⟩
  · rintro ⟨p, hp⟩
    exact ⟨_, bind_eq_ok.mpr ⟨p, hp, rfl⟩⟩

/-- The trip of a hold before its claim is open when the writes since have left it so. -/
theorem LeftBy.tripOpen_iff {n : ℕ} {r : AdmissionDB} {t : Trip} (h : LeftBy n r t) :
    Bookings.tripOpen t = true ↔
      lastWritten StateWrite.isActive t.id true (r.writes.drop n) = true ∧
        lastWritten StateWrite.isFull t.id false (r.writes.drop n) = false := by
  rw [Bookings.tripOpen, h.status, Bool.true_and, Bool.and_eq_true, Bool.not_eq_true', h.isActive,
    h.isFull]

theorem edited_claims {l' : AdmissionCall} {r r' : AdmissionDB} {w : StateWrite}
    {result : Except Thrown DB} (h : AdmissionCall.edited r w result = (l', r')) :
    r'.claims = r.claims := by
  cases result <;> cases h <;> rfl

/-- What a step adds to the claimed trips. -/
theorem step_claims {l l' : AdmissionCall} {r r' : AdmissionDB} {x : AdmissionInput}
    (h : AdmissionCall.step l r x = some (l', r')) : r'.claims = r.claims ∨
      ∃ input userId n, l = .claim input userId n ∧ x.fault = false ∧
        input.quantity ≤ claimableRows x.locked input.tripId userId r.db ∧
        r'.claims = r.claims ++ [Trips.findUnique input.tripId r.db] := by
  unfold AdmissionCall.step at h
  split at h
  · cases h
  · next hdone =>
    split at h
    · cases h
      exact Or.inl rfl
    · next hfault =>
      have h := Option.some.inj h
      cases l with
      | claim input userId n =>
        dsimp only [AdmissionCall.perform] at h
        split at h
        · cases h
          exact Or.inl rfl
        · next hheld =>
          cases h
          exact Or.inr ⟨input, userId, n, rfl, Bool.eq_false_iff.mpr hfault,
            holdSeats_isOk.mp ⟨_, hheld⟩, rfl⟩
      | hold input userId =>
        dsimp only [AdmissionCall.perform] at h
        split at h <;> cases h <;> exact Or.inl rfl
      | toggleActive id operatorId isActive => exact Or.inl (edited_claims h)
      | markFull id operatorId role isFull driverId => exact Or.inl (edited_claims h)
      | setOfflineCount q =>
        dsimp only [AdmissionCall.perform] at h
        split at h
        · cases h
          exact Or.inl rfl
        · split at h <;> cases h <;> exact Or.inl rfl
      | countSeats q wasFull =>
        cases h
        exact Or.inl rfl
      | write q autoFull => exact Or.inl (edited_claims h)
      | refetch id =>
        dsimp only [AdmissionCall.perform] at h
        split at h <;> cases h <;> exact Or.inl rfl
      | done o => exact absurd rfl (hdone o)

/-- **A claim on a trip left open keeps the record clean.** -/
theorem HeldOpen.next (hreach : admission.Reachable c) (hheld : HeldOpen c.shared)
    (hopen : LeftOpen c a) (hs : admission.step c a = some c') : HeldOpen c'.shared := by
  rcases Machine.next_cases hs with ⟨o, -, rfl⟩ | ⟨i, x, l, l', r', rfl, hi, hstep, rfl⟩ |
    ⟨e, r', -, he, rfl⟩
  · exact hheld
  · intro o ho
    rcases step_claims hstep with hsame | ⟨input, userId, n, rfl, hfault, hroom, hclaims⟩
    · exact hheld o (hsame ▸ ho)
    · have ho : o ∈ c.shared.claims ++ [Trips.findUnique input.tripId c.shared.db] := hclaims ▸ ho
      rcases List.mem_append.mp ho with ho | ho
      · exact hheld o ho
      · obtain ⟨-, t, ht, hleft⟩ := (admissionOutline.invariant hreach.by_any).2 i _ hi
        have htid := (Table.mem_of_find? ht).2
        refine ⟨t, (List.mem_singleton.mp ho).trans ht, hleft.tripOpen_iff.mpr ?_⟩
        rw [htid]
        exact hopen i x input userId n rfl hfault hi hroom
  · intro o ho
    exact hheld o ((admission_env he).2 ▸ ho)

/-- **Any other claim holds seats on a closed trip.** -/
theorem exists_held_closed (hreach : admission.Reachable c) (hopen : ¬ LeftOpen c a) :
    ∃ c', admission.step c a = some c' ∧ ¬ HeldOpen c'.shared := by
  unfold LeftOpen at hopen
  push Not at hopen
  obtain ⟨i, x, input, userId, n, rfl, hfault, hi, hroom, hclosed⟩ := hopen
  have hok : ∃ r, Bookings.holdSeats x.locked input.tripId input.quantity userId x.now
      c.shared.db = .ok r := holdSeats_isOk.mpr hroom
  obtain ⟨⟨h, db⟩, hheld⟩ := hok
  have hstep : AdmissionCall.step (.claim input userId n) c.shared x =
      some (.done (.ok (.held h.result)), { c.shared with
        db, claims := c.shared.claims ++ [Trips.findUnique input.tripId c.shared.db] }) := by
    simp only [AdmissionCall.step, hfault, AdmissionCall.perform, hheld, Bool.false_eq_true,
      if_false]
  refine ⟨_, Machine.next_run.mpr ⟨_, _, _, hi, hstep, rfl⟩, ?_⟩
  intro hall
  obtain ⟨-, t, ht, hleft⟩ := (admissionOutline.invariant hreach.by_any).2 i _ hi
  have htid := (Table.mem_of_find? ht).2
  obtain ⟨s, hs, hst⟩ := hall _ (List.mem_append_right _ (List.mem_singleton_self _))
  obtain rfl := Option.some.inj (ht.symm.trans hs)
  obtain ⟨hactive, hfull⟩ := hleft.tripOpen_iff.mp hst
  rw [htid] at hactive hfull
  exact hclosed hactive hfull

/-- **The runs that hold seats on open trips only.**  They are those in which the writes between
the check of a hold and its claim have left the trip open. -/
theorem holds_open_iff {db : DB} (hids : (db.trips.map Trip.id).Nodup)
    (acts : List (Act AdmissionOp AdmissionInput Attempt)) :
    admission.AllSteps LeftOpen ⟨⟨db, [], []⟩, []⟩ acts ↔
      ∀ m ∈ admission.trace ⟨⟨db, [], []⟩, []⟩ acts, HeldOpen m.shared := by
  refine System.allSteps_iff_forall_trace (S := admission)
    (P := fun m : Config AdmissionDB AdmissionCall => HeldOpen m.shared) ?_ ?_
    (System.Reachable.of_init ⟨⟨hids, rfl, rfl⟩, rfl⟩) ?_
  · exact fun _ _ _ hreach hheld hopen hs => hheld.next hreach hopen hs
  · exact fun _ _ hreach hopen => exists_held_closed hreach hopen
  · exact fun o ho => absurd ho (by simp)

/-! ## Marked full in between -/

/-- Trip `1` of operator `3` with two free seats. -/
def openTrip : DB where
  users := [7]
  trips := [{ twoSeats with id := 1, operatorId := 3 }]
  seats := [{ id := 10, tripId := 1, label := ⟨65, 1⟩ }, { id := 11, tripId := 1, label := ⟨65, 2⟩ }]
  bookings := []
  bookedSeats := []
  passengers := []

/-- One seat is within what a hold may ask for. -/
theorem one_le_six : 1 ≤ 6 := by decide

/-- A step in which nothing fails. -/
def calm : AdmissionInput := ⟨false, 0, fun _ => false⟩

/-- A user asks for a seat, and between the check and the claim the operator marks the trip
full. -/
def fullInBetween : List (Act AdmissionOp AdmissionInput Attempt) :=
  [.spawn (.hold ⟨1, 1, Nat.one_pos, one_le_six⟩ 7), .run 0 calm,
    .spawn (.markFull 1 (some 3) .operator true none), .run 1 calm, .run 1 calm, .run 0 calm]

/-- The same, but the operator clears the mark before the claim. -/
def clearedInBetween : List (Act AdmissionOp AdmissionInput Attempt) :=
  [.spawn (.hold ⟨1, 1, Nat.one_pos, one_le_six⟩ 7), .run 0 calm,
    .spawn (.markFull 1 (some 3) .operator true none), .run 1 calm, .run 1 calm,
    .spawn (.markFull 1 (some 3) .operator false none), .run 2 calm, .run 2 calm, .run 0 calm]

theorem clearedInBetween_runs :
    (admission.run ⟨⟨openTrip, [], []⟩, []⟩ clearedInBetween).isSome = true := by decide +kernel

/-- The tables where that run ends. -/
def clearedEnd : AdmissionDB :=
  ((admission.run ⟨⟨openTrip, [], []⟩, []⟩ clearedInBetween).get clearedInBetween_runs).shared

theorem holds_open_iff_inBetween :
    (admission.AllSteps LeftOpen ⟨⟨openTrip, [], []⟩, []⟩ fullInBetween ↔
      ∀ m ∈ admission.trace ⟨⟨openTrip, [], []⟩, []⟩ fullInBetween, HeldOpen m.shared) ∧
    (∀ m ∈ admission.trace ⟨⟨openTrip, [], []⟩, []⟩ clearedInBetween, HeldOpen m.shared) ∧
    clearedEnd.db.seats.map Seat.status = [.held, .available] ∧
    clearedEnd.writes.map StateWrite.isFull = [some true, some false] ∧
    clearedEnd.claims.length = 1 :=
  ⟨holds_open_iff (by decide) fullInBetween,
    (holds_open_iff (by decide) clearedInBetween).mp (by decide +kernel),
    by decide +kernel, by decide +kernel, by decide +kernel⟩

/-- The seat is held although the trip is marked full, and the operator has been told so. -/
theorem hold_fullInBetween : ∃ c, admission.run ⟨⟨openTrip, [], []⟩, []⟩ fullInBetween = some c ∧
    (c.shared.db.seats.map Seat.status) = [.held, .available] ∧
    (c.shared.claims.map fun o => o.map fun t => (t.isActive, t.isFull)) = [some (true, true)] ∧
    ¬ HeldOpen c.shared := by
  refine ⟨_, rfl, by decide, by decide, ?_⟩
  intro hall
  obtain ⟨t, ht, hopen⟩ := hall _ List.mem_cons_self
  cases ht
  cases hopen

end TransHub
