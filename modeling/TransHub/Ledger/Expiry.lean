import TransHub.Ledger.Availability

/-!
# Holds, their expiry jobs and the clock

Each successful hold enqueues one job for its own seats, due `HOLD_TTL_SEC` later; the
job runs late, more than once or never, and nothing takes it off the queue when the
hold it belongs to is replaced.  `releaseSpecificHold` tells holds apart by their
user and trip only.

* `Timed`, `Timed.system`: the ledger with a clock and the log of holds, newest first.
* `Timed.Inv`: a held seat stands under the newest hold that claimed it.
* `KeepsLive`: what no step may do to a hold that has not lapsed.
* `keepsLive_iff`: a job keeps it exactly when none of its seats stands under a later
  live hold of the same user; `live_holds_iff` says so of whole runs, and
  `rehold_revoked` is a run where a re-hold is revoked.
-/

namespace TransHub

/-- A successful hold: the job it enqueued, the instant its seats lapse, and the
instant its job becomes due. -/
structure HoldRecord where
  job : Bookings.HoldExpiryJob
  expiresAt : Time
  due : Time
  deriving DecidableEq, Repr

/-- The ledger, the time, and the holds so far, newest first. -/
structure Timed where
  db : DB
  clock : Time
  log : List HoldRecord
  deriving DecidableEq

/-- What happens in a timed run.  `started` and `now` are readings of the clock that a
call took before its statement ran. -/
inductive TimedEvent where
  | tick (now : Time)
  | hold (locked : SeatId → Bool) (tripId : TripId) (quantity : ℕ) (userId : UserId)
      (started : Time)
  | confirm (uuids : Bookings.Uuids) (input : Bookings.ConfirmInput) (userId : UserId)
      (totalAmount : ℤ)
  | sweep (now : Time)
  | expire (i : ℕ)

namespace Timed

/-- The `i`-th entry of the log has its job run: `processHoldExpiry`. -/
def processHoldExpiry (job : Bookings.HoldExpiryJob) (db : DB) : DB :=
  { db with
    seats := (Inventory.releaseSpecificHold job.seatIds job.tripId job.userId db.seats).1 }

/-- One event. -/
def step (σ : Timed) : TimedEvent → Option Timed
  | .tick now => if σ.clock ≤ now then some { σ with clock := now } else none
  | .hold locked tripId quantity userId started =>
      if started ≤ σ.clock then
        match Bookings.holdSeats locked tripId quantity userId started σ.db with
        | .ok (r, db) => some { σ with
            db
            log := ⟨r.job, r.result.expiresAt, Bookings.expiresAt σ.clock⟩ :: σ.log }
        | .error _ => some σ
      else none
  | .confirm uuids input userId totalAmount =>
      match Bookings.confirmTx uuids input userId totalAmount σ.db with
      | .ok (_, db) => some { σ with db }
      | .error _ => some σ
  | .sweep now =>
      if now ≤ σ.clock then
        some { σ with
          db := { σ.db with seats := (Inventory.sweepExpiredHolds now σ.db.seats).1 } }
      else none
  | .expire i =>
      match σ.log[i]? with
      | some e => if e.due ≤ σ.clock then some { σ with db := processHoldExpiry e.job σ.db }
          else none
      | none => none

/-- Runs from any ledger on which nothing is held. -/
def system : System Timed TimedEvent where
  init σ := ledger.Reachable σ.db ∧ (∀ s ∈ σ.db.seats, s.status ≠ .held) ∧ σ.log = []
  step := step

/-- The newest hold that claimed a seat. -/
def currentHold (log : List HoldRecord) (x : SeatId) : Option HoldRecord :=
  log.find? fun e => e.job.seatIds.contains x

/-! ## What a step can be -/

theorem step_hold {σ σ' : Timed} {locked : SeatId → Bool} {tripId : TripId} {quantity : ℕ}
    {userId : UserId} {started : Time}
    (h : step σ (.hold locked tripId quantity userId started) = some σ') :
    σ' = σ ∨ ∃ ids, started ≤ σ.clock ∧
      ids = (Inventory.claimRows locked tripId quantity
        (releasedFor tripId userId σ.db)).map Seat.id ∧
      σ' = { σ with
        db := { σ.db with
          seats := Inventory.markHeld ids userId (Bookings.expiresAt started)
            (releasedFor tripId userId σ.db) }
        log := ⟨⟨userId, tripId, ids⟩, Bookings.expiresAt started,
          Bookings.expiresAt σ.clock⟩ :: σ.log } := by
  rw [step] at h
  split at h
  · next hle =>
    split at h
    · next r db hok =>
      obtain ⟨ids, rfl, -, hids, rfl⟩ := Bookings.holdSeats_ok hok
      cases h
      exact Or.inr ⟨ids, hle, hids, rfl⟩
    · cases h
      exact Or.inl rfl
  · exact absurd h (by simp)

theorem step_confirm {σ σ' : Timed} {uuids : Bookings.Uuids} {input : Bookings.ConfirmInput}
    {userId : UserId} {totalAmount : ℤ}
    (h : step σ (.confirm uuids input userId totalAmount) = some σ') :
    σ' = σ ∨ ∃ dto db, Bookings.confirmTx uuids input userId totalAmount σ.db = .ok (dto, db) ∧
      σ' = { σ with db } := by
  rw [step] at h
  split at h
  · next dto db hok =>
    cases h
    exact Or.inr ⟨dto, db, hok, rfl⟩
  · cases h
    exact Or.inl rfl

theorem step_sweep {σ σ' : Timed} {now : Time} (h : step σ (.sweep now) = some σ') :
    now ≤ σ.clock ∧ σ' = { σ with
      db := { σ.db with
        seats := Table.updateMany (Inventory.expired now) Seat.free σ.db.seats } } := by
  rw [step] at h
  split at h
  · next hle =>
    cases h
    exact ⟨hle, rfl⟩
  · exact absurd h (by simp)

theorem step_expire {σ σ' : Timed} {i : ℕ} (h : step σ (.expire i) = some σ') :
    ∃ e, σ.log[i]? = some e ∧ e.due ≤ σ.clock ∧ σ' = { σ with
      db := { σ.db with
        seats := Table.updateMany
          (Inventory.specificHold e.job.seatIds e.job.tripId e.job.userId) Seat.free
          σ.db.seats } } := by
  rw [step] at h
  split at h
  · next e he =>
    split at h
    · next hdue =>
      cases h
      exact ⟨e, he, hdue, rfl⟩
    · exact absurd h (by simp)
  · exact absurd h (by simp)

/-! ## The invariant -/

/-- Whose hold a held seat stands under. -/
def Under (log : List HoldRecord) (s : Seat) : Prop :=
  ∃ c, currentHold log s.id = some c ∧ s.heldUntil = some c.expiresAt ∧
    s.heldBy = some c.job.userId ∧ s.tripId = c.job.tripId

/-- The invariant of timed runs. -/
structure Inv (σ : Timed) : Prop where
  ledger : LedgerInv σ.db
  due : ∀ e ∈ σ.log, e.expiresAt ≤ e.due
  under : ∀ s ∈ σ.db.seats, s.status = .held → Under σ.log s

/-- Rows that an update has not left held stand as they did. -/
theorem under_updateMany {seats : List Seat} {log : List HoldRecord} {p : Seat → Bool}
    {f : Seat → Seat} (hf : ∀ s, (f s).status ≠ .held)
    (h : ∀ s ∈ seats, s.status = .held → Under log s) :
    ∀ s ∈ Table.updateMany p f seats, s.status = .held → Under log s := by
  intro s hs hheld
  obtain ⟨s₀, hs₀, rfl⟩ := Table.mem_updateMany.mp hs
  split at hheld
  · exact absurd hheld (hf s₀)
  · next hp =>
    rw [if_neg hp]
    exact h s₀ hs₀ hheld

/-- A successful hold puts its own seats under itself and leaves the other held seats
where they are. -/
theorem under_markHeld {seats : List Seat} {log : List HoldRecord} {e : HoldRecord}
    (h : ∀ s ∈ seats, s.status = .held → Under log s)
    (htrip : ∀ s ∈ seats, s.id ∈ e.job.seatIds → s.tripId = e.job.tripId) :
    ∀ s ∈ Inventory.markHeld e.job.seatIds e.job.userId e.expiresAt seats, s.status = .held →
      Under (e :: log) s := by
  intro s hs hheld
  obtain ⟨s₀, hs₀, rfl⟩ := Table.mem_updateMany.mp hs
  cases hp : e.job.seatIds.contains s₀.id with
  | true =>
    rw [if_pos rfl]
    refine ⟨e, ?_, rfl, rfl, htrip s₀ hs₀ (List.contains_iff_mem.mp hp)⟩
    show currentHold (e :: log) s₀.id = some e
    exact List.find?_cons_of_pos hp
  | false =>
    rw [hp] at hheld
    obtain ⟨c, hc, hrest⟩ := h s₀ hs₀ hheld
    refine ⟨c, ?_, hrest⟩
    show currentHold (e :: log) s₀.id = some c
    exact (List.find?_cons_of_neg (by rw [hp]; simp)).trans hc

/-- **A held seat stands under the newest hold that claimed it.** -/
theorem step_inv {σ σ' : Timed} {e : TimedEvent} (h : Inv σ) (hs : step σ e = some σ') :
    Inv σ' := by
  cases e with
  | tick now =>
    rw [step] at hs
    split at hs
    · cases hs
      exact ⟨h.ledger, h.due, h.under⟩
    · exact absurd hs (by simp)
  | hold locked tripId quantity userId started =>
    rcases step_hold hs with rfl | ⟨ids, hle, hids, rfl⟩
    · exact h
    · have hrel := h.ledger.releaseUserHoldsForTrip tripId userId
      have hclaimed : ∀ s ∈ releasedFor tripId userId σ.db, s.id ∈ ids → s.tripId = tripId := by
        intro s hs hmem
        rw [hids] at hmem
        exact (hrel.claimed_available hs hmem).2.1
      refine ⟨?_, ?_, ?_⟩
      · rw [hids]
        exact hrel.markHeld userId _
      · intro e he
        rcases List.mem_cons.mp he with rfl | he
        · exact Nat.add_le_add_right hle _
        · exact h.due e he
      · exact under_markHeld (e := ⟨⟨userId, tripId, ids⟩, _, _⟩)
          (under_updateMany (fun s => by simp) h.under) hclaimed
  | confirm uuids input userId totalAmount =>
    rcases step_confirm hs with rfl | ⟨dto, db, hok, rfl⟩
    · exact h
    · refine ⟨h.ledger.confirmTx hok, h.due, ?_⟩
      obtain ⟨-, -, -, -, -, -, -, -, -, hseats, -⟩ :=
        Bookings.confirmTx_ok h.ledger.nodup_seatIds hok
      show ∀ s ∈ db.seats, _
      rw [hseats]
      exact under_updateMany (fun s => by simp) h.under
  | sweep now =>
    obtain ⟨-, rfl⟩ := step_sweep hs
    exact ⟨h.ledger.sweepExpiredHolds now, h.due, under_updateMany (fun s => by simp) h.under⟩
  | expire i =>
    obtain ⟨e, -, -, rfl⟩ := step_expire hs
    exact ⟨h.ledger.releaseSpecificHold _ _ _, h.due,
      under_updateMany (fun s => by simp) h.under⟩

theorem reachable_inv {σ : Timed} (h : system.Reachable σ) : Inv σ := by
  refine h.invariant ?_ fun r e r' => step_inv
  intro r hr
  obtain ⟨hdb, hfree, hlog⟩ := hr
  refine ⟨ledger_inv hdb, ?_, fun s hs hheld => absurd hheld (hfree s hs)⟩
  rw [hlog]
  simp

/-! ## Live holds -/

/-- A seat whose hold has not lapsed. -/
def Live (σ : Timed) (s : Seat) : Prop :=
  s.status = .held ∧ ∃ t, s.heldUntil = some t ∧ σ.clock < t

/-- The events that may end a hold early: a new hold by the same user, and a confirm
of the seat by that user. -/
def MayEnd (s : Seat) : TimedEvent → Prop
  | .hold _ tripId _ userId _ => s.tripId = tripId ∧ s.heldBy = some userId
  | .confirm _ input userId _ => s.id ∈ input.seatIds ∧ s.heldBy = some userId
  | _ => False

/-- Every live hold stands as it is after the event, unless the event may end it. -/
def KeepsLive (σ : Timed) (e : TimedEvent) : Prop :=
  ∀ σ', step σ e = some σ' → ∀ s ∈ σ.db.seats, Live σ s → s ∈ σ'.db.seats ∨ MayEnd s e

/-- When a job fires, none of its seats that its user holds on the trip stands under
another hold whose `HOLD_TTL_SEC` are not over. -/
def NotSuperseded (σ : Timed) : TimedEvent → Prop
  | .expire i => ∀ e, σ.log[i]? = some e → e.due ≤ σ.clock →
      ∀ s ∈ σ.db.seats, s.id ∈ e.job.seatIds →
        Inventory.heldByUser e.job.tripId e.job.userId s = true →
        ∀ c, currentHold σ.log s.id = some c → c ≠ e → c.expiresAt ≤ σ.clock
  | _ => True

/-- A row that an update does not touch is kept. -/
theorem keep_of_not {σ : Timed} {s : Seat} {p : Seat → Bool} {f : Seat → Seat} {e : TimedEvent}
    (hs : s ∈ σ.db.seats) (hp : ¬ p s = true) :
    s ∈ Table.updateMany p f σ.db.seats ∨ MayEnd s e :=
  Or.inl (Table.mem_updateMany_of_not hs (by simpa using hp))

/-- Only an expiry job can end a live hold that it may not end. -/
theorem keepsLive_of_not_expire {σ : Timed} (h : Inv σ) {e : TimedEvent}
    (he : ∀ i, e ≠ .expire i) : KeepsLive σ e := by
  intro σ' hs s hmem ⟨hheld, t, ht, hlive⟩
  cases e with
  | tick now =>
    rw [step] at hs
    split at hs
    · cases hs
      exact Or.inl hmem
    · exact absurd hs (by simp)
  | hold locked tripId quantity userId started =>
    rcases step_hold hs with rfl | ⟨ids, -, hids, rfl⟩
    · exact Or.inl hmem
    · by_cases hown : Inventory.heldByUser tripId userId s = true
      · obtain ⟨htrip, -, hby⟩ := Inventory.heldByUser_iff.mp hown
        exact Or.inr ⟨htrip, hby⟩
      · -- the row survives the release as a held one, so the claim does not select it
        have hrel : s ∈ releasedFor tripId userId σ.db :=
          Table.mem_updateMany_of_not hmem (by simpa using hown)
        refine Or.inl (Table.mem_updateMany_of_not hrel ?_)
        rw [Bool.eq_false_iff]
        intro hc
        have hin := List.contains_iff_mem.mp hc
        rw [hids] at hin
        have havail := ((h.ledger.releaseUserHoldsForTrip tripId userId).claimed_available
          hrel hin).2.2
        rw [hheld] at havail
        exact absurd havail (by simp)
  | confirm uuids input userId totalAmount =>
    rcases step_confirm hs with rfl | ⟨dto, db, hok, rfl⟩
    · exact Or.inl hmem
    · obtain ⟨-, -, -, hfree, -, -, -, -, -, hseats, -⟩ :=
        Bookings.confirmTx_ok h.ledger.nodup_seatIds hok
      by_cases hin : s.id ∈ input.seatIds
      · obtain ⟨s', hs', hid, -, hst⟩ := hfree s.id hin
        obtain rfl := h.ledger.seat_ext hs' hmem hid
        rcases hst with havail | ⟨-, hby⟩
        · rw [hheld] at havail
          exact absurd havail (by simp)
        · exact Or.inr ⟨hin, hby⟩
      · show s ∈ db.seats ∨ _
        rw [hseats]
        exact keep_of_not hmem (by simpa using hin)
  | sweep now =>
    obtain ⟨hle, rfl⟩ := step_sweep hs
    refine keep_of_not hmem ?_
    intro hexp
    obtain ⟨-, t', ht', hlt⟩ := Inventory.expired_iff.mp hexp
    rw [ht, Option.some.injEq] at ht'
    rw [← ht'] at hlt
    exact Nat.lt_asymm hlive (Nat.lt_of_lt_of_le hlt hle)
  | expire i => exact absurd rfl (he i)

/-- **A job keeps every live hold exactly when it has not been superseded.** -/
theorem keepsLive_iff {σ : Timed} (h : Inv σ) (e : TimedEvent) :
    KeepsLive σ e ↔ NotSuperseded σ e := by
  cases e with
  | expire i =>
    constructor
    · intro hkeep e he hdue s hs hid hown c hc hne
      by_contra hlive
      obtain ⟨htrip, hheld, hby⟩ := Inventory.heldByUser_iff.mp hown
      obtain ⟨c', hc', huntil, -⟩ := h.under s hs hheld
      rw [hc, Option.some.injEq] at hc'
      have hstep : step σ (.expire i) = some { σ with db := processHoldExpiry e.job σ.db } := by
        rw [step, he]
        exact if_pos hdue
      have hspec : Inventory.specificHold e.job.seatIds e.job.tripId e.job.userId s = true :=
        Inventory.specificHold_iff.mpr ⟨hid, htrip, hheld, hby⟩
      have hlt := Nat.lt_of_not_le hlive
      rw [hc'] at hlt
      rcases hkeep _ hstep s hs ⟨hheld, c'.expiresAt, huntil, hlt⟩ with hmem | hend
      · -- the row with this id is now a free one
        have hfreed := Table.mem_updateMany_of_mem (p := Inventory.specificHold e.job.seatIds
          e.job.tripId e.job.userId) (f := Seat.free) hs
        rw [if_pos hspec] at hfreed
        have heq := (h.ledger.releaseSpecificHold e.job.seatIds e.job.tripId
          e.job.userId).seat_ext hmem hfreed rfl
        rw [heq] at hheld
        exact absurd hheld (by simp)
      · exact hend
    · intro hclear σ' hs s hmem ⟨hheld, t, ht, hlive⟩
      obtain ⟨e, he, hdue, rfl⟩ := step_expire hs
      refine keep_of_not hmem ?_
      intro hspec
      obtain ⟨hid, htrip, -, hby⟩ := Inventory.specificHold_iff.mp hspec
      obtain ⟨c, hc, huntil, -⟩ := h.under s hmem hheld
      rw [ht, Option.some.injEq] at huntil
      by_cases hce : c = e
      · have hle := h.due e (List.mem_of_getElem? he)
        rw [← hce] at hle hdue
        rw [huntil] at hlive
        exact Nat.not_le_of_lt hlive (Nat.le_trans hle hdue)
      · have hle := hclear e he hdue s hmem hid
          (Inventory.heldByUser_iff.mpr ⟨htrip, hheld, hby⟩) c hc hce
        rw [huntil] at hlive
        exact Nat.not_le_of_lt hlive hle
  | tick now => exact ⟨fun _ => trivial, fun _ => keepsLive_of_not_expire h (by simp)⟩
  | hold locked tripId quantity userId started =>
    exact ⟨fun _ => trivial, fun _ => keepsLive_of_not_expire h (by simp)⟩
  | confirm uuids input userId totalAmount =>
    exact ⟨fun _ => trivial, fun _ => keepsLive_of_not_expire h (by simp)⟩
  | sweep now => exact ⟨fun _ => trivial, fun _ => keepsLive_of_not_expire h (by simp)⟩

/-- **Along every timed run, live holds end early only by a new hold or a confirm of
their user exactly when no job fires that a later live hold has superseded.** -/
theorem live_holds_iff {σ : Timed} (h : system.init σ) (events : List TimedEvent) :
    system.AllSteps KeepsLive σ events ↔ system.AllSteps NotSuperseded σ events :=
  System.allSteps_iff (.of_init h) fun _ e hr => keepsLive_iff (reachable_inv hr) e

/-- The trip of two seats, at time 0. -/
def opened : Timed :=
  ⟨commit registered ⟨.createTrip 1 (fun i => 10 + i) twoSeats 3, false⟩, 0, []⟩

theorem opened_init : system.init opened :=
  ⟨.step (a := ⟨.createTrip 1 (fun i => 10 + i) twoSeats 3, false⟩) (.of_init ⟨[7, 8], rfl⟩) rfl,
    by decide, rfl⟩

/-- A user holds a seat and, five minutes later, holds a seat again; both holds take
the first free one. -/
def reholdRun : List TimedEvent :=
  [.hold (fun _ => false) 1 1 7 0, .tick 300000, .hold (fun _ => false) 1 1 7 300000,
    .tick 600000]

theorem live_holds_iff_rehold :
    system.AllSteps KeepsLive opened reholdRun ↔ system.AllSteps NotSuperseded opened reholdRun :=
  live_holds_iff opened_init reholdRun

/-- Where that run ends: the seat is held until minute fifteen, the first job is due. -/
def reheld : Timed where
  db := { opened.db with
    seats := [⟨10, 1, ⟨65, 1⟩, .held, some 900000, some 7⟩,
      ⟨11, 1, ⟨65, 2⟩, .available, none, none⟩] }
  clock := 600000
  log := [⟨⟨7, 1, [10]⟩, 900000, 900000⟩, ⟨⟨7, 1, [10]⟩, 600000, 600000⟩]

/-- **A re-hold is revoked.**  The job of the first hold frees the seat five minutes
before the second hold lapses. -/
theorem rehold_revoked : system.run opened reholdRun = some reheld ∧
    ¬ KeepsLive reheld (.expire 1) := by
  refine ⟨by decide +kernel, ?_⟩
  intro hkeep
  have hstep : step reheld (.expire 1) = some { reheld with
      db := processHoldExpiry ⟨7, 1, [10]⟩ reheld.db } := by decide +kernel
  rcases hkeep _ hstep ⟨10, 1, ⟨65, 1⟩, .held, some 900000, some 7⟩ (by decide)
    ⟨rfl, 900000, rfl, by decide⟩ with hmem | hend
  · exact absurd hmem (by decide)
  · exact hend

end Timed
end TransHub
