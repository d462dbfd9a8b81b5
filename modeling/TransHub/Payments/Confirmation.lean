import TransHub.Payments.Preservation

/-!
# Bookings are confirmed exactly once

Deliveries of charges whose reference always carries the same metadata, interleaved
with each other and with the ledger, with statements that may fail anywhere.

* `two_references`: two references that want one seat are not both booked.
* `unsold_step`: a step of a reference that never gets a booking changes no table.
* `lost_step`: a delivery that finds a seat of its own sold is rolled back with a
  `ConflictError` and reported as `SEATS_GONE`.
* `exactly_once_confirmation`: the statement over all runs.
-/

namespace TransHub

open Bookings (BookingDTO ConfirmInput Uuids)

/-- Every delivery of a reference carries that reference's metadata. -/
def Carries (metadata : Ref → Option ChargeMetadata) (d : Charge) : Prop :=
  d.metadata = metadata d.reference

/-- The seats that a reference pays for. -/
def seatsOf (metadata : Ref → Option ChargeMetadata) (ref : Ref) : List SeatId :=
  (((metadata ref).bind ChargeMetadata.seatIds).getD [])

theorem Carries.seatIds {metadata : Ref → Option ChargeMetadata} {d : Charge}
    (h : Carries metadata d) : d.seatIds = seatsOf metadata d.reference := by
  rw [Charge.seatIds, h, seatsOf]

/-- The reference has a booking. -/
def Booked (ref : Ref) (db : DB) : Prop := ∃ b ∈ db.bookings, b.paymentRef = some ref

variable {F : Prop} {Same : Charge → Prop} {i : ℕ} {l l' : Settling} {r r' : PayDB}
  {x : SettleInput} {c c' : Config PayDB Settling}

/-! ## Reading the invariant -/

/-- What holds in every configuration that a class of runs reaches. -/
theorem pay_asserts (h : payments.ReachableBy (Delivers F Same) c) :
    PayInv Same c.shared ∧ ∀ (i : ℕ) (l : Settling), c.procs[i]? = some l →
      Holds F Same i l c.shared := by
  obtain ⟨⟨hinv, -⟩, hl⟩ := (payOutline F Same).invariant h
  exact ⟨hinv, hl⟩

/-- A class of runs that leaves everything open. -/
theorem pay_asserts_any (h : payments.Reachable c) :
    PayInv (fun _ => True) c.shared ∧ ∀ (i : ℕ) (l : Settling), c.procs[i]? = some l →
      Holds True (fun _ => True) i l c.shared := by
  obtain ⟨s₀, acts, h₀, -, hrun⟩ := h.by_any
  refine pay_asserts ⟨s₀, acts, h₀, ?_, hrun⟩
  intro a _
  cases a with
  | spawn d => trivial
  | run i x => exact fun _ => trivial
  | env a => trivial

/-- What a delivery has returned is the stored booking of its reference. -/
theorem returned_found (hl : Holds F Same i l r) {booking : BookingDTO}
    (hpc : l.pc = .done (.returned booking)) : l.issues = [] ∧ Found l.charge r booking := by
  have hat := hl.at_pc
  rw [At, hpc] at hat
  cases hat with
  | returned _ hissues hf => exact ⟨hissues, hf⟩

/-- Two bookings found for one reference are one. -/
theorem Found.unique (h : LedgerInv r.db) {d d' : Charge} (href : d.reference = d'.reference)
    {booking booking' : BookingDTO} (hf : Found d r booking) (hf' : Found d' r booking') :
    booking = booking' := by
  obtain ⟨b, hb, hbref, rfl⟩ := hf
  obtain ⟨b', hb', hbref', rfl⟩ := hf'
  rw [← href] at hbref'
  rw [h.ref_ext hb hb' hbref hbref']

/-- The rows of a reference that has a booking. -/
theorem Booked.rows {metadata : Ref → Option ChargeMetadata}
    (h : PayInv (Carries metadata) r) {ref : Ref} (hb : Booked ref r.db) :
    ∃ b ∈ r.db.bookings, b.paymentRef = some ref ∧ ∀ y ∈ seatsOf metadata ref,
      ∃ row ∈ r.db.bookedSeats, row.seatId = y ∧ row.bookingId = b.id := by
  obtain ⟨b, hb, href⟩ := hb
  obtain ⟨w, hw, hwref⟩ := h.won b hb
  rw [href, Option.some.injEq] at hwref
  obtain ⟨b', hb', href', hrows⟩ := h.sold w hw
  refine ⟨b', hb', by rw [href', hwref], fun y hy => hrows y ?_⟩
  rw [(h.same w hw).seatIds, ← hwref]
  exact hy

/-- **Two references that want one seat are not both booked.** -/
theorem two_references {metadata : Ref → Option ChargeMetadata}
    (h : PayInv (Carries metadata) r) {ref ref' : Ref} (hne : ref ≠ ref') {y : SeatId}
    (hy : y ∈ seatsOf metadata ref) (hy' : y ∈ seatsOf metadata ref')
    (hb : Booked ref r.db) : ¬ Booked ref' r.db := by
  intro hb'
  obtain ⟨b, hmem, href, hrows⟩ := hb.rows h
  obtain ⟨b', hmem', href', hrows'⟩ := hb'.rows h
  obtain ⟨row, hrow, hid, hbid⟩ := hrows y hy
  obtain ⟨row', hrow', hid', hbid'⟩ := hrows' y hy'
  obtain rfl := h.ledger.row_ext hrow hrow' (hid.trans hid'.symm)
  obtain rfl := h.ledger.booking_ext hmem hmem' (hbid.symm.trans hbid')
  rw [href, Option.some.injEq] at href'
  exact hne href'

/-! ## References that get nothing -/

/-- A step changes a table only when its reference has a booking afterwards. -/
theorem step_db (h : PayInv Same r) (hl : Holds F Same i l r)
    (hs : Settling.step i l r x = some (l', r')) :
    r'.db = r.db ∨ Booked l.charge.reference r'.db := by
  have heff := (Settling.step_effect hs).2
  have hinv := h.effect hl heff
  cases heff with
  | none => exact Or.inl rfl
  | lock => exact Or.inl rfl
  | unlock => exact Or.inl rfl
  | commit =>
    obtain ⟨b, hb, href, -⟩ := hinv.sold (i, l.charge) List.mem_cons_self
    exact Or.inr ⟨b, hb, href⟩
  | emit => exact Or.inl rfl

/-- A booking stays. -/
theorem Booked.leads (h : payments.Reachable c) (hl : payments.Leads c c') {ref : Ref}
    (hb : Booked ref c.shared.db) : Booked ref c'.shared.db := by
  refine hl.stable (P := fun m => Booked ref m.shared.db) h ?_ hb
  intro m a m' hm hP hs
  obtain ⟨hinv, hall⟩ := pay_asserts_any hm
  obtain ⟨b, hb, href⟩ := hP
  rcases Machine.next_cases hs with ⟨d, rfl, rfl⟩ | ⟨i, x, l, l', r', rfl, hi, hstep, rfl⟩ |
    ⟨a, r', rfl, henv, rfl⟩
  · exact ⟨b, hb, href⟩
  · have hrely := rely_of_effect hinv (hall i l hi) (Settling.step_effect hstep).2
      (Nat.succ_ne_self i)
    exact ⟨b, hrely.keeps.booking b hb, href⟩
  · exact ⟨b, (rely_of_env hinv henv 0).keeps.booking b hb, href⟩

/-- **A step of a reference that never gets a booking changes no table.** -/
theorem unsold_step (h : payments.Reachable c) {c'' : Config PayDB Settling}
    (hi : c.procs[i]? = some l) (hs : payments.step c (.run i x) = some c')
    (hl : payments.Leads c' c'') (hnone : ¬ Booked l.charge.reference c''.shared.db) :
    c'.shared.db = c.shared.db := by
  obtain ⟨hinv, hall⟩ := pay_asserts_any h
  have hreach := h.step hs
  obtain ⟨l', r', hstep, rfl, -⟩ := Machine.step_of_next_run hi hs
  exact (step_db hinv (hall i l hi) hstep).resolve_right fun hb =>
    hnone (hb.leads hreach hl)

/-! ## The loser of a race -/

namespace Settling

@[simp] theorem goto_rolledBack (l : Settling) (pc : SettlePc) :
    (l.goto pc).rolledBack = l.rolledBack := rfl

@[simp] theorem confirmThrows_rolledBack (l : Settling) (q : ConfirmCall) (e : Thrown) :
    (l.confirmThrows q e).rolledBack = l.rolledBack := by
  unfold confirmThrows
  split <;> rfl

@[simp] theorem checkAmount_rolledBack (l : Settling) (tripId : TripId) (seatIds : List SeatId)
    (userId : UserId) (passengers : Option (List PassengerInfoInput)) (price : Option ℤ) :
    (l.checkAmount tripId seatIds userId passengers price).rolledBack = l.rolledBack := by
  unfold checkAmount
  split
  · rfl
  · dsimp only
    split <;> rfl

@[simp] theorem checkMeta_rolledBack (l : Settling) :
    l.checkMeta.rolledBack = l.rolledBack := by
  unfold checkMeta
  split <;> rfl

@[simp] theorem checkCaller_rolledBack (l : Settling) (caller : UserId) :
    (l.checkCaller caller).rolledBack = l.rolledBack := by
  unfold checkCaller
  split <;> rfl

/-- Why the transaction of a delivery is rolled back in a step. -/
inductive RollsBack (l : Settling) (r : PayDB) (x : SettleInput) (q : ConfirmCall) :
    Thrown → Prop where
  | fault (h : x.fault = true) : RollsBack l r x q dbFailed
  | missing : RollsBack l r x q seatsGone
  | refused (e : Thrown) (totalAmount : ℤ) (got : List SeatId)
      (hpc : l.pc = .book q totalAmount got) (hlen : q.input.seatIds.length ≤ got.length) :
      RollsBack l r x q e

/-- A step leaves the record of a rollback as it is, or is one. -/
theorem step_rolledBack (h : step i l r x = some (l', r')) :
    l'.rolledBack = l.rolledBack ∨ ∃ q e, l' = l.txThrows q e ∧ RollsBack l r x q e := by
  cases step_move h with
  | selectFault q totalAmount hpc hfault => exact Or.inr ⟨q, _, rfl, .fault hfault⟩
  | lockFault q totalAmount todo got hpc hfault => exact Or.inr ⟨q, _, rfl, .fault hfault⟩
  | bookFault q totalAmount got hpc hfault => exact Or.inr ⟨q, _, rfl, .fault hfault⟩
  | short q totalAmount got hpc => exact Or.inr ⟨q, _, rfl, .missing⟩
  | refused q totalAmount got e hpc hlen => exact Or.inr ⟨q, e, rfl, .refused e _ got hpc hlen⟩
  | fault | forbidden | settled | present | raced | notify => exact Or.inl rfl
  | _ => exact Or.inl (by simp)

/-- The re-check finds no booking: the `ConflictError` stands. -/
theorem step_recheck {q : ConfirmCall} {e : Thrown} (hpc : l.pc = .recheck q e)
    (hfault : x.fault = false) (hnone : ¬ Booked q.input.paymentRef r.db)
    (h : step i l r x = some (l', r')) : l' = l.confirmThrows q e := by
  rw [step, hpc] at h
  simp only [hfault, Bool.false_eq_true, if_false] at h
  split at h <;> cases h
  · next hfind =>
    obtain ⟨b, hb, -⟩ := Option.map_eq_some_iff.mp hfind
    exact absurd ⟨b, List.mem_of_find?_eq_some hb, by simpa using List.find?_some hb⟩ hnone
  · rfl

end Settling

/-- **The loser of a race.**  Once one of its seats is sold to another reference, a
delivery whose transaction is rolled back gets a `ConflictError`, and with that it ends
in a report of `SEATS_GONE`. -/
theorem lost_step (h : PayInv Same r) (hl : Holds F Same i l r)
    (hs : Settling.step i l r x = some (l', r')) (hfault : x.fault = false)
    (hnone : ¬ Booked l.charge.reference r.db) {y : SeatId} (hy : y ∈ l.charge.seatIds)
    {row : BookedSeat} (hrow : row ∈ r.db.bookedSeats) (hid : row.seatId = y) :
    (∀ e, l.rolledBack = none → l'.rolledBack = some e → e.isConflictError = true) ∧
    (∀ o, l'.rolledBack ≠ none → l'.pc = .done o → ∃ reason, o = .failed reason .seatsGone) := by
  have hat := hl.at_pc
  unfold At at hat
  rcases Settling.step_rolledBack hs with hsame | ⟨q, e, rfl, hrolls⟩
  · refine ⟨?_, ?_⟩
    · intro e hnil he
      rw [hsame, hnil] at he
      exact absurd he (by simp)
    · intro o hsome hdone
      rw [hsame] at hsome
      cases hpc : l.pc with
      | recheck q e =>
        rw [hpc] at hat
        obtain ⟨-, -, hq, -, hconf⟩ := hat
        rw [← hq.reference] at hnone
        obtain rfl := Settling.step_recheck hpc hfault hnone hs
        rw [Settling.confirmThrows, if_pos hconf] at hdone
        cases hdone
        exact ⟨_, rfl⟩
      | notify q totalAmount booking =>
        rw [hpc] at hat
        obtain ⟨b, hb, href, -⟩ := h.sold _ hat.1
        exact absurd ⟨b, hb, href⟩ hnone
      | done o' =>
        rw [Settling.step, hpc] at hs
        exact absurd hs (by simp)
      | verify | settle =>
        rw [hpc] at hat
        exact absurd hat.rolledBack hsome
      | price | confirm | confirmPrice | select | locking | book =>
        rw [hpc] at hat
        exact absurd hat.1.rolledBack hsome
  · have hconf : e.isConflictError = true := by
      cases hrolls with
      | fault hf =>
        rw [hfault] at hf
        exact absurd hf (by simp)
      | missing => rfl
      | refused _ totalAmount got hpc hlen =>
        -- it has taken all its rows, and one of them is sold
        rw [hpc] at hat
        obtain ⟨-, hq, hgot⟩ := hat
        rw [← hq.seatIds] at hy
        have hbookable := hgot.bookable y ((hgot.perm hlen).mem_iff.mpr hy)
        exact absurd hid (hbookable.no_row h.ledger hrow)
    rw [Settling.txThrows, if_pos hconf]
    refine ⟨?_, ?_⟩
    · intro e' _ he'
      cases he'
      exact hconf
    · intro o _ hdone
      exact absurd hdone (by simp [Settling.goto])

/-! ## All runs -/

/-- **Exactly-once booking confirmation.**  However the deliveries interleave and
whichever statements fail: a reference has at most one booking and a seat at most one
row; deliveries of one reference that return a booking return the same; the event of a
reference is emitted at most once.  Of two references that want one seat at most one is
booked; a delivery of the other changes no table, and where no statement fails it is
rolled back with nothing but a `ConflictError` and then ends with `SEATS_GONE`.  No
delivery of a reference that stays without a booking ever changes a table. -/
theorem exactly_once_confirmation {metadata : Ref → Option ChargeMetadata}
    (h : payments.ReachableBy (Delivers True (Carries metadata)) c) :
    (∀ ref, c.shared.db.bookings.countP (fun b => b.paymentRef == some ref) ≤ 1) ∧
    (∀ y, c.shared.db.bookedSeats.countP (fun row => row.seatId == y) ≤ 1) ∧
    (∀ (i j : ℕ) (l l' : Settling) (booking booking' : BookingDTO),
      c.procs[i]? = some l → c.procs[j]? = some l' → l.charge.reference = l'.charge.reference →
      l.pc = .done (.returned booking) → l'.pc = .done (.returned booking') →
      booking = booking') ∧
    (∀ ref, c.shared.emitted.countP (fun e => e.confirmed.paymentRef == ref) ≤ 1) ∧
    (∀ ref ref' y, ref ≠ ref' → y ∈ seatsOf metadata ref → y ∈ seatsOf metadata ref' →
      Booked ref c.shared.db → ¬ Booked ref' c.shared.db) ∧
    (∀ (i : ℕ) (l : Settling) (x : SettleInput) (c' : Config PayDB Settling) (ref : Ref)
      (y : SeatId), c.procs[i]? = some l → payments.step c (.run i x) = some c' →
      ref ≠ l.charge.reference → y ∈ seatsOf metadata ref →
      y ∈ seatsOf metadata l.charge.reference → Booked ref c.shared.db →
      c'.shared.db = c.shared.db ∧
      (x.fault = false → ∀ l', c'.procs[i]? = some l' →
        (∀ e, l.rolledBack = none → l'.rolledBack = some e → e.isConflictError = true) ∧
        ∀ o, l'.rolledBack ≠ none → l'.pc = .done o →
          ∃ reason, o = .failed reason .seatsGone)) ∧
    (∀ (i : ℕ) (l : Settling) (x : SettleInput) (c' c'' : Config PayDB Settling),
      c.procs[i]? = some l → payments.step c (.run i x) = some c' → payments.Leads c' c'' →
      ¬ Booked l.charge.reference c''.shared.db → c'.shared.db = c.shared.db) := by
  obtain ⟨hinv, hall⟩ := pay_asserts h
  refine ⟨?_, ?_, ?_, ?_, fun ref ref' y hne hy hy' hb => two_references hinv hne hy hy' hb, ?_,
    fun i l x c' c'' hi hs hl hnone => unsold_step h.reachable hi hs hl hnone⟩
  · intro ref
    refine hinv.ledger.bookings.countP_le_one ?_
    intro a b ha hb
    simp only [beq_iff_eq] at ha hb
    simp [Booking.clash, ha, hb]
  · intro y
    refine hinv.ledger.bookedSeats.countP_le_one ?_
    intro a b ha hb
    simp only [beq_iff_eq] at ha hb
    simp [BookedSeat.clash, ha, hb]
  · intro i j l l' booking booking' hi hj href hpc hpc'
    exact (returned_found (hall i l hi) hpc).2.unique hinv.ledger href
      (returned_found (hall j l' hj) hpc').2
  · intro ref
    have hle := List.nodup_iff_count_le_one.mp hinv.emitted_once ref
    rw [List.count, List.countP_map] at hle
    exact hle
  · intro i l x c' ref y hi hs hne hy hy' hb
    have hok : Delivers True (Carries metadata) (.run i x) := fun _ => trivial
    have hstep := h.step hok hs
    have hnone := two_references hinv hne hy hy' hb
    have hnone' := two_references (pay_asserts hstep).1 hne hy hy'
      (hb.leads h.reachable (.of_step hs))
    refine ⟨unsold_step h.reachable hi hs (.refl c') hnone', ?_⟩
    intro hfault l' hi'
    obtain ⟨b, hb, href, hrows⟩ := hb.rows hinv
    obtain ⟨row, hrow, hid, -⟩ := hrows y hy
    obtain ⟨l'', r', hlocal, rfl, hself⟩ := Machine.step_of_next_run hi hs
    obtain rfl := Option.some.inj (hself.symm.trans hi')
    have hseat : y ∈ l.charge.seatIds := by
      rw [(hall i l hi).same.seatIds]
      exact hy'
    exact lost_step hinv (hall i l hi) hlocal hfault hnone hseat hrow hid

/-! ## One run -/

/-- Two users pay for seat `10` of trip `1`. -/
def raceMetadata (ref : Ref) : Option ChargeMetadata :=
  some ⟨none, none, none, some 1, some [10], if ref = 99 then some 7 else some 8⟩

/-- A webhook delivery of a charge for the price of one seat. -/
def raceCharge (ref : Ref) : Charge := ⟨none, ref, 500000, raceMetadata ref⟩

/-- A step in which nothing fails. -/
def plain : SettleInput := ⟨false, none, ⟨20, fun i => 30 + i, fun i => 40 + i⟩⟩

/-- Two deliveries of reference `99` and one of `100`; all three have read the rows
before the first of them locks one. -/
def raceRun : List (Act Charge SettleInput Attempt) :=
  [.env ⟨.createTrip 1 (fun i => 10 + i) twoSeats 3, false⟩,
    .spawn (raceCharge 99), .spawn (raceCharge 99), .spawn (raceCharge 100)] ++
  (List.replicate 5 [.run 0 plain, .run 1 plain, .run 2 plain]).flatten ++
  List.replicate 4 (.run 0 plain) ++ List.replicate 4 (.run 1 plain) ++
  List.replicate 4 (.run 2 plain)

theorem raceRun_delivers : ∀ a ∈ raceRun, Delivers True (Carries raceMetadata) a := by
  intro a ha
  cases a with
  | spawn d =>
    have hd : d = raceCharge 99 ∨ d = raceCharge 100 := by simpa [raceRun] using ha
    rcases hd with rfl | rfl <;> rfl
  | run i x => exact fun _ => trivial
  | env a => trivial

/-- Empty tables and no delivery. -/
def raceStart : Config PayDB Settling := ⟨⟨registered, [], [], []⟩, []⟩

theorem raceRun_runs : (payments.run raceStart raceRun).isSome = true := by
  decide +kernel

/-- Where the race ends. -/
def raceEnd : Config PayDB Settling := (payments.run raceStart raceRun).get raceRun_runs

theorem raceEnd_reachable : payments.ReachableBy (Delivers True (Carries raceMetadata)) raceEnd :=
  ⟨raceStart, raceRun, ⟨⟨[7, 8], rfl⟩, rfl⟩, raceRun_delivers, (Option.some_get _).symm⟩

theorem exactly_once_confirmation_race :
    raceEnd.shared.db.bookings.map Booking.paymentRef = [some 99] ∧
      raceEnd.procs[2]?.map Settling.pc =
        some (.done (.failed "Seats are no longer available." .seatsGone)) ∧
      ∀ y, raceEnd.shared.db.bookedSeats.countP (fun row => row.seatId == y) ≤ 1 :=
  ⟨by decide +kernel, by decide +kernel, (exactly_once_confirmation raceEnd_reachable).2.1⟩

end TransHub
