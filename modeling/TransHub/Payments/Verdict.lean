import TransHub.Payments.Confirmation

/-!
# A refund verdict is not recorded

A delivery that is answered `SEATS_GONE` is reported for a manual refund, and nothing else
is stored of it.  A later delivery of the same reference starts over.

* `refused`: some delivery of the reference has been answered `SEATS_GONE`.
* `seatsGone_step`: that answer is given when the reference has no booking.
* `staysGone`: no delivery of a refused reference makes a step while its seats are back.
* `refund_verdict_final`: runs of such steps keep every verdict;
  `refund_verdict_overturned`: a run in which the seats come back.
-/

namespace TransHub

/-! ## Verdicts -/

/-- The delivery has been answered `SEATS_GONE`. -/
def Settling.isSeatsGone (l : Settling) : Bool :=
  match l.pc with
  | .done (.failed _ .seatsGone) => true
  | _ => false

/-- A delivery of the reference has been answered `SEATS_GONE`. -/
def refused (ref : Ref) (c : Config PayDB Settling) : Bool :=
  c.procs.any fun l => l.charge.reference == ref && l.isSeatsGone

/-- No reference that has been answered `SEATS_GONE` has a booking.  The answer is given to
references without one, so a booking would have come later. -/
def VerdictFinal (c : Config PayDB Settling) : Prop :=
  ∀ ref, refused ref c = true → ¬ Booked ref c.shared.db

/-- Every seat that the charge pays for is free again or held by its payer. -/
def Charge.seatsBack (d : Charge) (db : DB) : Bool :=
  match d.metadata.bind ChargeMetadata.tripId, d.metadata.bind ChargeMetadata.userId with
  | some tripId, some userId => d.seatIds.all fun y =>
      (Inventory.lockRows tripId d.seatIds userId db.seats).contains y
  | _, _ => false

/-- The seats stay gone: the step is not one of a delivery whose reference has been answered
`SEATS_GONE` and whose seats are all back. -/
def staysGone (c : Config PayDB Settling) : Act Charge SettleInput Attempt → Bool
  | .run i _ => (c.procs[i]?).all fun l =>
      !(refused l.charge.reference c && l.charge.seatsBack c.shared.db)
  | _ => true

section Steps

variable {i : ℕ} {l l' : Settling} {r r' : PayDB} {x : SettleInput}

theorem isSeatsGone_confirmThrows {q : ConfirmCall} {e : Thrown}
    (he : e.isConflictError = false) : (l.confirmThrows q e).isSeatsGone = false := by
  rw [Settling.confirmThrows, if_neg (by rw [he]; exact Bool.false_ne_true)]
  rfl

theorem isSeatsGone_txThrows (q : ConfirmCall) (e : Thrown) :
    (l.txThrows q e).isSeatsGone = false := by
  unfold Settling.txThrows
  dsimp only
  split
  · rfl
  · next hne => exact isSeatsGone_confirmThrows (Bool.eq_false_iff.mpr hne)

theorem isSeatsGone_checkMeta : l.checkMeta.isSeatsGone = false := by
  unfold Settling.checkMeta
  split <;> rfl

theorem isSeatsGone_checkAmount (tripId : TripId) (seatIds : List SeatId) (userId : UserId)
    (passengers : Option (List PassengerInfoInput)) (price : Option ℤ) :
    (l.checkAmount tripId seatIds userId passengers price).isSeatsGone = false := by
  unfold Settling.checkAmount
  split
  · rfl
  · dsimp only
    split <;> rfl

theorem isSeatsGone_checkCaller (caller : UserId) : (l.checkCaller caller).isSeatsGone = false := by
  unfold Settling.checkCaller
  split <;> rfl

/-- No booking is found for a reference that has none. -/
theorem not_booked_of_find {ref : Ref} {db : DB} (h : Bookings.findByPaymentRef ref db = none) :
    ¬ Booked ref db := by
  rintro ⟨b, hb, href⟩
  rw [Bookings.findByPaymentRef, Option.map_eq_none_iff] at h
  exact absurd href (by simpa using List.find?_eq_none.mp h b hb)

/-- **`SEATS_GONE` is answered to a reference without a booking.**  It is the answer of the
re-check after a rolled-back transaction, and of no other step. -/
theorem seatsGone_step (hs : Settling.step i l r x = some (l', r')) :
    l'.isSeatsGone = false ∨
      ∃ q e, l.pc = .recheck q e ∧ ¬ Booked q.input.paymentRef r.db ∧ r' = r := by
  cases Settling.step_move hs with
  | conflict q e hpc hnone => exact Or.inr ⟨q, e, hpc, not_booked_of_find hnone, rfl⟩
  | checkCaller caller => exact Or.inl (isSeatsGone_checkCaller caller)
  | checkMeta => exact Or.inl isSeatsGone_checkMeta
  | checkAmount => exact Or.inl (isSeatsGone_checkAmount _ _ _ _ _)
  | throws q e hpc he => exact Or.inl (isSeatsGone_confirmThrows he)
  | recheckFault => exact Or.inl (isSeatsGone_confirmThrows rfl)
  | selectFault q | lockFault q | bookFault q | short q | refused q =>
    exact Or.inl (isSeatsGone_txThrows q _)
  | _ => exact Or.inl rfl

/-- **A step books only for a charge whose seats are back.** -/
theorem seatsBack_of_booked {F : Prop} {Same : Charge → Prop} {ref : Ref}
    (hinv : PayInv Same r) (hl : Holds F Same i l r)
    (hs : Settling.step i l r x = some (l', r')) (hno : ¬ Booked ref r.db)
    (hbooked : Booked ref r'.db) :
    l.charge.reference = ref ∧ l.charge.seatsBack r.db = true := by
  cases (Settling.step_effect hs).2 with
  | none => exact absurd hbooked hno
  | lock => exact absurd hbooked hno
  | unlock => exact absurd hbooked hno
  | emit => exact absurd hbooked hno
  | commit uuids q totalAmount got booking db hpc hlen hok =>
    obtain ⟨-, hq, -, htx⟩ := commit_facts hl hpc hlen hok
    obtain ⟨-, -, -, -, hins, -⟩ := Bookings.confirmTx_ok hinv.ledger.nodup_seatIds htx
    obtain ⟨-, hbook⟩ := Table.insert_eq_some.mp hins
    have href : l.charge.reference = ref := by
      obtain ⟨b, hb, hbref⟩ := hbooked
      have hb : b ∈ db.bookings := hb
      rw [hbook] at hb
      rcases List.mem_append.mp hb with hb | hb
      · exact absurd ⟨b, hb, hbref⟩ hno
      · rw [List.mem_singleton.mp hb] at hbref
        exact hq.reference.symm.trans (Option.some.inj hbref)
    refine ⟨href, ?_⟩
    -- it has taken a row for each of its seats, and others leave these rows alone
    have hat := hl.at_pc
    rw [At, hpc] at hat
    obtain ⟨-, -, hgot⟩ := hat
    rw [Charge.seatsBack, hq.tripId, hq.userId, ← hq.seatIds]
    refine List.all_eq_true.mpr fun y hy => List.contains_iff_mem.mpr ?_
    exact hgot.bookable y ((hgot.perm hlen).mem_iff.mpr hy)

end Steps

/-! ## Runs -/

theorem refused_iff {ref : Ref} {c : Config PayDB Settling} :
    refused ref c = true ↔ ∃ (i : ℕ) (l : Settling), c.procs[i]? = some l ∧
      l.charge.reference = ref ∧ l.isSeatsGone = true := by
  rw [refused, List.any_eq_true]
  constructor
  · rintro ⟨l, hl, h⟩
    rw [Bool.and_eq_true, beq_iff_eq] at h
    obtain ⟨i, hi⟩ := List.mem_iff_getElem?.mp hl
    exact ⟨i, l, hi, h⟩
  · rintro ⟨i, l, hi, href, hgone⟩
    refine ⟨l, List.mem_of_getElem? hi, ?_⟩
    rw [Bool.and_eq_true, beq_iff_eq]
    exact ⟨href, hgone⟩

/-- **While the seats stay gone a step keeps the verdicts.** -/
theorem verdict_next {c c' : Config PayDB Settling} {a : Act Charge SettleInput Attempt}
    (hr : payments.Reachable c) (hfinal : VerdictFinal c) (hgone : staysGone c a = true)
    (hs : payments.step c a = some c') : VerdictFinal c' := by
  obtain ⟨hinv, hall⟩ := pay_asserts_any hr
  intro ref href
  obtain ⟨j, m, hj, hmref, hanswer⟩ := refused_iff.mp href
  rcases Machine.next_cases hs with ⟨d, rfl, rfl⟩ | ⟨i, x, l, l', r', rfl, hi, hown, rfl⟩ |
    ⟨a, r', rfl, henv, rfl⟩
  · rcases Machine.getElem?_snoc_cases hj with ⟨-, rfl⟩ | hj
    · -- a new delivery has not been answered
      have hstart : (Settling.start d).isSeatsGone = false := by
        unfold Settling.start Settling.isSeatsGone
        cases d.caller <;> rfl
      exact absurd (hstart.symm.trans hanswer) (by simp)
    · exact hfinal ref (refused_iff.mpr ⟨j, m, hj, hmref, hanswer⟩)
  · obtain ⟨hcharge, -⟩ := Settling.step_effect hown
    rcases Machine.getElem?_set_cases hi hj with ⟨-, rfl⟩ | ⟨-, hj⟩
    · -- the answer is given by this step
      rcases seatsGone_step hown with hnot | ⟨q, e, hpc, hno, rfl⟩
      · exact absurd (hnot.symm.trans hanswer) (by simp)
      · have hat := (hall i l hi).at_pc
        rw [At, hpc] at hat
        have hqref := hat.2.2.1.reference
        rwa [hqref, ← hcharge, hmref] at hno
    · -- it has been given before, so this step does not book
      have hbefore : refused ref c = true := refused_iff.mpr ⟨j, m, hj, hmref, hanswer⟩
      intro hbooked
      obtain ⟨rfl, hback⟩ :=
        seatsBack_of_booked hinv (hall i l hi) hown (hfinal ref hbefore) hbooked
      simp [staysGone, hi, hback, hbefore] at hgone
  · obtain ⟨hop, rfl, -⟩ := env_some henv
    have hbefore := hfinal ref (refused_iff.mpr ⟨j, m, hj, hmref, hanswer⟩)
    rintro ⟨b, hb, hbref⟩
    rw [commit_bookings c.shared.db hop] at hb
    exact hbefore ⟨b, hb, hbref⟩

/-- **When a refund verdict is final.**  Where, from the verdict on, some seat of the charge is
neither free nor held by its payer whenever a delivery of the reference makes a step, no
reference that has been answered `SEATS_GONE` gets a booking. -/
theorem refund_verdict_final {c : Config PayDB Settling} (h : payments.init c)
    (acts : List (Act Charge SettleInput Attempt))
    (hgone : payments.AllSteps (fun m a => staysGone m a = true) c acts) :
    ∀ m ∈ payments.trace c acts, VerdictFinal m := by
  have hstart : VerdictFinal c := by
    intro ref href
    rw [refused, h.2] at href
    exact absurd href (by simp)
  intro m hm
  refine (hgone.invariant_trace (P := fun r => payments.Reachable r ∧ VerdictFinal r) ?_
    ⟨.of_init h, hstart⟩ hm).2
  exact fun r a r' hP hC hs => ⟨hP.1.step hs, verdict_next hP.1 hP.2 hC hs⟩

/-- The user of reference `99` has let the hold of seat `10` lapse, and another user holds
it, when the payment arrives. -/
def lapsedRun : List (Act Charge SettleInput Attempt) :=
  [.env ⟨.createTrip 1 (fun i => 10 + i) twoSeats 3, false⟩,
    .env ⟨.holdSeats (fun _ => false) 1 1 8 0, false⟩, .spawn (raceCharge 99)] ++
  List.replicate 8 (.run 0 plain)

/-- The other user pays first. -/
def soldRun : List (Act Charge SettleInput Attempt) :=
  lapsedRun ++ .spawn (raceCharge 100) :: List.replicate 9 (.run 1 plain) ++
  .spawn { raceCharge 99 with caller := some 7 } :: List.replicate 9 (.run 2 plain)

theorem refund_verdict_final_sold :
    (payments.run raceStart soldRun).map (fun m => (refused 99 m, m.shared.db.bookings.map
        Booking.paymentRef)) = some (true, [some 100]) ∧
      ∀ m ∈ payments.trace raceStart soldRun, VerdictFinal m :=
  ⟨by decide +kernel,
    refund_verdict_final ⟨⟨[7, 8], rfl⟩, rfl⟩ soldRun (by decide +kernel)⟩

/-- The other hold lapses, and the user of reference `99` asks for the payment again. -/
def overturnedRun : List (Act Charge SettleInput Attempt) :=
  lapsedRun ++ .env ⟨.sweepExpiredHolds 1000000, false⟩ ::
  .spawn { raceCharge 99 with caller := some 7 } :: List.replicate 10 (.run 1 plain)

theorem overturnedRun_runs : (payments.run raceStart overturnedRun).isSome = true := by
  decide +kernel

/-- Where the run ends. -/
def overturnedEnd : Config PayDB Settling :=
  (payments.run raceStart overturnedRun).get overturnedRun_runs

/-- **A verdict is overturned.**  The first delivery of reference `99` has been answered
`SEATS_GONE`; a later one books its seat. -/
theorem refund_verdict_overturned :
    payments.Reachable overturnedEnd ∧
      (payments.run raceStart lapsedRun).map (fun m => (m.procs.map Settling.pc,
        m.shared.db.bookings)) =
          some ([.done (.failed "Seats are no longer available." .seatsGone)], []) ∧
      overturnedEnd.procs[0]?.map Settling.pc =
        some (.done (.failed "Seats are no longer available." .seatsGone)) ∧
      overturnedEnd.shared.db.bookings.map Booking.paymentRef = [some 99] ∧
      ¬ VerdictFinal overturnedEnd := by
  have hbooked : Booked 99 overturnedEnd.shared.db := by
    show ∃ b ∈ overturnedEnd.shared.db.bookings, b.paymentRef = some 99
    decide +kernel
  refine ⟨⟨raceStart, ⟨⟨[7, 8], rfl⟩, rfl⟩, overturnedRun, (Option.some_get _).symm⟩,
    by decide +kernel, by decide +kernel, by decide +kernel, ?_⟩
  intro hfinal
  exact hfinal 99 (by decide +kernel) hbooked

end TransHub
