import TransHub.Payments.Agreement

/-!
# The passengers of a booking

`initialize` caches the passengers of its input in Redis, under the reference that it has
generated; the delivery of the charge reads them back, and `confirm` stores one row each.  The
seats come from the rows that the user holds.

* `Manifests`: a checkout with what Redis holds, and with the requests that have been prepared
  and their passengers as a history.
* `Boarding`, `manifestMachine`: calls of `initialize` with their passengers.
* `step_call`: the passengers that a delivery carries; `step_seatIds`: the seats that a call
  has found; `boarding_step`: what a step of a call does.
-/

namespace TransHub

/-! ## The calls -/

/-- A checkout, what Redis holds under `pax:`, and, as a history, the requests that calls of
`initialize` have prepared, with the passengers of their inputs. -/
structure Manifests where
  checkout : Checkout
  pax : List (Ref × List PassengerInfoInput)
  issued : List (ChargeRequest × List PassengerInfoInput)

/-- The requester and the input of `initialize`, as `initializeSchema` leaves it. -/
structure InitializeCall where
  userId : UserId
  tripId : TripId
  passengers : List PassengerInfoInput
  one_le : 1 ≤ passengers.length

/-- A call of `initialize` with its passengers, and whether it has been to Redis. -/
structure Boarding where
  call : Initializing
  passengers : List PassengerInfoInput
  cached : Bool := false
  deriving DecidableEq

/-- What the outside world decides in a step of a call: what it did before, and whether Redis
stores a value. -/
structure BoardingInput where
  call : InitializeInput
  stored : Bool

/-- The request that a call is about to send. -/
def InitializePc.prepared : InitializePc → Option ChargeRequest
  | request q => some q
  | _ => none

/-- `redis.get` of `pax:` and a reference. -/
def Manifests.get (r : Manifests) (reference : Ref) : Option (List PassengerInfoInput) :=
  (r.pax.find? fun e => e.1 == reference).map Prod.snd

namespace Boarding

/-- A step of the call that leaves Redis alone.  A generated reference is one that has not been
generated before. -/
def advance (i : ℕ) (l : Boarding) (r : Manifests) (x : InitializeInput) :
    Option (Boarding × Manifests) :=
  match Initializing.step i l.call r.checkout x with
  | none => none
  | some (call, checkout) =>
      if call.pc.prepared.all fun q => r.issued.all fun e => e.1.reference != q.reference then
        some ({ l with call },
          { r with
            checkout
            issued := (call.pc.prepared.map fun q => (q, l.passengers)).toList ++ r.issued })
      else none

/-- The next step of a call.  Between the reads and the request it caches its passengers. -/
def step (i : ℕ) (l : Boarding) (r : Manifests) (x : BoardingInput) :
    Option (Boarding × Manifests) :=
  match l.call.pc.prepared, l.cached with
  | some q, false =>
      some ({ l with cached := true },
        if x.stored then { r with pax := (q.reference, l.passengers) :: r.pax } else r)
  | _, _ => l.advance i r x.call

end Boarding

/-- A move of the deliveries and their environment, or the loss of a key. -/
inductive ManifestMove where
  | checkout (a : Act Charge SettleInput Attempt)
  | expire (reference : Ref)

/-- A delivery reads what Redis holds for its reference, or nothing. -/
def Manifests.reads (r : Manifests) : Act Charge SettleInput Attempt → Bool
  | .run i x => (r.checkout.pay.procs[i]?).all fun l => match l.pc with
      | .price _ _ _ => x.passengers == none || x.passengers == r.get l.charge.reference
      | _ => true
  | _ => true

def Manifests.env (r : Manifests) : ManifestMove → Option Manifests
  | .checkout a =>
      if r.reads a then (r.checkout.env a).map fun checkout => { r with checkout } else none
  | .expire reference => some { r with pax := r.pax.filter fun e => e.1 != reference }

/-- Calls of `initialize` with their passengers. -/
def manifestMachine : Machine Manifests Boarding InitializeCall BoardingInput ManifestMove where
  start o := { call := ⟨o.userId, o.tripId, .held⟩, passengers := o.passengers }
  step := Boarding.step
  env := Manifests.env

/-- Nothing is stored and nobody has called. -/
def Manifests.empty (users : List UserId) : Manifests :=
  ⟨⟨⟨⟨⟨users, [], [], [], [], []⟩, [], [], []⟩, []⟩, [], []⟩, [], []⟩

/-- Runs of calls, deliveries and ledger operations from empty tables. -/
def manifests : System (Config Manifests Boarding)
    (Act InitializeCall BoardingInput ManifestMove) :=
  manifestMachine.system fun r => ∃ users, r = Manifests.empty users

/-! ## What a delivery carries -/

/-- The call of `confirm` that a delivery is to make or is in. -/
def SettlePc.call : SettlePc → Option ConfirmCall
  | confirm q | confirmPrice q | select q _ | locking q _ _ _ | book q _ _ => some q
  | _ => none

section Settle

variable {i : ℕ} {l l' : Settling} {r r' : PayDB} {x : SettleInput}

theorem call_confirmThrows (q : ConfirmCall) (e : Thrown) :
    (l.confirmThrows q e).pc.call = none := by
  unfold Settling.confirmThrows
  split <;> rfl

theorem call_txThrows (q : ConfirmCall) (e : Thrown) : (l.txThrows q e).pc.call = none := by
  unfold Settling.txThrows
  dsimp only
  split
  · rfl
  · exact call_confirmThrows q e

theorem call_checkMeta : l.checkMeta.pc.call = none := by
  unfold Settling.checkMeta
  split <;> rfl

theorem call_checkCaller (caller : UserId) : (l.checkCaller caller).pc.call = none := by
  unfold Settling.checkCaller
  split <;> rfl

/-- The call carries the passengers that were read. -/
theorem call_checkAmount {tripId : TripId} {seatIds : List SeatId} {userId : UserId}
    {passengers : Option (List PassengerInfoInput)} {price : Option ℤ} {q : ConfirmCall}
    (h : (l.checkAmount tripId seatIds userId passengers price).pc.call = some q) :
    q.input.passengers = passengers := by
  unfold Settling.checkAmount at h
  split at h
  · cases h
  · dsimp only at h
    split at h
    · cases h
    · cases h
      rfl

/-- **What a delivery carries.**  It carries on with its call of `confirm`, or makes one with
the passengers that it reads. -/
theorem step_call (hs : Settling.step i l r x = some (l', r')) {q : ConfirmCall}
    (hq : l'.pc.call = some q) :
    l.pc.call = some q ∨
      ∃ tripId seatIds userId, l.pc = .price tripId seatIds userId ∧
        q.input.passengers = x.passengers := by
  cases Settling.step_move hs with
  | checkCaller caller hpc =>
    rw [call_checkCaller] at hq
    cases hq
  | checkMeta hpc =>
    rw [call_checkMeta] at hq
    cases hq
  | checkAmount tripId seatIds userId hpc =>
    exact Or.inr ⟨tripId, seatIds, userId, hpc, call_checkAmount hq⟩
  | throws | recheckFault | conflict =>
    rw [call_confirmThrows] at hq
    cases hq
  | selectFault | lockFault | bookFault | short | refused =>
    rw [call_txThrows] at hq
    cases hq
  | absent q₀ hpc =>
    rw [hpc]
    exact Or.inl hq
  | priced q₀ price hpc hprice =>
    rw [hpc]
    exact Or.inl hq
  | select q₀ totalAmount hpc =>
    rw [hpc]
    exact Or.inl hq
  | lock q₀ totalAmount y todo got hpc hfree hmem =>
    rw [hpc]
    exact Or.inl hq
  | skip q₀ totalAmount y todo got hpc =>
    rw [hpc]
    exact Or.inl hq
  | locked q₀ totalAmount got hpc =>
    rw [hpc]
    exact Or.inl hq
  | _ => cases hq

end Settle

/-! ## Calls of `initialize` -/

/-- The seats that a call has found. -/
def InitializePc.seatIds : InitializePc → Option (List SeatId)
  | price seatIds | user seatIds _ => some seatIds
  | request q => q.metadata.seatIds
  | _ => none

section Initialize

variable {j : ℕ} {l l' : Initializing} {r r' : Checkout} {x : InitializeInput}

/-- **A call goes on with the seats that it has found.** -/
theorem step_seatIds (hs : Initializing.step j l r x = some (l', r')) {seatIds : List SeatId}
    (hseats : l'.pc.seatIds = some seatIds) :
    l.pc.seatIds = some seatIds ∨
      (l.pc = .held ∧ x.fault = false ∧ seatIds.length ≠ 0 ∧
        seatIds = Inventory.heldSeatIds l.tripId l.userId x.now r.pay.shared.db.seats) := by
  unfold Initializing.step at hs
  cases hpc : l.pc with
  | done o =>
    rw [hpc] at hs
    exact absurd hs (by simp)
  | held =>
    simp only [hpc] at hs
    split at hs
    · cases hs
      cases hseats
    · next hfault =>
      cases hs
      unfold Initializing.checkHeld at hseats
      split at hseats
      · cases hseats
      · next hlen =>
        cases hseats
        exact Or.inr ⟨rfl, Bool.eq_false_iff.mpr hfault, hlen, rfl⟩
  | price found =>
    simp only [hpc] at hs
    split at hs
    · cases hs
      cases hseats
    · cases hs
      unfold Initializing.checkPrice at hseats
      split at hseats
      · cases hseats
      · split at hseats
        · cases hseats
        · exact Or.inl hseats
  | user found price =>
    simp only [hpc] at hs
    split at hs
    · cases hs
      cases hseats
    · split at hs <;> cases hs
      · exact Or.inl hseats
      · cases hseats
  | request q =>
    simp only [hpc] at hs
    split at hs <;> cases hs <;> cases hseats

end Initialize

section Calls

variable {i : ℕ} {l l' : Boarding} {r r' : Manifests} {x : BoardingInput}

/-- **What a step of a call does.**  It goes to Redis with a request that it has prepared, or
takes a step of `initialize`. -/
theorem boarding_step (hs : Boarding.step i l r x = some (l', r')) :
    (∃ q, l.call.pc = .request q ∧ l' = { l with cached := true } ∧
      (r' = r ∨ r' = { r with pax := (q.reference, l.passengers) :: r.pax })) ∨
    ∃ call checkout, Initializing.step i l.call r.checkout x.call = some (call, checkout) ∧
      (∀ q, call.pc.prepared = some q → ∀ e ∈ r.issued, e.1.reference ≠ q.reference) ∧
      l' = { l with call } ∧
      r' = { r with
        checkout
        issued := (call.pc.prepared.map fun q => (q, l.passengers)).toList ++ r.issued } := by
  have hadvance : ∀ p, l.advance i r x.call = some p →
      ∃ call checkout, Initializing.step i l.call r.checkout x.call = some (call, checkout) ∧
        (∀ q, call.pc.prepared = some q → ∀ e ∈ r.issued, e.1.reference ≠ q.reference) ∧
        p.1 = { l with call } ∧
        p.2 = { r with
          checkout
          issued := (call.pc.prepared.map fun q => (q, l.passengers)).toList ++ r.issued } := by
    intro p hp
    unfold Boarding.advance at hp
    split at hp
    · cases hp
    · next call checkout hcall =>
      split at hp
      · next hfresh =>
        cases hp
        refine ⟨call, checkout, hcall, ?_, rfl, rfl⟩
        intro q hq e he
        rw [hq, Option.all_some] at hfresh
        simpa using List.all_eq_true.mp hfresh e he
      · cases hp
  unfold Boarding.step at hs
  split at hs
  · next q hprepared hcached =>
    cases hs
    refine Or.inl ⟨q, ?_, rfl, ?_⟩
    · cases hpc : l.call.pc <;> rw [hpc] at hprepared <;> cases hprepared
      rfl
    · cases x.stored
      · exact Or.inl rfl
      · exact Or.inr rfl
  · exact Or.inr (hadvance _ hs)

end Calls

/-- The deliveries, their environment and Redis issue nothing. -/
theorem Manifests.env_issued {r r' : Manifests} {m : ManifestMove} (he : r.env m = some r') :
    r'.issued = r.issued := by
  cases m with
  | expire reference =>
    cases he
    rfl
  | checkout a =>
    rw [Manifests.env] at he
    split at he
    · obtain ⟨checkout, -, rfl⟩ := Option.map_eq_some_iff.mp he
      rfl
    · exact absurd he (by simp)

end TransHub
