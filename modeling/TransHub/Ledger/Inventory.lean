import TransHub.Ledger.Schema
import Mathlib.Data.List.Sort

/-!
# The inventory repository

`inventory.repository`, the only writer of `seats`: each function is one or two
statements over the rows of `seats`, and each write is a `Table.updateMany` that
leaves `id`, `tripId` and `label` alone.

* `claimSeats`, `releaseUserHoldsForTrip`: the two statements of a hold.
* `lockRows`, `markBooked`, `lockAndMarkBooked`: the statements of a confirm.
* `releaseSpecificHold`, `sweepExpiredHolds`: the expiry job and the sweeper.

`claimSeats_ok` and `lockAndMarkBooked_ok` say what the two checked functions
return; the rest of the development cites them.
-/

namespace TransHub

/-! ## What the statements write -/

/-- `data: { status: "held", heldUntil, heldBy: userId }`. -/
def Seat.hold (userId : UserId) (heldUntil : Time) (s : Seat) : Seat :=
  { s with status := .held, heldUntil := some heldUntil, heldBy := some userId }

/-- `data: { status: "available", heldUntil: null, heldBy: null }`. -/
def Seat.free (s : Seat) : Seat :=
  { s with status := .available, heldUntil := none, heldBy := none }

/-- `data: { status: "booked", heldUntil: null, heldBy: null }`. -/
def Seat.book (s : Seat) : Seat :=
  { s with status := .booked, heldUntil := none, heldBy := none }

section Columns

variable (s : Seat) (u : UserId) (t : Time)

@[simp] theorem Seat.hold_id : (s.hold u t).id = s.id := rfl
@[simp] theorem Seat.hold_tripId : (s.hold u t).tripId = s.tripId := rfl
@[simp] theorem Seat.hold_label : (s.hold u t).label = s.label := rfl
@[simp] theorem Seat.hold_status : (s.hold u t).status = .held := rfl
@[simp] theorem Seat.hold_heldBy : (s.hold u t).heldBy = some u := rfl
@[simp] theorem Seat.hold_heldUntil : (s.hold u t).heldUntil = some t := rfl

@[simp] theorem Seat.free_id : s.free.id = s.id := rfl
@[simp] theorem Seat.free_tripId : s.free.tripId = s.tripId := rfl
@[simp] theorem Seat.free_label : s.free.label = s.label := rfl
@[simp] theorem Seat.free_status : s.free.status = .available := rfl
@[simp] theorem Seat.free_heldBy : s.free.heldBy = none := rfl
@[simp] theorem Seat.free_heldUntil : s.free.heldUntil = none := rfl

@[simp] theorem Seat.book_id : s.book.id = s.id := rfl
@[simp] theorem Seat.book_tripId : s.book.tripId = s.tripId := rfl
@[simp] theorem Seat.book_label : s.book.label = s.label := rfl
@[simp] theorem Seat.book_status : s.book.status = .booked := rfl
@[simp] theorem Seat.book_heldBy : s.book.heldBy = none := rfl
@[simp] theorem Seat.book_heldUntil : s.book.heldUntil = none := rfl

end Columns

namespace Inventory

/-! ## Holding -/

/-- `HOLD_TTL_SEC`. -/
def holdTtlSec : ℕ := 600

/-- A seat `claimSeats` may take: `"tripId" = … AND status = 'available'`. -/
def claimable (tripId : TripId) (s : Seat) : Bool :=
  s.tripId == tripId && s.status == .available

/-- The rows of `SELECT … ORDER BY label LIMIT quantity FOR UPDATE SKIP LOCKED`;
`locked` are the rows that other open transactions have locked. -/
def claimRows (locked : SeatId → Bool) (tripId : TripId) (quantity : ℕ) (seats : List Seat) :
    List Seat :=
  ((seats.filter fun s => claimable tripId s && !locked s.id).insertionSort
    fun a b => a.label.le b.label = true).take quantity

/-- The `updateMany` of `claimSeats`. -/
def markHeld (ids : List SeatId) (userId : UserId) (heldUntil : Time) (seats : List Seat) :
    List Seat :=
  Table.updateMany (fun s => ids.contains s.id) (Seat.hold userId heldUntil) seats

/-- `claimSeats`: the claimed ids and the rows after it. -/
def claimSeats (locked : SeatId → Bool) (tripId : TripId) (quantity : ℕ) (userId : UserId)
    (heldUntil : Time) (seats : List Seat) : Except Thrown (List SeatId × List Seat) :=
  let rows := claimRows locked tripId quantity seats
  if rows.length < quantity then .error (.app .insufficientSeatsError)
  else .ok (rows.map Seat.id, markHeld (rows.map Seat.id) userId heldUntil seats)

/-- `{ tripId, status: "held", heldBy: userId }`. -/
def heldByUser (tripId : TripId) (userId : UserId) (s : Seat) : Bool :=
  s.tripId == tripId && s.status == .held && s.heldBy == some userId

/-- `releaseUserHoldsForTrip`. -/
def releaseUserHoldsForTrip (tripId : TripId) (userId : UserId) (seats : List Seat) :
    List Seat :=
  Table.updateMany (heldByUser tripId userId) Seat.free seats

/-- `{ gt: now }` on a nullable column: a null is not greater. -/
def after (now : Time) : Option Time → Bool
  | some t => now < t
  | none => false

/-- `{ lt: now }` on a nullable column: a null is not less. -/
def before (now : Time) : Option Time → Bool
  | some t => t < now
  | none => false

/-- `heldSeatIds`. -/
def heldSeatIds (tripId : TripId) (userId : UserId) (now : Time) (seats : List Seat) :
    List SeatId :=
  (seats.filter fun s => heldByUser tripId userId s && after now s.heldUntil).map Seat.id

/-! ## Confirming -/

/-- The `WHERE` of the `SELECT … FOR UPDATE` in `lockAndMarkBooked`. -/
def bookable (tripId : TripId) (seatIds : List SeatId) (userId : UserId) (s : Seat) : Bool :=
  s.tripId == tripId && seatIds.contains s.id &&
    (s.status == .available || (s.status == .held && s.heldBy == some userId))

/-- The ids that `SELECT … FOR UPDATE` returns. -/
def lockRows (tripId : TripId) (seatIds : List SeatId) (userId : UserId) (seats : List Seat) :
    List SeatId :=
  (seats.filter (bookable tripId seatIds userId)).map Seat.id

/-- The `updateMany` of `lockAndMarkBooked`. -/
def markBooked (seatIds : List SeatId) (seats : List Seat) : List Seat :=
  Table.updateMany (fun s => seatIds.contains s.id) Seat.book seats

/-- `lockAndMarkBooked`.  `Prisma.join` throws on an empty list. -/
def lockAndMarkBooked (tripId : TripId) (seatIds : List SeatId) (userId : UserId)
    (seats : List Seat) : Except Thrown (List Seat) :=
  if seatIds.isEmpty then .error .emptyJoin
  else if (lockRows tripId seatIds userId seats).length < seatIds.length then
    .error (.app (.holdExpiredError "One or more seats are no longer available"))
  else .ok (markBooked seatIds seats)

/-! ## Expiry -/

/-- `{ id: { in: seatIds }, tripId, status: "held", heldBy: userId }`. -/
def specificHold (seatIds : List SeatId) (tripId : TripId) (userId : UserId) (s : Seat) : Bool :=
  seatIds.contains s.id && heldByUser tripId userId s

/-- `releaseSpecificHold`: the rows after it and the count it returns. -/
def releaseSpecificHold (seatIds : List SeatId) (tripId : TripId) (userId : UserId)
    (seats : List Seat) : List Seat × ℕ :=
  (Table.updateMany (specificHold seatIds tripId userId) Seat.free seats,
    seats.countP (specificHold seatIds tripId userId))

/-- `{ status: "held", heldUntil: { lt: now } }`. -/
def expired (now : Time) (s : Seat) : Bool :=
  s.status == .held && before now s.heldUntil

/-- `sweepExpiredHolds`, one attempt: the rows after it and the count it returns. -/
def sweepExpiredHolds (now : Time) (seats : List Seat) : List Seat × ℕ :=
  (Table.updateMany (expired now) Seat.free seats, seats.countP (expired now))

/-! ## What the `where` clauses say -/

theorem claimable_iff {tripId : TripId} {s : Seat} :
    claimable tripId s = true ↔ s.tripId = tripId ∧ s.status = .available := by
  simp [claimable]

theorem heldByUser_iff {tripId : TripId} {userId : UserId} {s : Seat} :
    heldByUser tripId userId s = true ↔
      s.tripId = tripId ∧ s.status = .held ∧ s.heldBy = some userId := by
  simp [heldByUser, and_assoc]

theorem before_iff {now : Time} {o : Option Time} :
    before now o = true ↔ ∃ t, o = some t ∧ t < now := by
  cases o <;> simp [before]

theorem bookable_iff {tripId : TripId} {seatIds : List SeatId} {userId : UserId} {s : Seat} :
    bookable tripId seatIds userId s = true ↔ s.tripId = tripId ∧ s.id ∈ seatIds ∧
      (s.status = .available ∨ (s.status = .held ∧ s.heldBy = some userId)) := by
  simp [bookable, and_assoc]

theorem specificHold_iff {seatIds : List SeatId} {tripId : TripId} {userId : UserId}
    {s : Seat} :
    specificHold seatIds tripId userId s = true ↔ s.id ∈ seatIds ∧ s.tripId = tripId ∧
      s.status = .held ∧ s.heldBy = some userId := by
  rw [specificHold, Bool.and_eq_true, heldByUser_iff, List.contains_iff_mem]

theorem expired_iff {now : Time} {s : Seat} :
    expired now s = true ↔ s.status = .held ∧ ∃ t, s.heldUntil = some t ∧ t < now := by
  rw [expired, Bool.and_eq_true, before_iff, beq_iff_eq]

/-! ## What the checked functions return -/

/-- A row that `claimRows` selects is a free, unlocked row of the trip. -/
theorem mem_claimRows {locked : SeatId → Bool} {tripId : TripId} {quantity : ℕ}
    {seats : List Seat} {s : Seat} (h : s ∈ claimRows locked tripId quantity seats) :
    s ∈ seats ∧ s.tripId = tripId ∧ s.status = .available ∧ locked s.id = false := by
  have hs := List.mem_of_mem_take h
  rw [List.mem_insertionSort, List.mem_filter, Bool.and_eq_true, claimable_iff,
    Bool.not_eq_true'] at hs
  exact ⟨hs.1, hs.2.1.1, hs.2.1.2, hs.2.2⟩

theorem nodup_claimRows {locked : SeatId → Bool} {tripId : TripId} {quantity : ℕ}
    {seats : List Seat} (h : (seats.map Seat.id).Nodup) :
    ((claimRows locked tripId quantity seats).map Seat.id).Nodup := by
  have hperm := (List.perm_insertionSort (fun a b : Seat => a.label.le b.label = true)
    (seats.filter fun s => claimable tripId s && !locked s.id)).map Seat.id
  have hsorted := hperm.nodup_iff.mpr (Table.nodup_map_filter h _)
  exact hsorted.sublist ((List.take_sublist _ _).map Seat.id)

theorem length_claimRows {locked : SeatId → Bool} {tripId : TripId} {quantity : ℕ}
    {seats : List Seat} :
    (claimRows locked tripId quantity seats).length =
      min quantity (seats.countP fun s => claimable tripId s && !locked s.id) := by
  rw [claimRows, List.length_take, List.length_insertionSort, List.countP_eq_length_filter]

/-- **`claimSeats` returns `quantity` seats or throws.**  On success the claimed rows
were free, unlocked rows of the trip, and they are all that changes. -/
theorem claimSeats_ok {locked : SeatId → Bool} {tripId : TripId} {quantity : ℕ}
    {userId : UserId} {heldUntil : Time} {seats seats' : List Seat} {ids : List SeatId}
    (h : claimSeats locked tripId quantity userId heldUntil seats = .ok (ids, seats')) :
    ids = (claimRows locked tripId quantity seats).map Seat.id ∧ ids.length = quantity ∧
      quantity ≤ seats.countP (fun s => claimable tripId s && !locked s.id) ∧
      seats' = markHeld ids userId heldUntil seats := by
  rw [claimSeats] at h
  split at h
  · exact absurd h (by simp)
  · next hlen =>
    rw [Except.ok.injEq, Prod.mk.injEq] at h
    obtain ⟨rfl, rfl⟩ := h
    rw [length_claimRows] at hlen
    refine ⟨rfl, ?_, by omega, rfl⟩
    rw [List.length_map, length_claimRows]
    omega

/-- `claimSeats` succeeds exactly when enough free, unlocked rows are there. -/
theorem claimSeats_isOk {locked : SeatId → Bool} {tripId : TripId} {quantity : ℕ}
    {userId : UserId} {heldUntil : Time} {seats : List Seat} :
    (∃ p, claimSeats locked tripId quantity userId heldUntil seats = .ok p) ↔
      quantity ≤ seats.countP (fun s => claimable tripId s && !locked s.id) := by
  constructor
  · rintro ⟨⟨ids, seats'⟩, h⟩
    exact (claimSeats_ok h).2.2.1
  · intro h
    have hlen : ¬ (claimRows locked tripId quantity seats).length < quantity := by
      rw [length_claimRows]
      omega
    exact ⟨_, by rw [claimSeats]; exact if_neg hlen⟩

/-- The ids that `lockRows` returns. -/
theorem mem_lockRows {tripId : TripId} {seatIds : List SeatId} {userId : UserId}
    {seats : List Seat} {x : SeatId} :
    x ∈ lockRows tripId seatIds userId seats ↔ ∃ s ∈ seats, s.id = x ∧ s.tripId = tripId ∧
      x ∈ seatIds ∧ (s.status = .available ∨ (s.status = .held ∧ s.heldBy = some userId)) := by
  simp only [lockRows, List.mem_map, List.mem_filter, bookable_iff]
  constructor
  · rintro ⟨s, ⟨hs, ht, hx, hst⟩, rfl⟩
    exact ⟨s, hs, rfl, ht, hx, hst⟩
  · rintro ⟨s, hs, rfl, ht, hx, hst⟩
    exact ⟨s, ⟨hs, ht, hx, hst⟩, rfl⟩

/-- When the locked rows are as many as the requested ids, they are those ids and
no id was requested twice. -/
theorem lockRows_perm {tripId : TripId} {seatIds : List SeatId} {userId : UserId}
    {seats : List Seat} (hseats : (seats.map Seat.id).Nodup)
    (hlen : seatIds.length ≤ (lockRows tripId seatIds userId seats).length) :
    (lockRows tripId seatIds userId seats).Perm seatIds := by
  refine Table.perm_of_length_le (Table.nodup_map_filter hseats _) ?_ hlen
  intro x hx
  obtain ⟨s, -, -, -, hx, -⟩ := mem_lockRows.mp hx
  exact hx

/-- **`lockAndMarkBooked` books what was asked for or throws.**  On success the ids
are distinct, not empty, and each is a seat of the trip that was free or held by
the user. -/
theorem lockAndMarkBooked_ok {tripId : TripId} {seatIds : List SeatId} {userId : UserId}
    {seats seats' : List Seat} (hseats : (seats.map Seat.id).Nodup)
    (h : lockAndMarkBooked tripId seatIds userId seats = .ok seats') :
    seatIds ≠ [] ∧ seatIds.Nodup ∧ seats' = markBooked seatIds seats ∧
      ∀ x ∈ seatIds, ∃ s ∈ seats, s.id = x ∧ s.tripId = tripId ∧
        (s.status = .available ∨ (s.status = .held ∧ s.heldBy = some userId)) := by
  rw [lockAndMarkBooked] at h
  split at h
  · exact absurd h (by simp)
  · next hne =>
    split at h
    · exact absurd h (by simp)
    · next hlen =>
      rw [Except.ok.injEq] at h
      have hperm := lockRows_perm hseats (Nat.le_of_not_lt hlen)
      refine ⟨by simpa using hne, hperm.nodup_iff.mp (Table.nodup_map_filter hseats _), h.symm, ?_⟩
      intro x hx
      obtain ⟨s, hs, hid, ht, -, hst⟩ := mem_lockRows.mp (hperm.mem_iff.mpr hx)
      exact ⟨s, hs, hid, ht, hst⟩

end Inventory
end TransHub
