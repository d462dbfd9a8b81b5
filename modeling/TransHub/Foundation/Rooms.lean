import Mathlib.Data.List.Dedup

/-!
# Rooms

Members join and leave rooms; what is sent to a room goes to those who are in it.

* `Rooms`: something that keeps who is in which room, with the laws of entering and leaving.
* `broadcast`, `inbox`: what is sent to a room reaches each of its members once, and nobody
  else (`inbox_broadcast`).
* `Rooms.ofLists`: such a thing, made of lists.
-/

namespace TransHub

universe u

/-- What keeps who is in which room: members `join` and `leave` a room, or `drop` out of all. -/
structure Rooms (κ ρ : Type u) where
  State : Type u
  empty : State
  join : State → κ → ρ → State
  leave : State → κ → ρ → State
  drop : State → κ → State
  recipients : State → ρ → List κ
  nodup_recipients : ∀ s r, (recipients s r).Nodup
  mem_empty : ∀ k r, k ∉ recipients empty r
  mem_join : ∀ s k k' r r',
    k ∈ recipients (join s k' r') r ↔ k = k' ∧ r = r' ∨ k ∈ recipients s r
  mem_leave : ∀ s k k' r r',
    k ∈ recipients (leave s k' r') r ↔ k ∈ recipients s r ∧ ¬ (k = k' ∧ r = r')
  mem_drop : ∀ s k k' r, k ∈ recipients (drop s k') r ↔ k ∈ recipients s r ∧ k ≠ k'

namespace Rooms

variable {κ ρ μ : Type u} {R : Rooms κ ρ} {s : R.State} {k k' : κ} {r r' : ρ}

/-! ## Who is in a room -/

/-- The member `k` is in the room `r`. -/
def In (R : Rooms κ ρ) (s : R.State) (k : κ) (r : ρ) : Prop := k ∈ R.recipients s r

@[simp] theorem not_in_empty : ¬ R.In R.empty k r := R.mem_empty k r

@[simp] theorem in_join : R.In (R.join s k' r') k r ↔ k = k' ∧ r = r' ∨ R.In s k r :=
  R.mem_join s k k' r r'

@[simp] theorem in_leave : R.In (R.leave s k' r') k r ↔ R.In s k r ∧ ¬ (k = k' ∧ r = r') :=
  R.mem_leave s k k' r r'

@[simp] theorem in_drop : R.In (R.drop s k') k r ↔ R.In s k r ∧ k ≠ k' := R.mem_drop s k k' r

/-! ## What is sent to a room -/

/-- The deliveries of a message to a room. -/
def broadcast (R : Rooms κ ρ) (s : R.State) (r : ρ) (m : μ) : List (κ × μ) :=
  (R.recipients s r).map (·, m)

variable [DecidableEq κ]

instance (R : Rooms κ ρ) (s : R.State) (k : κ) (r : ρ) : Decidable (R.In s k r) :=
  inferInstanceAs (Decidable (k ∈ R.recipients s r))

/-- What a member has received, of a log of deliveries. -/
def inbox (k : κ) (log : List (κ × μ)) : List μ :=
  (log.filter (·.1 = k)).map Prod.snd

@[simp] theorem inbox_append (l₁ l₂ : List (κ × μ)) :
    inbox k (l₁ ++ l₂) = inbox k l₁ ++ inbox k l₂ := by
  rw [inbox, List.filter_append, List.map_append, inbox, inbox]

/-- **A broadcast reaches the members of the room, once each.** -/
@[simp] theorem inbox_broadcast (m : μ) :
    inbox k (R.broadcast s r m) = if R.In s k r then [m] else [] := by
  have hmap : inbox k (R.broadcast s r m) = ((R.recipients s r).filter (· = k)).map fun _ => m := by
    rw [inbox, broadcast, List.filter_map, List.map_map]
    rfl
  have hcount : ((R.recipients s r).filter (· = k)).length = (R.recipients s r).count k := by
    rw [List.count, List.countP_eq_length_filter]
    rfl
  by_cases h : R.In s k r
  · rw [if_pos h, hmap, List.map_const', hcount,
      List.count_eq_one_of_mem (R.nodup_recipients s r) h]
    rfl
  · rw [if_neg h, hmap, List.map_const', hcount, List.count_eq_zero_of_not_mem h]
    rfl

/-! ## Rooms made of lists -/

section Lists

variable [DecidableEq ρ]

/-- Who is in a room of a list of memberships. -/
def listed (s : List (κ × ρ)) (r : ρ) : List κ := ((s.filter (·.2 = r)).map Prod.fst).dedup

theorem mem_listed {s : List (κ × ρ)} : k ∈ listed s r ↔ (k, r) ∈ s := by
  simp only [listed, List.mem_dedup, List.mem_map, List.mem_filter, decide_eq_true_eq, Prod.exists]
  constructor
  · rintro ⟨_, _, ⟨h, rfl⟩, rfl⟩
    exact h
  · exact fun h => ⟨k, r, ⟨h, rfl⟩, rfl⟩

/-- Rooms that are kept as a list of memberships. -/
def ofLists : Rooms κ ρ where
  State := List (κ × ρ)
  empty := []
  join s k r := (k, r) :: s
  leave s k r := s.filter (· ≠ (k, r))
  drop s k := s.filter (·.1 ≠ k)
  recipients := listed
  nodup_recipients s r := List.nodup_dedup _
  mem_empty k r h := absurd (mem_listed.mp h) List.not_mem_nil
  mem_join s k k' r r' := by rw [mem_listed, List.mem_cons, Prod.mk.injEq, mem_listed]
  mem_leave s k k' r r' := by
    simp only [mem_listed, List.mem_filter, decide_eq_true_eq, ne_eq, Prod.mk.injEq]
  mem_drop s k k' r := by simp only [mem_listed, List.mem_filter, decide_eq_true_eq, ne_eq]

end Lists

end Rooms

end TransHub
