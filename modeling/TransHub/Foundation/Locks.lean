import Mathlib.Tactic.Common

/-!
# Row locks

A table of exclusive locks: each key is free or locked by one owner.

* `acquire`, `release`: an owner locks keys, and gives up all that it has.
* `openTo`: the keys that an owner can lock without waiting.
-/

namespace TransHub

universe u v

/-- Who has locked each key. -/
def Locks (κ : Type u) (ι : Type v) := κ → Option ι

namespace Locks

variable {κ : Type u} {ι : Type v}

def empty : Locks κ ι := fun _ => none

/-- `i` locks `keys`. -/
def acquire [DecidableEq κ] (i : ι) (keys : List κ) (locks : Locks κ ι) : Locks κ ι :=
  fun s => if s ∈ keys then some i else locks s

/-- `i` gives up its locks. -/
def release [DecidableEq ι] (i : ι) (locks : Locks κ ι) : Locks κ ι :=
  fun s => if locks s = some i then none else locks s

/-- No other owner has locked the key. -/
def openTo [DecidableEq ι] (i : ι) (locks : Locks κ ι) (s : κ) : Bool :=
  (locks s).all fun k => k = i

variable {locks : Locks κ ι} {i k : ι} {s : κ}

theorem acquire_eq_some [DecidableEq κ] {keys : List κ} :
    acquire i keys locks s = some k ↔ (s ∈ keys ∧ k = i) ∨ (s ∉ keys ∧ locks s = some k) := by
  rw [acquire]
  by_cases hs : s ∈ keys
  · rw [if_pos hs, Option.some.injEq]
    constructor
    · exact fun h => Or.inl ⟨hs, h.symm⟩
    · rintro (⟨-, h⟩ | ⟨h, -⟩)
      · exact h.symm
      · exact absurd hs h
  · rw [if_neg hs]
    constructor
    · exact fun h => Or.inr ⟨hs, h⟩
    · rintro (⟨h, -⟩ | ⟨-, h⟩)
      · exact absurd h hs
      · exact h

theorem release_eq_some [DecidableEq ι] :
    release i locks s = some k ↔ locks s = some k ∧ k ≠ i := by
  rw [release]
  by_cases hs : locks s = some i
  · rw [if_pos hs, hs]
    constructor
    · exact fun h => absurd h (by simp)
    · rintro ⟨h, hne⟩
      exact absurd (Option.some.inj h).symm hne
  · rw [if_neg hs]
    constructor
    · intro h
      refine ⟨h, ?_⟩
      rintro rfl
      exact hs h
    · exact And.left

/-- A key that another owner has locked is not open. -/
theorem openTo_eq_false [DecidableEq ι] :
    openTo i locks s = false ↔ ∃ k, locks s = some k ∧ k ≠ i := by
  rw [openTo]
  cases locks s with
  | none => simp
  | some k => simp

/-- A lock of another owner stays where it is while `i` locks open keys. -/
theorem acquire_of_open [DecidableEq κ] [DecidableEq ι] {keys : List κ}
    (hopen : ∀ s ∈ keys, openTo i locks s = true) (h : locks s = some k) (hne : k ≠ i) :
    acquire i keys locks s = some k := by
  refine acquire_eq_some.mpr (Or.inr ⟨?_, h⟩)
  intro hs
  have hfalse : openTo i locks s = false := openTo_eq_false.mpr ⟨k, h, hne⟩
  rw [hopen s hs] at hfalse
  exact absurd hfalse (by simp)

/-- What `i` could lock before it may lock after it has locked open keys. -/
theorem openTo_acquire [DecidableEq κ] [DecidableEq ι] {keys : List κ}
    (hopen : ∀ s ∈ keys, openTo i locks s = true) (t : κ) :
    openTo i (acquire i keys locks) t = openTo i locks t := by
  by_cases ht : t ∈ keys
  · rw [hopen t ht]
    simp [openTo, acquire, ht]
  · simp [openTo, acquire, ht]

end Locks
end TransHub
