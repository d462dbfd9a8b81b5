import Mathlib.Data.List.Basic

/-!
# Where a secret comes from

Owners have a secret each, which is replaced now and then.  A log, newest write first,
records who wrote what and on which ground: a first secret, an earlier secret of the same
owner that was presented, or a grant.

* `Sound`: what was presented had been written before.
* `Derives`: a secret that goes back, presentation by presentation, to a first one or to a
  grant; `Sound.derives` says that every secret of the log does.
-/

namespace TransHub
namespace Provenance

variable {κ σ γ : Type}

/-- On which ground a secret is written. -/
inductive Ground (σ γ : Type) where
  | opened
  | presented (old : σ)
  | granted (g : γ)
  deriving DecidableEq, Repr

structure Write (κ σ γ : Type) where
  owner : κ
  secret : σ
  ground : Ground σ γ
  deriving DecidableEq, Repr

/-- The owner has had this secret. -/
def Had (k : κ) (s : σ) (log : List (Write κ σ γ)) : Prop := ∃ g, ⟨k, s, g⟩ ∈ log

/-- The newest secret of an owner. -/
def newest [DecidableEq κ] (k : κ) (log : List (Write κ σ γ)) : Option σ :=
  (log.find? fun w => w.owner = k).map Write.secret

/-- Whatever was presented, its owner had before. -/
def Sound (log : List (Write κ σ γ)) : Prop :=
  ∀ k s old earlier, (⟨k, s, .presented old⟩ :: earlier) <:+ log → Had k old earlier

/-- A secret that goes back to a first one or to a grant, each on the way having been written
by one who presented the one before. -/
inductive Derives (k : κ) (log : List (Write κ σ γ)) : σ → Prop where
  | opened {s : σ} (h : ⟨k, s, .opened⟩ ∈ log) : Derives k log s
  | granted {s : σ} {g : γ} (h : ⟨k, s, .granted g⟩ ∈ log) : Derives k log s
  | presented {old s : σ} (hold : Derives k log old) (h : ⟨k, s, .presented old⟩ ∈ log) :
      Derives k log s

variable {k : κ} {s : σ} {log : List (Write κ σ γ)} {w : Write κ σ γ}

theorem Had.mono {log' : List (Write κ σ γ)} (h : Had k s log) (hsub : log ⊆ log') :
    Had k s log' := by
  obtain ⟨g, hg⟩ := h
  exact ⟨g, hsub hg⟩

theorem Derives.cons (h : Derives k log s) (w : Write κ σ γ) : Derives k (w :: log) s := by
  induction h with
  | opened h => exact .opened (List.mem_cons_of_mem _ h)
  | granted h => exact .granted (List.mem_cons_of_mem _ h)
  | presented _ h ih => exact .presented ih (List.mem_cons_of_mem _ h)

theorem Sound.tail (h : Sound (w :: log)) : Sound log := fun k s old earlier hsuf =>
  h k s old earlier (hsuf.trans (List.suffix_cons _ _))

/-- A write keeps the log sound when what it presents, if anything, its owner has had. -/
theorem Sound.cons (h : Sound log)
    (hw : ∀ old, w.ground = .presented old → Had w.owner old log) : Sound (w :: log) := by
  intro k s old earlier hsuf
  rcases List.suffix_cons_iff.mp hsuf with heq | hsuf
  · obtain ⟨rfl, rfl⟩ := List.cons_eq_cons.mp heq
    exact hw old rfl
  · exact h k s old earlier hsuf

/-- First secrets alone are sound. -/
theorem Sound.of_opened (h : ∀ w ∈ log, w.ground = .opened) : Sound log := by
  intro k s old earlier hsuf
  have hmem := hsuf.subset List.mem_cons_self
  exact absurd (h _ hmem) (by simp)

/-- **Every secret goes back to a first one or to a grant.** -/
theorem Sound.derives (h : Sound log) (hs : Had k s log) : Derives k log s := by
  induction log generalizing s with
  | nil =>
    obtain ⟨g, hg⟩ := hs
    exact absurd hg List.not_mem_nil
  | cons w log ih =>
    obtain ⟨g, hg⟩ := hs
    rcases List.mem_cons.mp hg with rfl | hg
    · cases g with
      | opened => exact .opened List.mem_cons_self
      | granted g => exact .granted List.mem_cons_self
      | presented old =>
        have hold : Had k old log := h k s old log (List.suffix_refl _)
        exact .presented ((ih h.tail hold).cons _) List.mem_cons_self
    · exact (ih h.tail ⟨g, hg⟩).cons w

section Newest

variable [DecidableEq κ]

theorem newest_cons_self (k : κ) (s : σ) (g : Ground σ γ) (log : List (Write κ σ γ)) :
    newest k (⟨k, s, g⟩ :: log) = some s := by
  simp [newest]

theorem newest_cons_of_ne (h : w.owner ≠ k) : newest k (w :: log) = newest k log := by
  simp [newest, h]

/-- The newest secret of an owner is one it has had. -/
theorem had_of_newest (h : newest k log = some s) : Had k s log := by
  obtain ⟨w, hw, rfl⟩ := Option.map_eq_some_iff.mp h
  obtain rfl : w.owner = k := by simpa using List.find?_some hw
  exact ⟨w.ground, List.mem_of_find?_eq_some hw⟩

end Newest

end Provenance
end TransHub
