import Mathlib.Logic.Relation
import Mathlib.Data.Set.Basic

/-!
# Allocation of exclusive resources

What a reservation desk is for, over arbitrary resources `R`, holders `H` and
buyers `B`: every resource on offer is free, held for one holder, or sold to one
buyer; a hold can be given up, a sale cannot.

* `Pool`: the slot of every resource, `none` for a resource that is not on offer.
* `Pool.Step`: a desk may put free resources on offer, hold free ones, give up
  holds, sell free or held ones to one buyer, and withdraw resources that are not
  sold.
* `sold_forever`: along any sequence of such steps a sold resource stays sold to
  the same buyer.
-/

namespace TransHub
namespace Allocation

universe u v w

/-- The state of one resource on offer. -/
inductive Slot (H : Type v) (B : Type w) where
  | free
  | held (h : H)
  | sold (b : B)

variable {R : Type u} {H : Type v} {B : Type w}

/-- The slot of every resource; `none` when it is not on offer. -/
abbrev Pool (R : Type u) (H : Type v) (B : Type w) := R → Option (Slot H B)

open Classical in
/-- Give all resources of `S` the same slot. -/
noncomputable def Pool.assign (p : Pool R H B) (S : Set R) (x : Option (Slot H B)) :
    Pool R H B :=
  fun r => if r ∈ S then x else p r

theorem Pool.assign_of_mem {p : Pool R H B} {S : Set R} {x : Option (Slot H B)} {r : R}
    (h : r ∈ S) : p.assign S x r = x := if_pos h

theorem Pool.assign_of_notMem {p : Pool R H B} {S : Set R} {x : Option (Slot H B)} {r : R}
    (h : r ∉ S) : p.assign S x r = p r := if_neg h

/-- A pool that agrees with `p` off `S` and is constant on `S` is an assignment. -/
theorem Pool.eq_assign {p q : Pool R H B} {S : Set R} {x : Option (Slot H B)}
    (hin : ∀ r ∈ S, q r = x) (hout : ∀ r ∉ S, q r = p r) : q = p.assign S x := by
  funext r
  by_cases hr : r ∈ S
  · rw [assign_of_mem hr, hin r hr]
  · rw [assign_of_notMem hr, hout r hr]

/-- The moves of a reservation desk. -/
inductive Pool.Step : Pool R H B → Pool R H B → Prop where
  | offer (p : Pool R H B) (S : Set R) (h : ∀ r ∈ S, p r = none) :
      Step p (p.assign S (some .free))
  | hold (p : Pool R H B) (S : Set R) (x : H) (h : ∀ r ∈ S, p r = some .free) :
      Step p (p.assign S (some (.held x)))
  | release (p : Pool R H B) (S : Set R) (h : ∀ r ∈ S, ∃ x, p r = some (.held x)) :
      Step p (p.assign S (some .free))
  | sell (p : Pool R H B) (S : Set R) (b : B)
      (h : ∀ r ∈ S, p r = some .free ∨ ∃ x, p r = some (.held x)) :
      Step p (p.assign S (some (.sold b)))
  | withdraw (p : Pool R H B) (S : Set R) (h : ∀ r ∈ S, ∀ b, p r ≠ some (.sold b)) :
      Step p (p.assign S none)

/-- No move touches a sold resource. -/
theorem Pool.Step.sold {p q : Pool R H B} (h : Pool.Step p q) {r : R} {b : B}
    (hr : p r = some (.sold b)) : q r = some (.sold b) := by
  cases h with
  | offer S h =>
    have hS : r ∉ S := fun hS => by rw [h r hS] at hr; exact absurd hr (by simp)
    rwa [Pool.assign_of_notMem hS]
  | hold S x h =>
    have hS : r ∉ S := fun hS => by rw [h r hS] at hr; exact absurd hr (by simp)
    rwa [Pool.assign_of_notMem hS]
  | release S h =>
    have hS : r ∉ S := by
      intro hS
      obtain ⟨x, hx⟩ := h r hS
      rw [hx] at hr
      exact absurd hr (by simp)
    rwa [Pool.assign_of_notMem hS]
  | sell S b' h =>
    have hS : r ∉ S := by
      intro hS
      rcases h r hS with hx | ⟨x, hx⟩ <;> rw [hx] at hr <;> exact absurd hr (by simp)
    rwa [Pool.assign_of_notMem hS]
  | withdraw S h =>
    have hS : r ∉ S := fun hS => h r hS b hr
    rwa [Pool.assign_of_notMem hS]

/-- Any number of moves. -/
abbrev Pool.Steps : Pool R H B → Pool R H B → Prop := Relation.ReflTransGen Pool.Step

/-- **A sale is final.** -/
theorem Pool.Steps.sold_forever {p q : Pool R H B} (h : Pool.Steps p q) {r : R} {b : B}
    (hr : p r = some (.sold b)) : q r = some (.sold b) := by
  induction h with
  | refl => exact hr
  | tail _ hs ih => exact hs.sold ih

end Allocation
end TransHub
