import Mathlib.Data.List.Basic
import Mathlib.Tactic.Common

/-!
# Scopes of a list

A scope is a test on the entries of a list, and two lists agree on it when the
entries inside are the same ones in the same order.  What a query computes from those
entries alone it computes from both lists alike.

* `Agree.filter`: a query that selects inside the scope.
* `Agree.mono`, `Agree.append`, `Agree.filterMap`: narrower scopes, concatenations, and the
  scope of a derived list.
-/

namespace TransHub
namespace Scope

universe u v

variable {ρ : Type u} {τ : Type v} {own : ρ → Bool} {l l' : List ρ}

/-- The entries inside `own` are the same ones in the same order. -/
def Agree (own : ρ → Bool) (l l' : List ρ) : Prop := l.filter own = l'.filter own

instance [DecidableEq ρ] (own : ρ → Bool) (l l' : List ρ) : Decidable (Agree own l l') :=
  inferInstanceAs (Decidable (l.filter own = l'.filter own))

/-- The empty scope tells no two lists apart. -/
theorem Agree.empty : Agree (fun _ : ρ => false) l l' := by
  rw [Agree, List.filter_false, List.filter_false]

/-- A narrower selection, out of the wider one. -/
theorem filter_of_imp {p : ρ → Bool} (hp : ∀ a, p a = true → own a = true) (l : List ρ) :
    l.filter p = (l.filter own).filter p := by
  rw [List.filter_filter]
  refine List.filter_congr ?_
  intro a _
  cases hpa : p a with
  | false => rfl
  | true => rw [hp a hpa]; rfl

/-- **A query inside the scope.**  It selects the same entries from both lists. -/
theorem Agree.filter {p : ρ → Bool} (h : Agree own l l') (hp : ∀ a, p a = true → own a = true) :
    l.filter p = l'.filter p := by
  have hl : l.filter own = l'.filter own := h
  rw [filter_of_imp hp l, filter_of_imp hp l', hl]

/-- Agreement on a scope is agreement on every narrower one. -/
theorem Agree.mono {own' : ρ → Bool} (h : Agree own l l')
    (hsub : ∀ a, own' a = true → own a = true) : Agree own' l l' :=
  h.filter hsub

theorem Agree.append {m m' : List ρ} (h : Agree own l l') (hm : Agree own m m') :
    Agree own (l ++ m) (l' ++ m') := by
  have hl : l.filter own = l'.filter own := h
  have hr : m.filter own = m'.filter own := hm
  rw [Agree, List.filter_append, List.filter_append, hl, hr]

/-- **The scope of a derived list.**  When what lies in the scope `q` is derived from
entries in the scope `own`, agreement on `own` is passed on. -/
theorem Agree.filterMap {f : ρ → Option τ} {q : τ → Bool} (h : Agree own l l')
    (hf : ∀ a b, f a = some b → q b = true → own a = true) :
    Agree q (l.filterMap f) (l'.filterMap f) := by
  have hderive : ∀ m : List ρ, (m.filterMap f).filter q =
      ((m.filter own).filterMap f).filter q := by
    intro m
    induction m with
    | nil => rfl
    | cons a m ih =>
      cases hfa : f a with
      | none =>
        rw [List.filterMap_cons_none hfa, ih, List.filter_cons]
        split
        · rw [List.filterMap_cons_none hfa]
        · rfl
      | some b =>
        rw [List.filterMap_cons_some hfa, List.filter_cons, ih]
        by_cases hq : q b = true
        · have hown : own a = true := hf a b hfa hq
          rw [if_pos hq, List.filter_cons_of_pos hown, List.filterMap_cons_some hfa,
            List.filter_cons_of_pos hq]
        · rw [if_neg hq, List.filter_cons]
          split
          · rw [List.filterMap_cons_some hfa, List.filter_cons_of_neg hq]
          · rfl
  have hl : l.filter own = l'.filter own := h
  rw [Agree, hderive l, hderive l', hl]

end Scope
end TransHub
