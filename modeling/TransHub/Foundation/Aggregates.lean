import Mathlib.Algebra.BigOperators.Group.List.Basic
import Mathlib.Data.List.Dedup
import Mathlib.Data.List.Sort
import Mathlib.Tactic.Abel

/-!
# Sums of groups and of windows

* `groupSums`: the sums of the rows with one key, in the order of the keys; `mem_groupSums`
  and `groupSums_sorted` say what they are.
* `sumBetween`: the sum of the rows in a window that is open at its end.  Adjacent windows add
  up, and `sumBetween_eq_iff` compares a window with an earlier one by what lies in only one
  of them.
-/

namespace TransHub

universe u v w

variable {ρ : Type u} {κ : Type v} {M : Type w} [LinearOrder κ]

/-! ## Groups -/

section Groups

variable [AddCommMonoid M] {key : ρ → κ} {value : ρ → M} {rows : List ρ}

/-- `SELECT key, SUM(value) … GROUP BY key ORDER BY key ASC`. -/
def groupSums (key : ρ → κ) (value : ρ → M) (rows : List ρ) : List (κ × M) :=
  ((rows.map key).dedup.insertionSort (· ≤ ·)).map fun k =>
    (k, ((rows.filter fun r => key r = k).map value).sum)

theorem mem_groupSums {g : κ × M} : g ∈ groupSums key value rows ↔
    (∃ r ∈ rows, key r = g.1) ∧ g.2 = ((rows.filter fun r => key r = g.1).map value).sum := by
  rw [groupSums, List.mem_map]
  constructor
  · rintro ⟨k, hk, rfl⟩
    rw [List.mem_insertionSort, List.mem_dedup, List.mem_map] at hk
    exact ⟨hk, rfl⟩
  · rintro ⟨hkey, hsum⟩
    refine ⟨g.1, ?_, Prod.ext rfl hsum.symm⟩
    rw [List.mem_insertionSort, List.mem_dedup, List.mem_map]
    exact hkey

/-- One row for each key, in order. -/
theorem groupSums_sorted : ((groupSums key value rows).map Prod.fst).Pairwise (· < ·) := by
  rw [groupSums, List.map_map]
  have hid : (Prod.fst ∘ fun k : κ => (k, ((rows.filter fun r => key r = k).map value).sum)) = id :=
    rfl
  rw [hid, List.map_id]
  have hsorted := List.pairwise_insertionSort (· ≤ ·) (rows.map key).dedup
  have hnodup : ((rows.map key).dedup.insertionSort (· ≤ ·)).Nodup :=
    (List.perm_insertionSort _ _).nodup_iff.mpr (List.nodup_dedup _)
  exact (hsorted.and hnodup).imp fun ⟨hle, hne⟩ => lt_of_le_of_ne hle hne

end Groups

/-! ## Windows -/

section Windows

variable [AddCommMonoid M] (instant : ρ → κ) (value : ρ → M)

/-- The sum of the rows from `a` on and before `b`. -/
def sumBetween (rows : List ρ) (a b : κ) : M :=
  ((rows.filter fun r => a ≤ instant r ∧ instant r < b).map value).sum

theorem sumBetween_cons (r : ρ) (rows : List ρ) (a b : κ) :
    sumBetween instant value (r :: rows) a b =
      (if a ≤ instant r ∧ instant r < b then value r else 0) +
        sumBetween instant value rows a b := by
  rw [sumBetween, sumBetween, List.filter_cons]
  by_cases h : a ≤ instant r ∧ instant r < b
  · rw [if_pos (by simpa using h), if_pos h, List.map_cons, List.sum_cons]
  · rw [if_neg (by simpa using h), if_neg h, zero_add]

/-- Adjacent windows add up. -/
theorem sumBetween_add (rows : List ρ) {a b c : κ} (hab : a ≤ b) (hbc : b ≤ c) :
    sumBetween instant value rows a b + sumBetween instant value rows b c =
      sumBetween instant value rows a c := by
  induction rows with
  | nil => exact zero_add 0
  | cons r rows ih =>
    rw [sumBetween_cons, sumBetween_cons, sumBetween_cons, ← ih]
    by_cases hb : instant r < b
    · have hac : (a ≤ instant r ∧ instant r < c) ↔ (a ≤ instant r ∧ instant r < b) :=
        and_congr_right fun _ => iff_of_true (hb.trans_le hbc) hb
      rw [if_neg (fun h : b ≤ instant r ∧ _ => absurd hb h.1.not_gt), if_congr hac rfl rfl]
      abel
    · have hle : b ≤ instant r := not_lt.mp hb
      have hac : (a ≤ instant r ∧ instant r < c) ↔ (b ≤ instant r ∧ instant r < c) :=
        and_congr_left fun _ => iff_of_true (hab.trans hle) hle
      rw [if_neg (fun h : _ ∧ instant r < b => hb h.2), if_congr hac rfl rfl]
      abel

end Windows

/-- **A window and an earlier one.**  Their sums agree when what lies in the later one alone
sums to as much as what lies in the earlier one alone. -/
theorem sumBetween_eq_iff [AddCancelCommMonoid M] (instant : ρ → κ) (value : ρ → M)
    (rows : List ρ) {a b c d : κ} (hca : c ≤ a) (hdb : d ≤ b) :
    sumBetween instant value rows a b = sumBetween instant value rows c d ↔
      sumBetween instant value rows (max a d) b = sumBetween instant value rows c (min a d) := by
  rcases le_total a d with had | hda
  · rw [max_eq_right had, min_eq_left had, ← sumBetween_add instant value rows had hdb,
      ← sumBetween_add instant value rows hca had, add_comm, add_left_inj]
  · rw [max_eq_left hda, min_eq_right hda]

end TransHub
