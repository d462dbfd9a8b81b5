import TransHub.Foundation.Scope
import TransHub.Foundation.Table

/-!
# The rows of one owner

A table whose rows name an owner, seen from one of the owners: a scope.

* `agree_append`, `agree_updateMany`, `agree_deleteMany`: statements that touch no row of the
  owner leave the scope as it is.
* `map_filter_updateMany`: an update that writes other columns only leaves the rest of the
  scope as it is.
-/

namespace TransHub
namespace Scope

universe u v

variable {ρ : Type u} {κ : Type v} {own p : ρ → Bool} {f : ρ → ρ} {t : List ρ}

theorem Agree.refl (own : ρ → Bool) (t : List ρ) : Agree own t t := rfl

/-- A new row of somebody else. -/
theorem agree_append {r : ρ} (hr : own r = false) : Agree own (t ++ [r]) t := by
  rw [Agree, List.filter_append, List.filter_singleton, hr]
  exact List.append_nil _

/-- The rows of an owner after an update that leaves owners alone. -/
theorem filter_updateMany (hf : ∀ r, own (f r) = own r) (t : List ρ) :
    (Table.updateMany p f t).filter own = Table.updateMany p f (t.filter own) := by
  rw [Table.updateMany, Table.updateMany, List.filter_map]
  congr 1
  refine List.filter_congr ?_
  intro r _
  show own (if p r = true then f r else r) = own r
  split
  · exact hf r
  · rfl

/-- An update of rows of somebody else. -/
theorem agree_updateMany (hf : ∀ r, own (f r) = own r)
    (hp : ∀ r ∈ t, own r = true → p r = false) : Agree own (Table.updateMany p f t) t := by
  rw [Agree, filter_updateMany hf, Table.updateMany]
  refine List.map_congr_left (g := id) ?_ |>.trans (List.map_id _)
  intro r hr
  obtain ⟨hmem, hown⟩ := List.mem_filter.mp hr
  rw [hp r hmem hown]
  rfl

/-- A deletion of rows of somebody else. -/
theorem agree_deleteMany (hp : ∀ r ∈ t, own r = true → p r = false) :
    Agree own (Table.deleteMany p t) t := by
  rw [Agree, Table.deleteMany, List.filter_filter]
  refine List.filter_congr ?_
  intro r hr
  by_cases hown : own r = true
  · rw [hp r hr hown, hown]
    rfl
  · rw [Bool.eq_false_iff.mpr hown]
    rfl

/-- What an update leaves alone, in the rows of an owner. -/
theorem map_filter_updateMany {k : ρ → κ} (hf : ∀ r, own (f r) = own r)
    (hk : ∀ r ∈ t, own r = true → p r = true → k (f r) = k r) :
    ((Table.updateMany p f t).filter own).map k = (t.filter own).map k := by
  rw [filter_updateMany hf]
  refine Table.map_updateMany ?_
  intro r hr hpr
  obtain ⟨hmem, hown⟩ := List.mem_filter.mp hr
  exact hk r hmem hown hpr

end Scope
end TransHub
