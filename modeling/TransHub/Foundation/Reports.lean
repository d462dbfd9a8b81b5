import Mathlib

/-!
# Reports over tables

* `join`: an inner join; `map_fst_join` says when it is the left table.
* `groups`: `GROUP BY`; `flatMap_groups_perm`, `sum_groups`, `length_groups`: the groups are
  together what was grouped.  `parts_perm` is the same for a given list of keys.
* `Ranked`: `ORDER BY … DESC LIMIT n`, with any order of equal rows; `Ranked.exists_rest` and
  `Ranked.sum_le` say that it takes the rows that come to most.
-/

namespace TransHub
namespace Reports

universe u v w

variable {ρ : Type u} {τ : Type v} {κ : Type w}

/-! ## Joins -/

/-- `FROM l JOIN m ON p`. -/
def join (p : ρ → τ → Bool) (l : List ρ) (m : List τ) : List (ρ × τ) :=
  l.flatMap fun a => (m.filter (p a)).map fun b => (a, b)

/-- A key selects one row. -/
theorem filter_key [DecidableEq κ] {key : τ → κ} {m : List τ} (hm : (m.map key).Nodup) {b : τ}
    (hb : b ∈ m) : m.filter (fun c => key c = key b) = [b] := by
  induction m with
  | nil => exact absurd hb List.not_mem_nil
  | cons c m ih =>
    rw [List.map_cons, List.nodup_cons] at hm
    rcases List.mem_cons.mp hb with rfl | hb
    · rw [List.filter_cons_of_pos (by simp), List.filter_eq_nil_iff.mpr]
      intro d hd hkey
      exact hm.1 (List.mem_map.mpr ⟨d, hd, of_decide_eq_true hkey⟩)
    · rw [List.filter_cons_of_neg, ih hm.2 hb]
      intro hkey
      exact hm.1 (List.mem_map.mpr ⟨b, hb, (of_decide_eq_true hkey).symm⟩)

/-- **A join along a foreign key.**  Each row has one partner. -/
theorem map_fst_join {p : ρ → τ → Bool} {l : List ρ} {m : List τ}
    (h : ∀ a ∈ l, ∃ b, m.filter (p a) = [b]) : (join p l m).map Prod.fst = l := by
  induction l with
  | nil => rfl
  | cons a l ih =>
    obtain ⟨b, hb⟩ := h a List.mem_cons_self
    have htail := ih fun c hc => h c (List.mem_cons_of_mem a hc)
    rw [join, List.flatMap_cons, hb, List.map_append, show (l.flatMap _) = join p l m from rfl,
      htail]
    rfl

theorem mem_join {p : ρ → τ → Bool} {l : List ρ} {m : List τ} {a : ρ} {b : τ} :
    (a, b) ∈ join p l m ↔ a ∈ l ∧ b ∈ m ∧ p a b = true := by
  simp [join, List.mem_flatMap]

/-! ## Groups -/

section Groups

variable [DecidableEq κ] {key : ρ → κ} {rows : List ρ}

/-- **The parts by a list of keys.**  They are together the rows whose keys are listed. -/
theorem parts_perm {keys : List κ} (hkeys : keys.Nodup) (hrows : ∀ r ∈ rows, key r ∈ keys) :
    (keys.flatMap fun k => rows.filter fun r => key r = k).Perm rows := by
  induction keys generalizing rows with
  | nil =>
    have hnil : rows = [] :=
      List.eq_nil_iff_forall_not_mem.mpr fun r hr => List.not_mem_nil (hrows r hr)
    rw [hnil]
    rfl
  | cons k keys ih =>
    obtain ⟨hk, hkeys⟩ := List.nodup_cons.mp hkeys
    have hrest := @ih (rows.filter fun r => key r ≠ k) hkeys ?_
    · have hparts : (keys.flatMap fun j => rows.filter fun r => key r = j) =
          keys.flatMap fun j => (rows.filter fun r => key r ≠ k).filter fun r => key r = j := by
        refine List.flatMap_congr fun j hj => ?_
        rw [List.filter_filter]
        refine List.filter_congr fun r _ => ?_
        have hne : key r = j → key r ≠ k := by
          rintro rfl rfl
          exact hk hj
        by_cases h : key r = j <;> simp [h]
        exact h ▸ hne h
      rw [List.flatMap_cons, hparts]
      refine (hrest.append_left _).trans ?_
      have hsplit := List.filter_append_perm (fun r => decide (key r = k)) rows
      simpa using hsplit
    · intro r hr
      obtain ⟨hmem, hne⟩ := List.mem_filter.mp hr
      rcases List.mem_cons.mp (hrows r hmem) with h | h
      · exact absurd h (of_decide_eq_true hne)
      · exact h

/-- `GROUP BY key`: each key that occurs, with its rows. -/
def groups (key : ρ → κ) (rows : List ρ) : List (κ × List ρ) :=
  (rows.map key).dedup.map fun k => (k, rows.filter fun r => key r = k)

/-- **The groups are together what was grouped.** -/
theorem flatMap_groups_perm (key : ρ → κ) (rows : List ρ) :
    ((groups key rows).flatMap Prod.snd).Perm rows := by
  rw [groups, List.flatMap_map]
  refine parts_perm (List.nodup_dedup _) fun r hr => ?_
  exact List.mem_dedup.mpr (List.mem_map_of_mem hr)

theorem sum_map_flatMap {M : Type*} [AddCommMonoid M] (f : τ → List ρ) (value : ρ → M)
    (l : List τ) : ((l.flatMap f).map value).sum = (l.map fun a => ((f a).map value).sum).sum := by
  rw [List.map_flatMap, List.flatMap_def, List.sum_flatten, List.map_map]
  rfl

/-- So are their sums. -/
theorem sum_groups {M : Type*} [AddCommMonoid M] (key : ρ → κ) (value : ρ → M) (rows : List ρ) :
    ((groups key rows).map fun g => (g.2.map value).sum).sum = (rows.map value).sum := by
  rw [← ((flatMap_groups_perm key rows).map value).sum_eq, sum_map_flatMap]

theorem length_groups (key : ρ → κ) (rows : List ρ) :
    ((groups key rows).map fun g => g.2.length).sum = rows.length := by
  rw [← (flatMap_groups_perm key rows).length_eq, List.length_flatMap]

theorem sum_parts {M : Type*} [AddCommMonoid M] {keys : List κ} (hkeys : keys.Nodup)
    (hrows : ∀ r ∈ rows, key r ∈ keys) (value : ρ → M) :
    (keys.map fun k => ((rows.filter fun r => key r = k).map value).sum).sum =
      (rows.map value).sum := by
  rw [← ((parts_perm hkeys hrows).map value).sum_eq, sum_map_flatMap]

theorem length_parts {keys : List κ} (hkeys : keys.Nodup) (hrows : ∀ r ∈ rows, key r ∈ keys) :
    (keys.map fun k => (rows.filter fun r => key r = k).length).sum = rows.length := by
  rw [← (parts_perm hkeys hrows).length_eq, List.length_flatMap]

end Groups

/-! ## Rankings -/

section Rankings

variable {M : Type w} [PartialOrder M] {value : ρ → M} {limit : ℕ} {rows answer : List ρ}

/-- `ORDER BY value DESC LIMIT limit`: rows of one value may come in any order. -/
def Ranked (value : ρ → M) (limit : ℕ) (rows answer : List ρ) : Prop :=
  ∃ sorted : List ρ, sorted.Perm rows ∧ sorted.Pairwise (fun a b => value b ≤ value a) ∧
    answer = sorted.take limit

/-- What an answer leaves out comes to no more, row by row. -/
theorem Ranked.exists_rest (h : Ranked value limit rows answer) :
    ∃ rest, (answer ++ rest).Perm rows ∧ (rest = [] ↔ rows.length ≤ limit) ∧
      ∀ a ∈ answer, ∀ b ∈ rest, value b ≤ value a := by
  obtain ⟨sorted, hperm, hsorted, rfl⟩ := h
  refine ⟨sorted.drop limit, ?_, ?_, ?_⟩
  · rw [List.take_append_drop]
    exact hperm
  · rw [List.drop_eq_nil_iff, hperm.length_eq]
  · rw [← List.take_append_drop limit sorted, List.pairwise_append] at hsorted
    exact hsorted.2.2

variable [AddCommMonoid M] [IsOrderedAddMonoid M]

/-- The first rows of a descending list come to most. -/
theorem sum_sublist_le {l chosen : List ρ} (hl : l.Pairwise fun a b => value b ≤ value a)
    (h : chosen.Sublist l) :
    (chosen.map value).sum ≤ ((l.take chosen.length).map value).sum := by
  induction h with
  | slnil => exact le_refl _
  | @cons chosen l a h ih =>
    obtain ⟨ha, hl⟩ := List.pairwise_cons.mp hl
    refine (ih hl).trans ?_
    -- Each of the first rows is no more than the one that `a` shifts into its place.
    cases hn : chosen.length with
    | zero => simp
    | succ n =>
      have hlt : n < l.length := by
        have := h.length_le
        omega
      rw [List.take_succ_eq_append_getElem hlt, List.map_append, List.sum_append,
        List.take_succ_cons, List.map_cons, List.sum_cons, add_comm]
      refine add_le_add_left ?_ _
      simpa using ha _ (List.getElem_mem hlt)
  | @cons_cons chosen l a h ih =>
    obtain ⟨-, hl⟩ := List.pairwise_cons.mp hl
    rw [List.map_cons, List.sum_cons, List.length_cons, List.take_succ_cons, List.map_cons,
      List.sum_cons]
    exact add_le_add_right (ih hl) _

/-- **No other rows come to more.** -/
theorem Ranked.sum_le (h : Ranked value limit rows answer) {chosen : List ρ}
    (hchosen : chosen.Subperm rows) (hlength : chosen.length = answer.length) :
    (chosen.map value).sum ≤ (answer.map value).sum := by
  obtain ⟨sorted, hperm, hsorted, rfl⟩ := h
  obtain ⟨l, hl, hsub⟩ := hchosen.trans hperm.symm.subperm
  have hle := sum_sublist_le hsorted hsub
  have htake : sorted.take l.length = sorted.take limit := by
    rw [hl.length_eq, hlength, List.length_take]
    rcases le_total limit sorted.length with hlim | hlim
    · rw [min_eq_left hlim]
    · rw [min_eq_right hlim, List.take_length, List.take_of_length_le hlim]
  rw [htake] at hle
  rwa [(hl.map value).sum_eq] at hle

end Rankings

end Reports
end TransHub
