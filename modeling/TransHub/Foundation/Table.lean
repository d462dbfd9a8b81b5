import Mathlib.Data.List.Nodup
import Mathlib.Data.List.Pairwise
import Mathlib.Data.List.Perm.Subperm
import Mathlib.Data.List.Sort
import Mathlib.Tactic.Common

/-!
# Relational tables as lists of rows

The statements of a relational store over a list of rows, and what each of them
keeps.

* `updateMany`, `deleteMany`: the bulk statements, with a `where` predicate.
* `Unique clash`: no two rows clash, where `clash` is the disjunction of the
  table's unique constraints; `insert` and `insertMany` refuse a row that clashes
  with a stored one.
* `perm_of_length_le`: a duplicate-free selection from a list of wanted keys that
  is as long as the list is the whole list --- the count check behind a
  `SELECT … FOR UPDATE` of wanted rows.
* `filter_insertionSort`: a stable `ORDER BY` commutes with `WHERE`.
-/

namespace TransHub
namespace Table

universe u v

variable {ρ : Type u} {κ : Type v}

/-! ## Bulk statements -/

/-- `UPDATE … SET … WHERE p`. -/
def updateMany (p : ρ → Bool) (f : ρ → ρ) (t : List ρ) : List ρ :=
  t.map fun r => if p r then f r else r

/-- `DELETE … WHERE p`. -/
def deleteMany (p : ρ → Bool) (t : List ρ) : List ρ :=
  t.filter fun r => !p r

theorem mem_updateMany {p : ρ → Bool} {f : ρ → ρ} {t : List ρ} {r : ρ} :
    r ∈ updateMany p f t ↔ ∃ s ∈ t, (if p s then f s else s) = r := by
  rw [updateMany, List.mem_map]

theorem mem_updateMany_of_mem {p : ρ → Bool} {f : ρ → ρ} {t : List ρ} {s : ρ} (hs : s ∈ t) :
    (if p s then f s else s) ∈ updateMany p f t :=
  mem_updateMany.mpr ⟨s, hs, rfl⟩

/-- A row the `where` clause leaves alone is still there. -/
theorem mem_updateMany_of_not {p : ρ → Bool} {f : ρ → ρ} {t : List ρ} {s : ρ} (hs : s ∈ t)
    (hp : p s = false) : s ∈ updateMany p f t := by
  have h := mem_updateMany_of_mem (p := p) (f := f) hs
  rwa [hp] at h

theorem mem_deleteMany {p : ρ → Bool} {t : List ρ} {r : ρ} :
    r ∈ deleteMany p t ↔ r ∈ t ∧ p r = false := by
  rw [deleteMany, List.mem_filter, Bool.not_eq_true']

/-- A column that the update does not write is unchanged, row by row. -/
theorem map_updateMany {p : ρ → Bool} {f : ρ → ρ} {t : List ρ} {k : ρ → κ}
    (hk : ∀ r ∈ t, p r = true → k (f r) = k r) : (updateMany p f t).map k = t.map k := by
  rw [updateMany, List.map_map]
  refine List.map_congr_left ?_
  intro r hr
  show k (if p r = true then f r else r) = k r
  split
  · next h => exact hk r hr h
  · rfl

theorem countP_updateMany {p : ρ → Bool} {f : ρ → ρ} {t : List ρ} {q : ρ → Bool}
    (hq : ∀ r ∈ t, p r = true → q (f r) = q r) : (updateMany p f t).countP q = t.countP q := by
  rw [updateMany, List.countP_map]
  refine List.countP_congr ?_
  intro r hr
  show q (if p r = true then f r else r) = true ↔ q r = true
  split
  · next h => rw [hq r hr h]
  · exact Iff.rfl

/-- Two updates of the same rows are one. -/
theorem updateMany_updateMany {p : ρ → Bool} {f g : ρ → ρ} (t : List ρ)
    (hp : ∀ r, p r = true → p (f r) = true) :
    updateMany p g (updateMany p f t) = updateMany p (fun r => g (f r)) t := by
  rw [updateMany, updateMany, updateMany, List.map_map]
  refine List.map_congr_left ?_
  intro r _
  show (if p (if p r = true then f r else r) = true then g (if p r = true then f r else r)
    else if p r = true then f r else r) = if p r = true then g (f r) else r
  by_cases h : p r = true
  · rw [if_pos h, if_pos (hp r h), if_pos h]
  · rw [if_neg h, if_neg h, if_neg h]

/-- Updates have the same effect when they do the same to the rows that they touch. -/
theorem updateMany_eq_iff {p q : ρ → Bool} {f g : ρ → ρ} {t : List ρ} :
    updateMany p f t = updateMany q g t ↔
      ∀ r ∈ t, (if p r = true then f r else r) = if q r = true then g r else r := by
  rw [updateMany, updateMany, List.map_inj_left]

/-- An update changes the outcome of a test on no more rows than it touches. -/
theorem countP_le_updateMany_add (p : ρ → Bool) (f : ρ → ρ) (t : List ρ) (q : ρ → Bool) :
    t.countP q ≤ (updateMany p f t).countP q + t.countP p := by
  induction t with
  | nil => simp
  | cons r t ih =>
    rw [updateMany, List.map_cons, List.countP_cons, List.countP_cons, List.countP_cons]
    rw [updateMany] at ih
    cases hp : p r with
    | false =>
      simp only [Bool.false_eq_true, reduceIte]
      omega
    | true =>
      simp only [reduceIte]
      split <;> split <;> omega

/-! ## Unique constraints -/

/-- No two rows of the table clash. -/
def Unique (clash : ρ → ρ → Bool) (t : List ρ) : Prop :=
  t.Pairwise fun a b => clash a b = false

/-- `INSERT`, refused with `none` when the new row clashes with a stored one. -/
def insert (clash : ρ → ρ → Bool) (t : List ρ) (r : ρ) : Option (List ρ) :=
  if t.any fun a => clash a r then none else some (t ++ [r])

/-- A bulk `INSERT`: all rows, or `none`. -/
def insertMany (clash : ρ → ρ → Bool) (t : List ρ) : List ρ → Option (List ρ)
  | [] => some t
  | r :: rs => (insert clash t r).bind fun t' => insertMany clash t' rs

variable {clash : ρ → ρ → Bool}

theorem Unique.nil : Unique clash ([] : List ρ) := List.Pairwise.nil

/-- Two stored rows that clash are one row. -/
theorem Unique.eq_of_clash {t : List ρ} (h : Unique clash t)
    (hsymm : ∀ a b, clash a b = clash b a) {a b : ρ} (ha : a ∈ t) (hb : b ∈ t)
    (hab : clash a b = true) : a = b := by
  by_contra hne
  have : Std.Symm fun a b => clash a b = false := ⟨fun x y hxy => by rw [hsymm]; exact hxy⟩
  have hfalse : clash a b = false := List.Pairwise.forall h ha hb hne
  rw [hab] at hfalse
  exact absurd hfalse (by simp)

/-- Of rows that clash with each other at most one is stored. -/
theorem Unique.countP_le_one {t : List ρ} (h : Unique clash t) {p : ρ → Bool}
    (hp : ∀ a b, p a = true → p b = true → clash a b = true) : t.countP p ≤ 1 := by
  rw [List.countP_eq_length_filter]
  have hpair := h.sublist (List.filter_sublist (p := p))
  have hall : ∀ a ∈ t.filter p, p a = true := fun a ha => (List.mem_filter.mp ha).2
  match hf : t.filter p with
  | [] => simp
  | [a] => simp
  | a :: b :: l =>
    rw [hf] at hpair hall
    have hfalse := (List.pairwise_cons.mp hpair).1 b List.mem_cons_self
    rw [hp a b (hall a List.mem_cons_self)
      (hall b (List.mem_cons_of_mem _ List.mem_cons_self))] at hfalse
    exact absurd hfalse (by simp)

theorem Unique.deleteMany {t : List ρ} (h : Unique clash t) (p : ρ → Bool) :
    Unique clash (deleteMany p t) :=
  List.Pairwise.filter _ h

/-- An update that does not touch the constrained columns keeps the constraint. -/
theorem Unique.updateMany {t : List ρ} (h : Unique clash t) {p : ρ → Bool} {f : ρ → ρ}
    (hl : ∀ a b, clash (f a) b = clash a b) (hr : ∀ a b, clash a (f b) = clash a b) :
    Unique clash (updateMany p f t) := by
  refine List.pairwise_map.mpr (List.Pairwise.imp ?_ h)
  intro a b hab
  split <;> split
  · rwa [hl, hr]
  · rwa [hl]
  · rwa [hr]
  · exact hab

/-- An update keeps the constraint when the rows it picks are one row and what it writes
clashes with none of the others. -/
theorem Unique.updateMany_of_fresh {t : List ρ} (h : Unique clash t) {p : ρ → Bool} {f : ρ → ρ}
    (hone : ∀ a b, p a = true → p b = true → clash a b = true)
    (hfresh : ∀ a ∈ t, p a = true → ∀ b ∈ t, p b = false →
      clash (f a) b = false ∧ clash b (f a) = false) :
    Unique clash (Table.updateMany p f t) := by
  refine List.pairwise_map.mpr (List.Pairwise.imp_of_mem ?_ h)
  intro a b ha hb hab
  cases hpa : p a <;> cases hpb : p b
  · exact hab
  · exact (hfresh b hb hpb a ha hpa).2
  · exact (hfresh a ha hpa b hb hpb).1
  · rw [hone a b hpa hpb] at hab
    exact absurd hab (by simp)

theorem insert_eq_some {t t' : List ρ} {r : ρ} :
    insert clash t r = some t' ↔ (∀ a ∈ t, clash a r = false) ∧ t' = t ++ [r] := by
  rw [insert]
  split
  · next h =>
    simp only [reduceCtorEq, false_iff, not_and]
    intro hall
    obtain ⟨a, ha, hc⟩ := List.any_eq_true.mp h
    rw [hall a ha] at hc
    exact absurd hc (by simp)
  · next h =>
    rw [Option.some.injEq, eq_comm (a := t ++ [r])]
    refine (and_iff_right ?_).symm
    intro a ha
    cases hc : clash a r with
    | false => rfl
    | true => exact absurd (List.any_eq_true.mpr ⟨a, ha, hc⟩) h

theorem Unique.insert {t t' : List ρ} {r : ρ} (h : Unique clash t)
    (hi : insert clash t r = some t') : Unique clash t' := by
  obtain ⟨hall, rfl⟩ := insert_eq_some.mp hi
  refine List.pairwise_append.mpr ⟨h, List.pairwise_singleton _ _, ?_⟩
  intro a ha b hb
  rw [List.mem_singleton.mp hb]
  exact hall a ha

/-- A bulk insert appends its rows and keeps the constraint. -/
theorem insertMany_eq_some {t t' rs : List ρ} (h : insertMany clash t rs = some t') :
    t' = t ++ rs ∧ (Unique clash t → Unique clash t') := by
  induction rs generalizing t with
  | nil =>
    rw [insertMany, Option.some.injEq] at h
    exact ⟨by rw [List.append_nil, h], fun hu => by rwa [← h]⟩
  | cons r rs ih =>
    rw [insertMany, Option.bind_eq_some_iff] at h
    obtain ⟨m, hm, h⟩ := h
    obtain ⟨hall, rfl⟩ := insert_eq_some.mp hm
    obtain ⟨rfl, hu⟩ := ih h
    exact ⟨by rw [List.append_assoc, List.singleton_append], fun ht => hu (ht.insert hm)⟩

/-- A bulk insert goes through when its rows clash with no stored row and with
none of each other. -/
theorem insertMany_of_unique {t rs : List ρ} (hrs : Unique clash rs)
    (hnew : ∀ a ∈ t, ∀ r ∈ rs, clash a r = false) :
    insertMany clash t rs = some (t ++ rs) := by
  induction rs generalizing t with
  | nil => rw [insertMany, List.append_nil]
  | cons r rs ih =>
    obtain ⟨hr, hrs⟩ := List.pairwise_cons.mp hrs
    have hi : insert clash t r = some (t ++ [r]) :=
      insert_eq_some.mpr ⟨fun a ha => hnew a ha r List.mem_cons_self, rfl⟩
    rw [insertMany, hi, Option.bind_some, ih hrs, List.append_assoc, List.singleton_append]
    intro a ha b hb
    rcases List.mem_append.mp ha with ha | ha
    · exact hnew a ha b (List.mem_cons_of_mem _ hb)
    · rw [List.mem_singleton.mp ha]
      exact hr b hb

/-! ## Keys -/

/-- A key column is duplicate-free when equal keys clash. -/
theorem Unique.nodup_map {t : List ρ} (h : Unique clash t) {k : ρ → κ}
    (hk : ∀ a b, k a = k b → clash a b = true) : (t.map k).Nodup := by
  refine List.pairwise_map.mpr (List.Pairwise.imp ?_ h)
  intro a b hab hkey
  rw [hk a b hkey] at hab
  exact absurd hab (by simp)

/-- A column filtered through a predicate stays duplicate-free. -/
theorem nodup_map_filter {t : List ρ} {k : ρ → κ} (h : (t.map k).Nodup) (p : ρ → Bool) :
    ((t.filter p).map k).Nodup :=
  h.sublist (List.filter_sublist.map k)

/-- The row with a given key, found by searching the table. -/
theorem find?_eq_some_of_mem [DecidableEq κ] {t : List ρ} {k : ρ → κ} (h : (t.map k).Nodup)
    {r : ρ} (hr : r ∈ t) : t.find? (fun a => k a = k r) = some r := by
  induction t with
  | nil => exact absurd hr (by simp)
  | cons a t ih =>
    rw [List.map_cons, List.nodup_cons] at h
    rcases List.mem_cons.mp hr with rfl | hr
    · rw [List.find?_cons_of_pos (by simp)]
    · have hne : ¬ k a = k r := fun he => h.1 (by rw [he]; exact List.mem_map_of_mem hr)
      rw [List.find?_cons_of_neg (by simpa using hne)]
      exact ih h.2 hr

theorem mem_of_find? [DecidableEq κ] {t : List ρ} {k : ρ → κ} {x : κ} {r : ρ}
    (h : t.find? (fun a => k a = x) = some r) : r ∈ t ∧ k r = x :=
  ⟨List.mem_of_find?_eq_some h, by simpa using List.find?_some h⟩

/-- No more rows than listed keys have a listed key. -/
theorem countP_contains_le [BEq κ] [LawfulBEq κ] {t : List ρ} {k : ρ → κ}
    (h : (t.map k).Nodup) (keys : List κ) :
    t.countP (fun r => keys.contains (k r)) ≤ keys.length := by
  have hsub : (t.filter fun r => keys.contains (k r)).map k ⊆ keys := by
    intro x hx
    obtain ⟨r, hr, rfl⟩ := List.mem_map.mp hx
    exact List.contains_iff_mem.mp (List.mem_filter.mp hr).2
  have hle := (List.subperm_of_subset (nodup_map_filter h _) hsub).length_le
  rwa [List.length_map, ← List.countP_eq_length_filter] at hle

/-- A duplicate-free selection of wanted keys that is at least as long as the list
of wanted keys is all of it, and the wanted keys are duplicate-free too. -/
theorem perm_of_length_le {l wanted : List κ} (hl : l.Nodup) (hsub : l ⊆ wanted)
    (hlen : wanted.length ≤ l.length) : l.Perm wanted :=
  (List.subperm_of_subset hl hsub).perm_of_length_le hlen

/-! ## Order -/

section Sorting

variable (le : ρ → ρ → Prop) [DecidableRel le] (p : ρ → Bool)

theorem orderedInsert_of_forall {a : ρ} {t : List ρ} (h : ∀ b ∈ t, le a b) :
    t.orderedInsert le a = a :: t := by
  cases t with
  | nil => rfl
  | cons b t => rw [List.orderedInsert_cons, if_pos (h b List.mem_cons_self)]

/-- A row is inserted in order before a selection or after it. -/
theorem filter_orderedInsert [IsTrans ρ le] (a : ρ) {t : List ρ} (h : t.Pairwise le) :
    (t.orderedInsert le a).filter p =
      if p a then (t.filter p).orderedInsert le a else t.filter p := by
  induction t with
  | nil => by_cases ha : p a <;> simp [ha]
  | cons b t ih =>
    obtain ⟨hb, ht⟩ := List.pairwise_cons.mp h
    by_cases hab : le a b
    · have hall : ∀ c ∈ (b :: t).filter p, le a c := by
        intro c hc
        rcases List.mem_cons.mp (List.mem_filter.mp hc).1 with rfl | hc
        · exact hab
        · exact IsTrans.trans a b c hab (hb c hc)
      rw [List.orderedInsert_cons, if_pos hab, orderedInsert_of_forall le hall, List.filter_cons]
    · rw [List.orderedInsert_cons, if_neg hab, List.filter_cons, ih ht, List.filter_cons]
      by_cases ha : p a <;> by_cases hpb : p b <;> simp [ha, hpb, hab]

/-- `ORDER BY` is stable: it commutes with `WHERE`. -/
theorem filter_insertionSort [Std.Total le] [IsTrans ρ le] (t : List ρ) :
    (t.insertionSort le).filter p = (t.filter p).insertionSort le := by
  induction t with
  | nil => rfl
  | cons a t ih =>
    rw [List.insertionSort_cons, filter_orderedInsert le p a (List.pairwise_insertionSort le t), ih,
      List.filter_cons]
    by_cases ha : p a
    · rw [if_pos ha, if_pos ha, List.insertionSort_cons]
    · rw [if_neg ha, if_neg ha]

end Sorting

end Table
end TransHub
