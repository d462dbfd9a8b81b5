import Mathlib.Data.List.Basic
import Mathlib.Tactic.Common

/-!
# Named caches

A storage is a list of named caches, in the order in which they were opened first; a cache is a
list of keys with their values.  A lookup takes the first cache that has the key.

* `openCache`, `put`, `delete`, `lookup`.
* `holds_openCache`, `holds_put`: what an operation can leave behind.
* `lookup_openCache`, `lookup_put_ne`, `lookup_put_self`: what it does to a lookup.  A value just
  put is found when no cache of another name has its key.
-/

namespace TransHub

/-- A cache with its name, as the list of its entries. -/
structure NamedCache (ι κ ν : Type) where
  name : ι
  entries : List (κ × ν)

/-- Caches in the order of their creation. -/
abbrev CacheStorage (ι κ ν : Type) := List (NamedCache ι κ ν)

namespace CacheStorage

variable {ι κ ν : Type} {s : CacheStorage ι κ ν} {n n' : ι} {k k' : κ} {v v' : ν}

/-- The names of the caches. -/
def names (s : CacheStorage ι κ ν) : List ι := s.map NamedCache.name

/-- A key and its value in the cache of that name. -/
def Holds (s : CacheStorage ι κ ν) (n : ι) (k : κ) (v : ν) : Prop :=
  ∃ c ∈ s, c.name = n ∧ (k, v) ∈ c.entries

section Keys

variable [DecidableEq κ]

/-- The value of a key in one cache. -/
def find (k : κ) (c : NamedCache ι κ ν) : Option ν :=
  (c.entries.find? fun e => e.1 = k).map Prod.snd

/-- The value of a key in the first cache that has it. -/
def lookup (k : κ) (s : CacheStorage ι κ ν) : Option ν := s.findSome? (find k)

theorem holds_of_lookup (h : s.lookup k = some v) : ∃ n, s.Holds n k v := by
  obtain ⟨c, hc, hfind⟩ := List.exists_of_findSome?_eq_some h
  obtain ⟨⟨k', v'⟩, he, rfl⟩ := Option.map_eq_some_iff.mp hfind
  have hk : k' = k := by simpa using List.find?_some he
  subst hk
  exact ⟨c.name, c, hc, rfl, List.mem_of_find?_eq_some he⟩

theorem find_put_ne {c : NamedCache ι κ ν} (h : k' ≠ k) :
    find k' { c with entries := c.entries.filter (fun e => e.1 ≠ k) ++ [(k, v)] } = find k' c := by
  have hlast : ¬ k = k' := Ne.symm h
  have hkeep : ∀ e : κ × ν, (!decide (e.1 = k) && decide (e.1 = k')) = decide (e.1 = k') := by
    intro e
    by_cases he : e.1 = k'
    · simp [he, h]
    · simp [he]
  simp [find, List.find?_append, List.find?_filter, hkeep, hlast]

theorem find_put_self {c : NamedCache ι κ ν} :
    find k { c with entries := c.entries.filter (fun e => e.1 ≠ k) ++ [(k, v)] } = some v := by
  have hgone : (c.entries.filter fun e => e.1 ≠ k).find? (fun e => e.1 = k) = none := by
    rw [List.find?_eq_none]
    intro e he
    simpa using (List.mem_filter.mp he).2
  rw [find, List.find?_append, hgone]
  simp

end Keys

section Names

variable [DecidableEq ι]

/-- A cache of that name is there afterwards. -/
def openCache (n : ι) (s : CacheStorage ι κ ν) : CacheStorage ι κ ν :=
  if n ∈ s.names then s else s ++ [⟨n, []⟩]

def delete (n : ι) (s : CacheStorage ι κ ν) : CacheStorage ι κ ν := s.filter fun c => c.name ≠ n

theorem holds_openCache (h : (s.openCache n).Holds n' k v) : s.Holds n' k v := by
  obtain ⟨c, hc, hname, he⟩ := h
  rw [openCache] at hc
  split at hc
  · exact ⟨c, hc, hname, he⟩
  · rcases List.mem_append.mp hc with hc | hc
    · exact ⟨c, hc, hname, he⟩
    · rw [List.mem_singleton.mp hc] at he
      exact absurd he (by simp)

theorem mem_names_openCache : n' ∈ (s.openCache n).names ↔ n' ∈ s.names ∨ n' = n := by
  rw [openCache]
  split
  · next hn =>
    constructor
    · exact Or.inl
    · rintro (h | rfl)
      · exact h
      · exact hn
  · rw [names, List.map_append, List.mem_append, List.map_singleton, List.mem_singleton]
    rfl

end Names

/-! ## Putting a value -/

variable [DecidableEq ι] [DecidableEq κ]

/-- Replaces the value of a key in a cache; a cache that is gone is not brought back. -/
def put (n : ι) (k : κ) (v : ν) (s : CacheStorage ι κ ν) : CacheStorage ι κ ν :=
  s.map fun c =>
    if c.name = n then { c with entries := c.entries.filter (fun e => e.1 ≠ k) ++ [(k, v)] } else c

@[simp] theorem names_put : (s.put n k v).names = s.names := by
  rw [names, put, List.map_map, names]
  refine List.map_congr_left ?_
  intro c _
  show (if c.name = n then _ else c).name = c.name
  split <;> rfl

/-- What is there after a put was there before, or is what was put. -/
theorem holds_put (h : (s.put n k v).Holds n' k' v') :
    s.Holds n' k' v' ∨ (n' = n ∧ k' = k ∧ v' = v) := by
  obtain ⟨d, hd, hname, he⟩ := h
  obtain ⟨c, hc, rfl⟩ := List.mem_map.mp hd
  split at hname <;> rename_i hn
  · rw [if_pos hn] at he
    rcases List.mem_append.mp he with he | he
    · exact Or.inl ⟨c, hc, hname, List.mem_of_mem_filter he⟩
    · cases List.mem_singleton.mp he
      exact Or.inr ⟨hname.symm.trans hn, rfl, rfl⟩
  · rw [if_neg hn] at he
    exact Or.inl ⟨c, hc, hname, he⟩

@[simp] theorem lookup_openCache : (s.openCache n).lookup k = s.lookup k := by
  rw [openCache]
  split
  · rfl
  · rw [lookup, List.findSome?_append, List.findSome?_singleton]
    exact Option.or_none

theorem lookup_put_ne (h : k' ≠ k) : (s.put n k v).lookup k' = s.lookup k' := by
  rw [lookup, lookup, put, List.findSome?_map]
  congr 1
  ext1 c
  show find k' (if c.name = n then _ else c) = find k' c
  split
  · exact find_put_ne h
  · rfl

/-- A value just put is found, unless an earlier cache of another name has its key. -/
theorem lookup_put_self (hn : n ∈ s.names) (hhome : ∀ n' v', s.Holds n' k v' → n' = n) :
    (s.put n k v).lookup k = some v := by
  obtain ⟨c, hc, rfl⟩ := List.mem_map.mp hn
  cases hlookup : (s.put c.name k v).lookup k with
  | none =>
    have hmem := List.findSome?_eq_none_iff.mp hlookup _ (List.mem_map_of_mem hc)
    rw [if_pos rfl, find_put_self] at hmem
    cases hmem
  | some w =>
    obtain ⟨d, hd, hfind⟩ := List.exists_of_findSome?_eq_some hlookup
    obtain ⟨b, hb, rfl⟩ := List.mem_map.mp hd
    split at hfind <;> rename_i hbn
    · rw [find_put_self] at hfind
      exact hfind.symm
    · obtain ⟨⟨k', v'⟩, he, -⟩ := Option.map_eq_some_iff.mp hfind
      have hk : k' = k := by simpa using List.find?_some he
      subst hk
      exact absurd (hhome b.name v' ⟨b, hb, rfl, List.mem_of_find?_eq_some he⟩) hbn

end CacheStorage
end TransHub
