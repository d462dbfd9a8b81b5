import TransHub.Foundation.Slices
import TransHub.Shared.Listing

/-!
# The pages of a list

`toSkipTake` and `pageMeta` of any page and limit, beyond those that `paginationQuerySchema`
lets through.

* `PageRequest`, `SkipTake`: what the two functions read, and what `findMany` is given.
* `skipTake_eq`, `pageMeta_eq`: what a validated query gives.
* `totalPages_le_iff`: how many pages are enough.
* `pages_partition`: the pages of a list are a partition of it.
* `flatMap_findPage`: the pages of a list endpoint hold the rows that it selects.
-/

namespace TransHub

/-- `{ page, limit }`. -/
structure PageRequest where
  page : ℕ
  limit : ℕ
  deriving DecidableEq, Repr

/-- `{ skip, take }`. -/
structure SkipTake where
  skip : ℕ
  take : ℕ
  deriving DecidableEq, Repr

/-- The rows that `findMany` returns of those selected. -/
def SkipTake.slice {α : Type*} (s : SkipTake) (rows : List α) : List α :=
  (rows.drop s.skip).take s.take

namespace PageRequest

def toSkipTake (q : PageRequest) : SkipTake := { skip := (q.page - 1) * q.limit, take := q.limit }

def pageMeta (q : PageRequest) (total : ℕ) : PageMeta where
  page := q.page
  limit := q.limit
  total := total
  totalPages := max 1 ⌈(total : ℚ) / q.limit⌉₊

end PageRequest

/-- A validated query as the functions read it. -/
def PaginationQuery.request (p : PaginationQuery) : PageRequest where
  page := p.page
  limit := p.limit

theorem skipTake_eq {α : Type} (p : PaginationQuery) (rows : List α) :
    p.skipTake rows = p.request.toSkipTake.slice rows := rfl

theorem pageMeta_eq (total : ℕ) (p : PaginationQuery) :
    pageMeta total p = p.request.pageMeta total := by
  rw [pageMeta, PageRequest.pageMeta, PageMeta.mk.injEq]
  exact ⟨rfl, rfl, rfl, congrArg (max 1) (Slices.ceil_div_eq p.limit_pos total).symm⟩

/-! ## How many pages there are -/

section
variable {α : Type*} {limit current : ℕ}

/-- The slice of a page is the one after the pages before it. -/
theorem slice_toSkipTake (xs : List α) (n : ℕ) :
    (PageRequest.toSkipTake { page := n + 1, limit }).slice xs = Slices.slice limit xs n := rfl

/-- So many pages are enough when they are one at least and hold every row. -/
theorem totalPages_le_iff (hlimit : 1 ≤ limit) {total n : ℕ} :
    (PageRequest.pageMeta { page := current, limit } total).totalPages ≤ n ↔
      1 ≤ n ∧ total ≤ n * limit := by
  rw [PageRequest.pageMeta, max_le_iff, Slices.ceil_div_le_iff hlimit]

/-! ## The partition -/

/-- The pages of a list are a partition of it: one after the other they are the list, all but the
last are full, the last is empty for the empty list only, and there is nothing beyond it. -/
theorem pages_partition (xs : List α) (current limit totalPages : ℕ) (hlimit : 1 ≤ limit)
    (htotal : totalPages = (PageRequest.pageMeta { page := current, limit } xs.length).totalPages) :
    ((List.range' 1 totalPages).flatMap fun page =>
      (PageRequest.toSkipTake { page, limit }).slice xs) = xs ∧
    (∀ page, 1 ≤ page → page < totalPages →
      ((PageRequest.toSkipTake { page, limit }).slice xs).length = limit) ∧
    (xs ≠ [] → (PageRequest.toSkipTake { page := totalPages, limit }).slice xs ≠ []) ∧
    ∀ page, totalPages < page → (PageRequest.toSkipTake { page, limit }).slice xs = [] := by
  have henough : ∀ n, totalPages ≤ n ↔ 1 ≤ n ∧ xs.length ≤ n * limit :=
    fun n => htotal ▸ totalPages_le_iff hlimit
  obtain ⟨hone, hall⟩ := (henough totalPages).mp le_rfl
  refine ⟨?_, ?_, ?_, ?_⟩
  · have hslices := Slices.flatMap_slice_of_le hall
    rw [List.range'_eq_map_range, List.flatMap_map]
    simpa only [Nat.add_comm 1, slice_toSkipTake] using hslices
  · intro page hpage hbefore
    obtain ⟨n, rfl⟩ := Nat.exists_eq_add_of_le' hpage
    -- The pages up to this one are not enough, so it ends within the list.
    have hnot : ¬ (1 ≤ n + 1 ∧ xs.length ≤ (n + 1) * limit) :=
      fun h => Nat.not_le.mpr hbefore ((henough (n + 1)).mpr h)
    rw [slice_toSkipTake, Slices.length_slice_eq_iff hlimit]
    omega
  · intro hne
    obtain ⟨n, rfl⟩ := Nat.exists_eq_add_of_le' hone
    have hlength : 0 < xs.length := List.length_pos_iff.mpr hne
    rw [slice_toSkipTake, Ne, Slices.slice_eq_nil_iff hlimit]
    intro hless
    -- The pages before the last would be enough; there is one, since they hold a row.
    have hpos : 1 ≤ n := by
      by_contra hzero
      obtain rfl : n = 0 := by omega
      rw [Nat.zero_mul] at hless
      omega
    have hfewer := (henough n).mpr ⟨hpos, hless⟩
    omega
  · intro page hbeyond
    obtain ⟨n, rfl⟩ := Nat.exists_eq_add_of_le' (Nat.one_le_of_lt hbeyond)
    have hle : totalPages ≤ n := Nat.lt_succ_iff.mp hbeyond
    rw [slice_toSkipTake, Slices.slice_eq_nil_iff hlimit]
    exact ((henough n).mp hle).2

end

/-- Five rows in pages of two. -/
theorem pages_partition_five :
    ((List.range' 1 3).flatMap fun page =>
      (PageRequest.toSkipTake { page, limit := 2 }).slice [1, 2, 3, 4, 5]) = [1, 2, 3, 4, 5] ∧
    (PageRequest.toSkipTake { page := 3, limit := 2 }).slice [1, 2, 3, 4, 5] = [5] ∧
    (PageRequest.toSkipTake { page := 4, limit := 2 }).slice [1, 2, 3, 4, 5] = [] := by
  have hpages := pages_partition [1, 2, 3, 4, 5] 1 2 3 one_le_two (by decide +kernel)
  exact ⟨hpages.1, rfl, hpages.2.2.2 4 (Nat.lt_succ_self 3)⟩

/-! ## The pages of an endpoint -/

/-- The query for one more page than `n`. -/
def PaginationQuery.afterPages (p : PaginationQuery) (n : ℕ) : PaginationQuery :=
  { p with page := 1 + n, page_pos := Nat.le_add_right 1 n }

theorem skipTake_afterPages {ρ : Type} (p : PaginationQuery) (n : ℕ) (rows : List ρ) :
    (p.afterPages n).skipTake rows = Slices.slice p.limit rows n := by
  have hrequest : (p.afterPages n).request = { page := n + 1, limit := p.limit } := by
    rw [PageRequest.mk.injEq]
    exact ⟨Nat.add_comm 1 n, rfl⟩
  rw [skipTake_eq, hrequest, slice_toSkipTake]

/-- The pages of a list endpoint, one after the other, are the rows that meet the condition, newest
first. -/
theorem flatMap_findPage {ρ : Type} (createdAt : ρ → Time) (condition : ρ → Bool) (rows : List ρ)
    (p : PaginationQuery) :
    ((List.range (pageMeta (findPage createdAt condition rows p).total p).totalPages).flatMap
      fun n => (findPage createdAt condition rows (p.afterPages n)).items) =
      newestFirst createdAt (rows.filter condition) := by
  have hlength : (newestFirst createdAt (rows.filter condition)).length =
      (rows.filter condition).length := List.length_insertionSort _ _
  have hall : (newestFirst createdAt (rows.filter condition)).length ≤
      (pageMeta (rows.filter condition).length p).totalPages * p.limit := by
    rw [hlength, pageMeta_eq]
    exact ((totalPages_le_iff p.limit_pos).mp le_rfl).2
  simp only [findPage, skipTake_afterPages]
  exact Slices.flatMap_slice_of_le hall

end TransHub
