import TransHub.Ledger.Schema
import Mathlib.Algebra.Order.Floor.Div
import Mathlib.Data.List.Sort
import Mathlib.Data.Rat.Defs
import Mathlib.Algebra.Order.Ring.Unbundled.Rat

/-!
# Paginated lists

`shared/pagination` and `shared/list-query`, and the statements that a list endpoint
runs with them: the conditions it pushes, the page it selects, and the count.

* `IsoDate`, `toDateRange`: calendar days, anchored to WAT.
* `pushIf`, `allOf`: a `where` clause as the list of the conditions pushed.
* `findPage`: `findMany` and `count` with one `where`, newest first.  Rows of one instant keep
  the order the table has them in.
-/

namespace TransHub

/-! ## Pages -/

/-- What `paginationQuerySchema` lets through. -/
structure PaginationQuery where
  page : ℕ := 1
  limit : ℕ := 20
  page_pos : 1 ≤ page := by decide
  limit_pos : 1 ≤ limit := by decide
  limit_le : limit ≤ 100 := by decide
  deriving DecidableEq, Repr

structure PageMeta where
  page : ℕ
  limit : ℕ
  total : ℕ
  totalPages : ℕ
  deriving DecidableEq, Repr

/-- A page of rows and the number of rows of all pages. -/
structure Page (α : Type) where
  items : List α
  total : ℕ
  deriving DecidableEq, Repr

/-- `toSkipTake`, on the rows selected. -/
def PaginationQuery.skipTake {α : Type} (p : PaginationQuery) (rows : List α) : List α :=
  (rows.drop ((p.page - 1) * p.limit)).take p.limit

def pageMeta (total : ℕ) (p : PaginationQuery) : PageMeta where
  page := p.page
  limit := p.limit
  total := total
  totalPages := max 1 ((total + p.limit - 1) / p.limit)

/-- The pages hold every row. -/
theorem total_le_totalPages (total : ℕ) (p : PaginationQuery) :
    total ≤ (pageMeta total p).totalPages * p.limit := by
  have hceil : total ⌈/⌉ p.limit ≤ (pageMeta total p).totalPages := le_max_right _ _
  calc total ≤ p.limit * (total ⌈/⌉ p.limit) := (ceilDiv_le_iff_le_mul p.limit_pos).mp le_rfl
    _ ≤ p.limit * (pageMeta total p).totalPages := Nat.mul_le_mul_left _ hceil
    _ = (pageMeta total p).totalPages * p.limit := Nat.mul_comm _ _

/-! ## Ranges -/

/-- `{ gte?, lte? }`. -/
structure Range (α : Type) where
  gte : Option α
  lte : Option α
  deriving DecidableEq, Repr

/-- A range with a bound, and `undefined` without. -/
def Range.of {α : Type} (gte lte : Option α) : Option (Range α) :=
  if gte.isSome || lte.isSome then some ⟨gte, lte⟩ else none

/-- `toNumberRange`: zero is a bound. -/
def toNumberRange {α : Type} (min max : Option α) : Option (Range α) := Range.of min max

def Range.contains {α : Type} [LE α] [DecidableLE α] (r : Range α) (x : α) : Bool :=
  r.gte.all (fun b => b ≤ x) && r.lte.all fun b => x ≤ b

/-- A text of the form `YYYY-MM-DD`. -/
structure IsoDate where
  year : Fin 10000
  month : Fin 100
  day : Fin 100
  deriving DecidableEq, Repr

namespace IsoDate

/-- The days of the civil calendar before the first of March of a year that is counted from
March, since the epoch. -/
def daysBeforeMarch (year : ℤ) : ℤ :=
  365 * year + year / 4 - year / 100 + year / 400 - 719468

/-- The days since the epoch at the start of the date; a day past the end of its month
runs on into the next. -/
def toDays (d : IsoDate) : ℤ :=
  let fromMarch : ℕ := (d.month.val + 9) % 12
  let year : ℤ := if d.month.val ≤ 2 then d.year.val - 1 else d.year.val
  daysBeforeMarch year + (153 * fromMarch + 2) / 5 + d.day.val - 1

/-- `new Date` of the date at an instant of its day in WAT, in milliseconds; `none` is an
invalid date. -/
def toDate (d : IsoDate) (millisecond : ℤ) : Option ℤ :=
  if 1 ≤ d.month.val ∧ d.month.val ≤ 12 ∧ 1 ≤ d.day.val ∧ d.day.val ≤ 31 then
    some (d.toDays * 86400000 + millisecond - 3600000)
  else none

example : (IsoDate.mk 1970 1 1).toDate 3600000 = some 0 := by decide
example : (IsoDate.mk 2026 6 9).toDate 0 = some 1780959600000 := by decide
example : (IsoDate.mk 2026 13 9).toDate 0 = none := by decide

/-- A date that has a first millisecond has all of its day. -/
theorem toDate_of_isSome {d : IsoDate} (h : (d.toDate 0).isSome) (millisecond : ℤ) :
    d.toDate millisecond = some (d.toDays * 86400000 + millisecond - 3600000) := by
  have hvalid : 1 ≤ d.month.val ∧ d.month.val ≤ 12 ∧ 1 ≤ d.day.val ∧ d.day.val ≤ 31 := by
    by_contra hnot
    rw [toDate, if_neg hnot] at h
    cases h
  exact if_pos hvalid

/-- From the first millisecond of a date to its last are the instants of the day in WAT. -/
theorem toDate_bounds_iff {d : IsoDate} (h : (d.toDate 0).isSome) (x : ℤ) :
    ((d.toDate 0).any (fun b => b ≤ x) && (d.toDate 86399999).any fun b => x ≤ b) = true ↔
      (x + 3600000) / 86400000 = d.toDays := by
  simp only [toDate_of_isSome h, Option.any_some, Bool.and_eq_true, decide_eq_true_eq]
  omega

end IsoDate

/-- `toDateRange`: `dateTo` counts to the end of its day. -/
def toDateRange (dateFrom dateTo : Option IsoDate) : Option (Range (Option ℤ)) :=
  Range.of (dateFrom.map fun d => d.toDate 0) (dateTo.map fun d => d.toDate 86399999)

/-- Prisma refuses a range with an invalid date. -/
def Range.valid (r : Range (Option ℤ)) : Bool := r.gte.all Option.isSome && r.lte.all Option.isSome

/-- A range of dates against a column. -/
def Range.containsTime (r : Range (Option ℤ)) (instant : Time) : Bool :=
  r.gte.all (fun b => b.any fun t => t ≤ (instant : ℤ)) &&
    r.lte.all fun b => b.any fun t => (instant : ℤ) ≤ t

/-! ## `where` clauses -/

/-- `if (value) and.push(condition(value))`. -/
def pushIf {α ρ : Type} (value : Option α) (condition : α → ρ → Bool) : List (ρ → Bool) :=
  (value.map condition).toList

/-- `and.length ? { AND: and } : {}`. -/
def allOf {ρ : Type} (conditions : List (ρ → Bool)) (row : ρ) : Bool :=
  conditions.all fun condition => condition row

/-- A row meets each of the conditions pushed. -/
theorem allOf_eq_true {ρ : Type} {conditions : List (ρ → Bool)} {row : ρ} :
    allOf conditions row = true ↔ ∀ condition ∈ conditions, condition row = true := by
  rw [allOf, List.all_eq_true]

/-- How the database shows as text what the code searches, and `ILIKE`. -/
structure SearchText where
  uuid : ℕ → String
  reference : Ref → String
  waybillNo : ℕ → String
  ilike : String → String → Bool

/-- `{ contains: s, mode: "insensitive" }`. -/
def SearchText.contains (text : SearchText) (s column : String) : Bool :=
  text.ilike column ("%" ++ s ++ "%")

/-! ## The statements -/

section
variable {ρ : Type} (createdAt : ρ → Time)

/-- `orderBy: { createdAt: "desc" }`. -/
def newestFirst (rows : List ρ) : List ρ :=
  rows.insertionSort fun a b => createdAt b ≤ createdAt a

/-- `findMany` and `count`. -/
def findPage (condition : ρ → Bool) (rows : List ρ) (pagination : PaginationQuery) : Page ρ where
  items := pagination.skipTake (newestFirst createdAt (rows.filter condition))
  total := (rows.filter condition).length

variable {createdAt}

/-- A page lists rows that meet the condition. -/
theorem mem_findPage {condition : ρ → Bool} {rows : List ρ} {pagination : PaginationQuery} {r : ρ}
    (h : r ∈ (findPage createdAt condition rows pagination).items) :
    r ∈ rows ∧ condition r = true := by
  have hsorted : r ∈ newestFirst createdAt (rows.filter condition) :=
    List.mem_of_mem_drop (List.mem_of_mem_take h)
  have hmem : r ∈ rows.filter condition := (List.mem_insertionSort _).mp hsorted
  exact List.mem_filter.mp hmem

/-- A page depends on the rows that meet the condition and on no others. -/
theorem findPage_congr {condition : ρ → Bool} {rows rows' : List ρ} (pagination : PaginationQuery)
    (h : rows.filter condition = rows'.filter condition) :
    findPage createdAt condition rows pagination =
      findPage createdAt condition rows' pagination := by
  rw [findPage, findPage, h]

end

end TransHub
