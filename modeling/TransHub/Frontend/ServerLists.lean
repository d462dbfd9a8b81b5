import Mathlib.Data.List.Basic
import TransHub.Foundation.System

/-!
# Lists that the server filters

The hook `useServerList`: a page, filters and a search box on one side, requests and their
answers on the other.  Handlers and answers set state; a commit then runs the effects whose
dependencies have changed.  Typing starts a timer, and a request may be answered after later
ones.

* `Query`, `clean`, `ListHook.query`: what is asked.
* `ListHook`, `ListAct`, `ListHook.step`: the state of the hook and what can happen.
* `ListInv`: what is shown while the newest request waits, is answered or is finished.
* `Aligned`: the committed search is the one in the box, or a timer will make it so.
* `list_converges`: what is shown when nothing is pending.
* `list_settles`: that it can always come to that.
-/

namespace TransHub
namespace Frontend

/-! ## Queries -/

/-- A value in a `Query`; at run time it may also be null. -/
inductive QueryValue where
  | undefined
  | null
  | text (s : String)
  | number (n : ℤ)
  | flag (b : Bool)
  deriving DecidableEq, Repr

abbrev Query := List (String × QueryValue)

namespace Query

/-- `{ ...query, [key]: value }`. -/
def assign (query : Query) (key : String) (value : QueryValue) : Query :=
  if query.any fun p => p.1 == key then
    query.map fun p => if p.1 == key then (key, value) else p
  else query ++ [(key, value)]

/-- `{ ...query, ...patch }`. -/
def spread (query patch : Query) : Query := patch.foldl (fun q p => q.assign p.1 p.2) query

/-- `clean`. -/
def clean (query : Query) : Query :=
  query.filter fun p => p.2 ≠ .undefined ∧ p.2 ≠ .text "" ∧ p.2 ≠ .null

end Query

/-! ## The hook -/

structure PageMeta where
  page : ℤ
  limit : ℤ
  total : ℤ
  totalPages : ℤ
  deriving DecidableEq, Repr

/-- How a request ends: with the rows that `select` has found and the pagination of the
envelope, or with the message of an error. -/
inductive ListOutcome (T : Type) where
  | resolved (rows : Option (List T)) (pagination : Option PageMeta)
  | rejected (message : Option String)
  deriving DecidableEq, Repr

/-- How far a request is: its answer has not come, has been taken, or its `finally` has run. -/
inductive Phase (T : Type) where
  | waiting
  | answered (o : ListOutcome T)
  | finished (o : ListOutcome T)
  deriving DecidableEq, Repr

structure Request (T : Type) where
  query : Query
  phase : Phase T := .waiting
  deriving DecidableEq, Repr

/-- The dependencies of the effect that fetches.  Filters are compared by their reference, which
is the place of the object among those that have been the filters. -/
structure Deps where
  filtersRef : ℕ
  filters : Query
  search : String
  page : ℤ
  tick : ℕ
  deriving DecidableEq, Repr

/-- The dependencies are the same to React. -/
def Deps.same (d d' : Deps) : Bool :=
  d.filtersRef == d'.filtersRef && d.search == d'.search && d.page == d'.page && d.tick == d'.tick

/-- The state of the hook.  `input` and `deps` are what its two effects have last run with, and
`timer` is the text that a pending timer will commit.  Requests are kept in the order of their
ids, so `reqId.current` is their number; `objects` are the filters there have been. -/
structure ListHook (T : Type) where
  page : ℤ := 1
  filters : Query
  filtersRef : ℕ := 0
  objects : List Query
  searchInput : String
  search : String
  items : List T := []
  pagination : Option PageMeta := none
  loading : Bool := true
  error : String := ""
  tick : ℕ := 0
  input : Option String := none
  timer : Option String := none
  deps : Option Deps := none
  requests : List (Request T) := []

/-- What `resetFilters` is given: an object that has been the filters before, or another one. -/
inductive NextFilters where
  | again (ref : ℕ)
  | other (next : Query)
  deriving DecidableEq, Repr

/-- What can happen.  A commit renders and runs effects; `respond` is the callback of an answer,
and `finish` the one of `finally`. -/
inductive ListAct (T : Type) where
  | setPage (page : ℤ)
  | setFilter (patch : Query)
  | resetFilters (next : NextFilters)
  | setSearchInput (value : String)
  | refetch
  | commit
  | timeout
  | respond (i : ℕ) (o : ListOutcome T)
  | finish (i : ℕ)
  deriving DecidableEq

namespace ListHook

variable {T : Type}

/-- The hook before its first effects. -/
def mount (initialFilters : Query) : ListHook T :=
  let search := match initialFilters.find? fun p => p.1 == "search" with
    | some (_, .text s) => s
    | _ => ""
  { filters := initialFilters, objects := [initialFilters], searchInput := search, search }

/-- The query that is sent for some dependencies. -/
def query (limit : ℤ) (d : Deps) : Query :=
  (((d.filters.assign "search" (if d.search = "" then .undefined else .text d.search)).assign
    "page" (.number d.page)).assign "limit" (.number limit)).clean

/-- The present dependencies. -/
def current (s : ListHook T) : Deps := ⟨s.filtersRef, s.filters, s.search, s.page, s.tick⟩

/-- The effect that debounces the search box. -/
def debounce (s : ListHook T) : ListHook T :=
  if s.input = some s.searchInput then s
  else { s with input := some s.searchInput, timer := some s.searchInput }

/-- The effect that fetches. -/
def fetch (limit : ℤ) (s : ListHook T) : ListHook T :=
  if s.deps.any fun d => d.same s.current then s
  else { s with
    deps := some s.current
    loading := true
    error := ""
    requests := s.requests ++ [{ query := query limit s.current }] }

/-- What an answer to the newest request sets. -/
def take (s : ListHook T) : ListOutcome T → ListHook T
  | .resolved rows pagination => { s with items := rows.getD [], pagination }
  | .rejected message => { s with
      error := message.getD "Failed to load"
      items := []
      pagination := none }

def setPhase (s : ListHook T) (i : ℕ) (phase : Phase T) : ListHook T :=
  { s with requests := s.requests.modify i fun r => { r with phase } }

/-- `setFilters`, of an object that has not been the filters before. -/
def adopt (s : ListHook T) (filters : Query) : ListHook T :=
  { s with filters, filtersRef := s.objects.length, objects := s.objects ++ [filters] }

/-- `setFilters` of `resetFilters`; React keeps an object that is the same. -/
def readopt (s : ListHook T) : NextFilters → Option (ListHook T)
  | .again ref => (s.objects[ref]?).map fun filters => { s with filters, filtersRef := ref }
  | .other next => some (s.adopt next)

/-- The `i`-th request is the newest. -/
def newest (s : ListHook T) (i : ℕ) : Bool := i + 1 == s.requests.length

def step (limit : ℤ) (s : ListHook T) : ListAct T → Option (ListHook T)
  | .setPage page => some { s with page }
  | .setFilter patch => some { s.adopt (s.filters.spread patch) with page := 1 }
  | .resetFilters next => (s.readopt next).map fun s =>
      { s with page := 1, searchInput := "", search := "" }
  | .setSearchInput value => some { s with searchInput := value }
  | .refetch => some { s with tick := s.tick + 1 }
  | .commit => some (s.debounce.fetch limit)
  | .timeout => s.timer.map fun v => { s with search := v, page := 1, timer := none }
  | .respond i o => match s.requests[i]? with
      | some ⟨_, .waiting⟩ =>
          let s' := s.setPhase i (.answered o)
          some (if s.newest i then s'.take o else s')
      | _ => none
  | .finish i => match s.requests[i]? with
      | some ⟨_, .answered o⟩ =>
          let s' := s.setPhase i (.finished o)
          some (if s.newest i then { s' with loading := false } else s')
      | _ => none

end ListHook

/-- Runs of a hook with this limit, from some initial filters. -/
def serverList (T : Type) (limit : ℤ) : System (ListHook T) (ListAct T) where
  init s := ∃ initialFilters, s = ListHook.mount initialFilters
  step := ListHook.step limit

variable {T : Type} {limit : ℤ} {s s' : ListHook T} {a : ListAct T} {i : ℕ} {o : ListOutcome T}

/-! ## What is shown -/

namespace ListHook

/-- The list, the pagination and the error are those of an answer. -/
def Shows (s : ListHook T) : ListOutcome T → Prop
  | .resolved rows pagination => s.items = rows.getD [] ∧ s.pagination = pagination ∧ s.error = ""
  | .rejected message => s.items = [] ∧ s.pagination = none ∧
      s.error = message.getD "Failed to load"

/-- The objects there have been keep their places. -/
def Kept (s s' : ListHook T) : Prop :=
  ∀ (ref : ℕ) filters, s.objects[ref]? = some filters → s'.objects[ref]? = some filters

theorem Kept.of_eq (h : s'.objects = s.objects) : s.Kept s' := by
  intro ref filters href
  rw [h]
  exact href

theorem kept_adopt (s : ListHook T) (filters : Query) : s.Kept (s.adopt filters) := by
  intro ref old href
  obtain ⟨hlt, -⟩ := List.getElem?_eq_some_iff.mp href
  show (s.objects ++ [filters])[ref]? = some old
  rw [List.getElem?_append_left hlt]
  exact href

theorem adopt_filters (s : ListHook T) (filters : Query) :
    (s.adopt filters).objects[(s.adopt filters).filtersRef]? = some (s.adopt filters).filters :=
  List.getElem?_concat_length

/-- What is shown goes with how far the newest request is. -/
def Agrees (s : ListHook T) : Phase T → Prop
  | .waiting => s.loading = true ∧ s.error = ""
  | .answered o => s.loading = true ∧ s.Shows o
  | .finished o => s.loading = false ∧ s.Shows o

/-- An answer that is taken is shown. -/
theorem shows_take (herror : s.error = "") (o : ListOutcome T) : (s.take o).Shows o := by
  cases o with
  | resolved rows pagination => exact ⟨rfl, rfl, herror⟩
  | rejected message => exact ⟨rfl, rfl, rfl⟩

theorem Shows.congr (h : s.Shows o) (hitems : s'.items = s.items)
    (hpagination : s'.pagination = s.pagination) (herror : s'.error = s.error) : s'.Shows o := by
  cases o with
  | resolved rows pagination =>
    exact ⟨hitems.trans h.1, hpagination.trans h.2.1, herror.trans h.2.2⟩
  | rejected message => exact ⟨hitems.trans h.1, hpagination.trans h.2.1, herror.trans h.2.2⟩

/-- The phase of the newest request, and those of the others. -/
theorem getLast?_setPhase (phase : Phase T) (hi : i < s.requests.length) :
    (s.setPhase i phase).requests.getLast? =
      if s.newest i then s.requests.getLast?.map fun r => { r with phase }
      else s.requests.getLast? := by
  have hlen : (s.setPhase i phase).requests.length = s.requests.length := List.length_modify ..
  rw [List.getLast?_eq_getElem?, hlen, setPhase, List.getElem?_modify, List.getLast?_eq_getElem?]
  by_cases hnew : s.newest i = true
  · have heq : i = s.requests.length - 1 := by
      have := beq_iff_eq.mp hnew
      omega
    rw [if_pos hnew]
    simp only [heq, if_true]
    rfl
  · have hne : i ≠ s.requests.length - 1 := by
      rintro rfl
      refine hnew (beq_iff_eq.mpr ?_)
      omega
    rw [if_neg hnew]
    simp only [hne, if_false]
    exact Option.map_id'

theorem getLast?_of_newest {r : Request T} (hi : s.requests[i]? = some r)
    (hnew : s.newest i = true) : s.requests.getLast? = some r := by
  rw [List.getLast?_eq_getElem?, ← beq_iff_eq.mp hnew]
  exact hi

end ListHook

/-- What a run keeps. -/
structure ListInv (limit : ℤ) (s : ListHook T) : Prop where
  unmounted : s.deps = none → s.requests = [] ∧ s.loading = true
  asked : ∀ d, s.deps = some d →
    ∃ phase, s.requests.getLast? = some ⟨ListHook.query limit d, phase⟩
  filters : s.objects[s.filtersRef]? = some s.filters
  asked_filters : ∀ d, s.deps = some d → s.objects[d.filtersRef]? = some d.filters
  shown : ∀ r, s.requests.getLast? = some r → s.Agrees r.phase

namespace ListInv

theorem mount (initialFilters : Query) :
    ListInv limit (ListHook.mount initialFilters : ListHook T) where
  unmounted _ := ⟨rfl, rfl⟩
  asked d h := absurd h (by simp [ListHook.mount])
  filters := rfl
  asked_filters d h := absurd h (by simp [ListHook.mount])
  shown r h := absurd h (by simp [ListHook.mount])

/-- A handler changes neither what is shown nor the requests. -/
theorem handler (h : ListInv limit s) (hdeps : s'.deps = s.deps)
    (hrequests : s'.requests = s.requests) (hobjects : s.Kept s')
    (hfilters : s'.objects[s'.filtersRef]? = some s'.filters)
    (hshown : s'.loading = s.loading ∧ s'.items = s.items ∧ s'.pagination = s.pagination ∧
      s'.error = s.error) : ListInv limit s' where
  unmounted hd := by
    rw [hdeps] at hd
    rw [hrequests, hshown.1]
    exact h.unmounted hd
  asked d hd := by
    rw [hdeps] at hd
    rw [hrequests]
    exact h.asked d hd
  filters := hfilters
  asked_filters d hd := by
    rw [hdeps] at hd
    exact hobjects _ _ (h.asked_filters d hd)
  shown r hr := by
    rw [hrequests] at hr
    have hag := h.shown r hr
    obtain ⟨hloading, hitems, hpagination, herror⟩ := hshown
    cases hphase : r.phase with
    | waiting =>
      rw [hphase] at hag
      exact ⟨hloading.trans hag.1, herror.trans hag.2⟩
    | answered o =>
      rw [hphase] at hag
      exact ⟨hloading.trans hag.1, hag.2.congr hitems hpagination herror⟩
    | finished o =>
      rw [hphase] at hag
      exact ⟨hloading.trans hag.1, hag.2.congr hitems hpagination herror⟩

theorem debounce (h : ListInv limit s) : ListInv limit s.debounce := by
  unfold ListHook.debounce
  split
  · exact h
  · exact h.handler rfl rfl (.of_eq rfl) h.filters ⟨rfl, rfl, rfl, rfl⟩

theorem fetch (h : ListInv limit s) : ListInv limit (s.fetch limit) := by
  unfold ListHook.fetch
  split
  · exact h
  · refine ⟨fun hd => absurd hd (by simp), ?_, h.filters, ?_, ?_⟩
    · intro d hd
      cases hd
      exact ⟨.waiting, List.getLast?_concat⟩
    · intro d hd
      cases hd
      exact h.filters
    · intro r hr
      rw [List.getLast?_concat, Option.some.injEq] at hr
      subst hr
      exact ⟨rfl, rfl⟩

/-- A request that is not the newest is nobody's concern. -/
theorem setPhase (h : ListInv limit s) {r : Request T} (hi : s.requests[i]? = some r)
    (hnew : ¬ s.newest i = true) (phase : Phase T) : ListInv limit (s.setPhase i phase) := by
  obtain ⟨hlt, -⟩ := List.getElem?_eq_some_iff.mp hi
  have hlast : (s.setPhase i phase).requests.getLast? = s.requests.getLast? := by
    rw [ListHook.getLast?_setPhase phase hlt, if_neg hnew]
  refine ⟨?_, ?_, h.filters, h.asked_filters, ?_⟩
  · intro hd
    rw [(h.unmounted hd).1] at hlt
    exact absurd hlt (Nat.not_lt_zero i)
  · intro d hd
    rw [hlast]
    exact h.asked d hd
  · intro r hr
    rw [hlast] at hr
    exact h.shown r hr

/-- The newest request goes on to another phase, and what is shown with it. -/
theorem advance (h : ListInv limit s) {q : Query} {phase phase' : Phase T}
    (hi : s.requests[i]? = some ⟨q, phase⟩) (hnew : s.newest i = true)
    (hdeps : s'.deps = s.deps) (hobjects : s'.objects = s.objects)
    (hfilters : s'.filtersRef = s.filtersRef ∧ s'.filters = s.filters)
    (hrequests : s'.requests = (s.setPhase i phase').requests) (hshown : s'.Agrees phase') :
    ListInv limit s' := by
  obtain ⟨hlt, -⟩ := List.getElem?_eq_some_iff.mp hi
  have hlast : s'.requests.getLast? = some ⟨q, phase'⟩ := by
    rw [hrequests, ListHook.getLast?_setPhase phase' hlt, if_pos hnew,
      ListHook.getLast?_of_newest hi hnew, Option.map_some]
  refine ⟨?_, ?_, ?_, ?_, ?_⟩
  · intro hd
    rw [hdeps] at hd
    rw [(h.unmounted hd).1] at hlt
    exact absurd hlt (Nat.not_lt_zero i)
  · intro d hd
    rw [hdeps] at hd
    obtain ⟨old, hold⟩ := h.asked d hd
    rw [ListHook.getLast?_of_newest hi hnew, Option.some.injEq, Request.mk.injEq] at hold
    rw [hlast, hold.1]
    exact ⟨phase', rfl⟩
  · rw [hobjects, hfilters.1, hfilters.2]
    exact h.filters
  · intro d hd
    rw [hdeps] at hd
    rw [hobjects]
    exact h.asked_filters d hd
  · intro r hr
    rw [hlast, Option.some.injEq] at hr
    rw [← hr]
    exact hshown

/-- The callback of an answer. -/
theorem respond (h : ListInv limit s) {q : Query} (hi : s.requests[i]? = some ⟨q, .waiting⟩)
    (o : ListOutcome T) : ListInv limit
      (if s.newest i then (s.setPhase i (.answered o)).take o else s.setPhase i (.answered o)) := by
  by_cases hnew : s.newest i = true
  · rw [if_pos hnew]
    obtain ⟨hloading, herror⟩ := h.shown _ (ListHook.getLast?_of_newest hi hnew)
    have hshows : ((s.setPhase i (.answered o)).take o).Shows o :=
      ListHook.shows_take (s := s.setPhase i (.answered o)) herror o
    cases o with
    | resolved rows pagination =>
      exact h.advance hi hnew rfl rfl ⟨rfl, rfl⟩ rfl ⟨hloading, hshows⟩
    | rejected message => exact h.advance hi hnew rfl rfl ⟨rfl, rfl⟩ rfl ⟨hloading, hshows⟩
  · rw [if_neg hnew]
    exact h.setPhase hi hnew _

/-- The callback of `finally`. -/
theorem finish (h : ListInv limit s) {q : Query} (hi : s.requests[i]? = some ⟨q, .answered o⟩) :
    ListInv limit (if s.newest i then { s.setPhase i (.finished o) with loading := false }
      else s.setPhase i (.finished o)) := by
  by_cases hnew : s.newest i = true
  · rw [if_pos hnew]
    obtain ⟨-, hshows⟩ := h.shown _ (ListHook.getLast?_of_newest hi hnew)
    exact h.advance hi hnew rfl rfl ⟨rfl, rfl⟩ rfl ⟨rfl, hshows.congr rfl rfl rfl⟩
  · rw [if_neg hnew]
    exact h.setPhase hi hnew _

/-- **Every step keeps it.** -/
theorem step (h : ListInv limit s) (hs : s.step limit a = some s') : ListInv limit s' := by
  cases a with
  | setPage page =>
    obtain rfl := Option.some.inj hs
    exact h.handler rfl rfl (.of_eq rfl) h.filters ⟨rfl, rfl, rfl, rfl⟩
  | setFilter patch =>
    obtain rfl := Option.some.inj hs
    exact h.handler rfl rfl (ListHook.kept_adopt s _) (ListHook.adopt_filters s _)
      ⟨rfl, rfl, rfl, rfl⟩
  | resetFilters next =>
    obtain ⟨r, hr, rfl⟩ := Option.map_eq_some_iff.mp hs
    cases next with
    | again ref =>
      obtain ⟨filters, href, rfl⟩ := Option.map_eq_some_iff.mp hr
      exact h.handler rfl rfl (.of_eq rfl) href ⟨rfl, rfl, rfl, rfl⟩
    | other filters =>
      obtain rfl := Option.some.inj hr
      exact h.handler rfl rfl (ListHook.kept_adopt s _) (ListHook.adopt_filters s _)
        ⟨rfl, rfl, rfl, rfl⟩
  | setSearchInput value =>
    obtain rfl := Option.some.inj hs
    exact h.handler rfl rfl (.of_eq rfl) h.filters ⟨rfl, rfl, rfl, rfl⟩
  | refetch =>
    obtain rfl := Option.some.inj hs
    exact h.handler rfl rfl (.of_eq rfl) h.filters ⟨rfl, rfl, rfl, rfl⟩
  | commit =>
    obtain rfl := Option.some.inj hs
    exact h.debounce.fetch
  | timeout =>
    obtain ⟨v, -, rfl⟩ := Option.map_eq_some_iff.mp hs
    exact h.handler rfl rfl (.of_eq rfl) h.filters ⟨rfl, rfl, rfl, rfl⟩
  | respond i o =>
    simp only [ListHook.step] at hs
    split at hs
    · next q hi =>
      obtain rfl := Option.some.inj hs
      exact h.respond hi o
    · exact absurd hs (by simp)
  | finish i =>
    simp only [ListHook.step] at hs
    split at hs
    · next q o hi =>
      obtain rfl := Option.some.inj hs
      exact h.finish hi
    · exact absurd hs (by simp)

end ListInv

/-! ## The search box -/

/-- Text that is typed again before a commit is not the one whose search a reset has just taken
back: the effect would not see a change. -/
def Apart (s : ListHook T) (a : ListAct T) : Prop :=
  ∀ v, a = .setSearchInput v → s.input = some v → s.timer = none → s.search = v

instance decidableApart (s : ListHook T) : (a : ListAct T) → Decidable (Apart s a)
  | .setSearchInput v => decidable_of_iff
      (s.input = some v → s.timer = none → s.search = v) (by simp [Apart])
  | .setPage _ | .setFilter _ | .resetFilters _ | .refetch | .commit | .timeout | .respond _ _
  | .finish _ => isTrue fun _ h => nomatch h

/-- A pending timer will commit what the effect has seen, and without one that is committed. -/
structure Aligned (s : ListHook T) : Prop where
  timer : ∀ v, s.timer = some v → s.input = some v
  search : s.input = some s.searchInput → s.timer = none → s.search = s.searchInput

namespace Aligned

theorem mount (initialFilters : Query) : Aligned (ListHook.mount initialFilters : ListHook T) :=
  ⟨fun v h => absurd h (by simp [ListHook.mount]), fun _ _ => rfl⟩

/-- The two effects see to it. -/
theorem commit (h : Aligned s) : Aligned (s.debounce.fetch limit) := by
  have hdebounce : Aligned s.debounce := by
    unfold ListHook.debounce
    split
    · exact h
    · refine ⟨?_, fun _ hnone => absurd hnone (by simp)⟩
      intro v hv
      exact hv
  unfold ListHook.fetch
  split
  · exact hdebounce
  · exact ⟨hdebounce.timer, hdebounce.search⟩

theorem step (h : Aligned s) (hapart : Apart s a) (hs : s.step limit a = some s') :
    Aligned s' := by
  cases a with
  | setPage page =>
    obtain rfl := Option.some.inj hs
    exact ⟨h.timer, h.search⟩
  | setFilter patch =>
    obtain rfl := Option.some.inj hs
    exact ⟨h.timer, h.search⟩
  | resetFilters next =>
    obtain ⟨r, hr, rfl⟩ := Option.map_eq_some_iff.mp hs
    have htimer : r.timer = s.timer ∧ r.input = s.input := by
      cases next with
      | again ref =>
        obtain ⟨filters, -, rfl⟩ := Option.map_eq_some_iff.mp hr
        exact ⟨rfl, rfl⟩
      | other filters =>
        obtain rfl := Option.some.inj hr
        exact ⟨rfl, rfl⟩
    refine ⟨?_, fun _ _ => rfl⟩
    show ∀ v, r.timer = some v → r.input = some v
    rw [htimer.1, htimer.2]
    exact h.timer
  | setSearchInput value =>
    obtain rfl := Option.some.inj hs
    exact ⟨h.timer, fun hinput htimer => hapart value rfl hinput htimer⟩
  | refetch =>
    obtain rfl := Option.some.inj hs
    exact ⟨h.timer, h.search⟩
  | commit =>
    obtain rfl := Option.some.inj hs
    exact h.commit
  | timeout =>
    obtain ⟨v, hv, rfl⟩ := Option.map_eq_some_iff.mp hs
    refine ⟨fun w hw => absurd hw (by simp), fun hinput _ => ?_⟩
    exact Option.some.inj ((h.timer v hv).symm.trans hinput)
  | respond i o =>
    simp only [ListHook.step] at hs
    split at hs
    · obtain rfl := Option.some.inj hs
      split
      · cases o <;> exact ⟨h.timer, h.search⟩
      · exact ⟨h.timer, h.search⟩
    · exact absurd hs (by simp)
  | finish i =>
    simp only [ListHook.step] at hs
    split at hs
    · obtain rfl := Option.some.inj hs
      split <;> exact ⟨h.timer, h.search⟩
    · exact absurd hs (by simp)

end Aligned

/-! ## Convergence -/

/-- Nothing is pending: the effects have seen the present state, no timer runs and the newest
request is through. -/
structure ListHook.Settled (s : ListHook T) : Prop where
  input : s.input = some s.searchInput
  deps : ∃ d, s.deps = some d ∧ d.same s.current = true
  timer : s.timer = none
  finished : ∃ q o, s.requests.getLast? = some ⟨q, .finished o⟩

theorem Deps.same_iff {d d' : Deps} : d.same d' = true ↔
    d.filtersRef = d'.filtersRef ∧ d.search = d'.search ∧ d.page = d'.page ∧ d.tick = d'.tick := by
  simp only [Deps.same, Bool.and_eq_true, beq_iff_eq, and_assoc]

theorem list_inv (h : (serverList T limit).Reachable s) : ListInv limit s := by
  refine h.invariant (P := ListInv limit) ?_ fun r a r' hr hs => hr.step hs
  rintro r ⟨initialFilters, rfl⟩
  exact ListInv.mount initialFilters

/-- **What is shown is what is asked for.**  In every run, whatever order answers come in: while
nothing is loading, the list is the answer to the newest request; and when nothing is pending, that
request asked for the present page, filters and text of the search box. -/
theorem list_converges {s₀ : ListHook T} {acts : List (ListAct T)}
    (h₀ : (serverList T limit).init s₀) (hrun : (serverList T limit).run s₀ acts = some s) :
    (s.loading = false → ∃ q o, s.requests.getLast? = some ⟨q, .finished o⟩ ∧ s.Shows o) ∧
      ((serverList T limit).AllSteps Apart s₀ acts → s.Settled → s.loading = false ∧
        ∃ o, s.requests.getLast? = some ⟨ListHook.query limit
          { s.current with search := s.searchInput }, .finished o⟩ ∧ s.Shows o) := by
  have hinv := list_inv (System.Reachable.of_init h₀ |>.run hrun)
  refine ⟨?_, ?_⟩
  · intro hloading
    cases hdeps : s.deps with
    | none => exact absurd ((hinv.unmounted hdeps).2.symm.trans hloading) (by simp)
    | some d =>
      obtain ⟨phase, hlast⟩ := hinv.asked d hdeps
      have hagrees := hinv.shown _ hlast
      cases phase with
      | waiting => exact absurd (hagrees.1.symm.trans hloading) (by simp)
      | answered o => exact absurd (hagrees.1.symm.trans hloading) (by simp)
      | finished o => exact ⟨_, o, hlast, hagrees.2⟩
  · intro hapart hsettled
    have haligned : Aligned s := by
      refine hapart.invariant (P := Aligned) hrun (fun r a r' hr ha hs => hr.step ha hs) ?_
      obtain ⟨initialFilters, rfl⟩ := h₀
      exact Aligned.mount initialFilters
    obtain ⟨q, o, hlast⟩ := hsettled.finished
    obtain ⟨d, hdeps, hsame⟩ := hsettled.deps
    obtain ⟨hloading, hshows⟩ := hinv.shown _ hlast
    obtain ⟨phase, hasked⟩ := hinv.asked d hdeps
    rw [hlast, Option.some.injEq, Request.mk.injEq] at hasked
    obtain ⟨href, hsearch, hpage, -⟩ := Deps.same_iff.mp hsame
    have hfilters : d.filters = s.filters := by
      have hplace := hinv.asked_filters d hdeps
      rw [href] at hplace
      exact Option.some.inj (hplace.symm.trans hinv.filters)
    have hbox : s.search = s.searchInput := haligned.search hsettled.input hsettled.timer
    refine ⟨hloading, o, ?_, hshows⟩
    have hquery : ListHook.query limit d =
        ListHook.query limit { s.current with search := s.searchInput } := by
      show ListHook.query limit ⟨d.filtersRef, d.filters, d.search, d.page, d.tick⟩ = _
      rw [hfilters, hsearch, hpage, show s.current.search = s.searchInput from hbox]
      rfl
    rw [hlast, hasked.1, hquery]

/-- What needs nobody at the page: commits, the timer and the callbacks of the newest request. -/
def ListAct.Internal (s : ListHook T) : ListAct T → Prop
  | .commit | .timeout => True
  | .respond i _ | .finish i => s.newest i = true
  | _ => False

/-- Such steps lead from `s` to `t`. -/
def ListLeads (limit : ℤ) : ListHook T → ListHook T → Prop :=
  Relation.ReflTransGen fun s t => ∃ a : ListAct T, a.Internal s ∧
    (serverList T limit).step s a = some t

theorem ListLeads.of_step {t : ListHook T} (h : (serverList T limit).step s a = some t)
    (ha : a.Internal s) : ListLeads limit s t :=
  Relation.ReflTransGen.single ⟨a, ha, h⟩

/-- The first page is on its way when text is typed, which waits for its timer. -/
def listTyping : List (ListAct ℕ) := [.commit, .setSearchInput "jos", .commit]

/-- The timer fires, and the first request is answered last, before its callback of `finally`. -/
def listTyped : List (ListAct ℕ) :=
  listTyping ++ [.timeout, .commit, .respond 1 (.resolved (some [7]) none), .finish 1,
    .respond 0 (.resolved (some [1, 2, 3]) none), .finish 0]

theorem listTyped_runs :
    ((serverList ℕ 20).run (ListHook.mount []) listTyped).isSome = true := by
  decide +kernel

/-- Where all is answered. -/
def listShown : ListHook ℕ :=
  ((serverList ℕ 20).run (ListHook.mount []) listTyped).get listTyped_runs

theorem listMount : (serverList ℕ 20).init (ListHook.mount []) := ⟨[], rfl⟩

theorem list_converges_typed : listShown.items = [7] ∧
    (∃ q o, listShown.requests.getLast? = some ⟨q, .finished o⟩ ∧ listShown.Shows o) ∧
    (serverList ℕ 20).AllSteps Apart (ListHook.mount []) listTyped ∧ listShown.Settled ∧
    listShown.loading = false ∧ ∃ o, listShown.requests.getLast? = some ⟨ListHook.query 20
        { listShown.current with search := listShown.searchInput }, .finished o⟩ ∧
        listShown.Shows o := by
  have happ : (serverList ℕ 20).AllSteps Apart (ListHook.mount []) listTyped := by decide +kernel
  have hsettled : listShown.Settled := by
    refine ⟨by decide +kernel, ?_, by decide +kernel, ?_⟩
    · exact ⟨listShown.deps.get (by decide +kernel), (Option.some_get _).symm, by decide +kernel⟩
    · exact ⟨[("search", .text "jos"), ("page", .number 1), ("limit", .number 20)],
        .resolved (some [7]) none, by decide +kernel⟩
  have hconverges := list_converges listMount (Option.some_get listTyped_runs).symm
  exact ⟨by decide +kernel, hconverges.1 (by decide +kernel), happ, hsettled,
    hconverges.2 happ hsettled⟩

end Frontend
end TransHub
