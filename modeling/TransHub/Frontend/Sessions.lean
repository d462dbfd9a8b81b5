import TransHub.Frontend.Caches

/-!
# Tickets and their owners

A device that several users log in to, one after the other.  Two runs that differ only in the
answers of the server to one user's requests for tickets are told apart by nobody else, as long
as no lookup finds what another user's request has stored.

* `Job.ofUser`, `Twins`: the jobs that may differ, and the two runs.
* `Alike`: what the two runs have in common.
* `tickets_stay_apart`: the jobs of everybody else are the same.
* `tickets_nextUser`: what a lookup finds otherwise.
-/

namespace TransHub
namespace ServiceWorker

variable {β υ : Type} {origin : String} {d d' : Device β υ} {l : Job β υ} {f : FetchEvent υ}

/-- The URL of tickets, as a page or of the API. -/
def isTicketUrl (origin : String) (u : Url) : Prop :=
  ∃ n, home origin u = some n ∧ n ≠ staticCache

/-- A request of `A` for tickets. -/
def Job.ofUser (origin : String) (A : υ) (l : Job β υ) : Prop :=
  ∃ f, l.event? = some f ∧ f.user = some A ∧ isTicketUrl origin f.request.url

/-- Before `a`: when a job looks up tickets, it does not find an entry that another user's request
has stored. -/
def OwnEntries (origin : String) (c : Config (Device β υ) (Job β υ)) :
    Act Wake (Settled β) (Session υ) → Prop
  | .run i _ => ∀ f, c.procs[i]? = some (.matching f) ∨ c.procs[i]? = some (.falling f) →
      isTicketUrl origin f.request.url →
        ∀ e, c.shared.caches.lookup f.request.url = some e → e.owner = f.user
  | .spawn _ | .env _ => True

/-- Two runs from the same state whose moves are the same, but for those of the requests of `A`
for tickets; all moves of both are of the class `ok`. -/
inductive Twins (origin : String) (A : υ)
    (ok : Config (Device β υ) (Job β υ) → Act Wake (Settled β) (Session υ) → Prop) :
    Config (Device β υ) (Job β υ) → Config (Device β υ) (Job β υ) → Prop where
  | start (u : Option υ) : Twins origin A ok ⟨⟨[], u⟩, []⟩ ⟨⟨[], u⟩, []⟩
  | both {c c' m m' : Config (Device β υ) (Job β υ)} {a : Act Wake (Settled β) (Session υ)}
      (twins : Twins origin A ok c c') (first : ok c a) (second : ok c' a)
      (move : (worker β υ origin).next c a = some m)
      (move' : (worker β υ origin).next c' a = some m') : Twins origin A ok m m'
  | first {c c' m : Config (Device β υ) (Job β υ)} {i : ℕ} {x : Settled β} {l : Job β υ}
      (twins : Twins origin A ok c c') (first : ok c (.run i x)) (job : c.procs[i]? = some l)
      (user : l.ofUser origin A) (move : (worker β υ origin).next c (.run i x) = some m) :
      Twins origin A ok m c'
  | second {c c' m' : Config (Device β υ) (Job β υ)} {i : ℕ} {x : Settled β} {l : Job β υ}
      (twins : Twins origin A ok c c') (second : ok c' (.run i x)) (job : c'.procs[i]? = some l)
      (user : l.ofUser origin A) (move' : (worker β υ origin).next c' (.run i x) = some m') :
      Twins origin A ok c m'

variable {A : υ} {ok : Config (Device β υ) (Job β υ) → Act Wake (Settled β) (Session υ) → Prop}
  {c c' m m' : Config (Device β υ) (Job β υ)}

theorem Twins.reachable (h : Twins origin A ok c c') :
    (working β υ origin).Reachable c ∧ (working β υ origin).Reachable c' := by
  induction h with
  | start u => exact ⟨.of_init ⟨rfl, rfl⟩, .of_init ⟨rfl, rfl⟩⟩
  | both _ _ _ move move' ih => exact ⟨ih.1.step move, ih.2.step move'⟩
  | first _ _ _ _ move ih => exact ⟨ih.1.step (a := .run _ _) move, ih.2⟩
  | second _ _ _ _ move' ih => exact ⟨ih.1, ih.2.step (a := .run _ _) move'⟩

/-! ## What a step changes -/

theorem Stocked.lookup_put (h : Stocked origin d) {n : String} {e : CacheEntry β υ}
    (hn : n ∈ d.caches.names) (hkept : Kept origin n e.request) :
    (d.caches.put n e.request.url e).lookup e.request.url = some e := by
  refine CacheStorage.lookup_put_self hn ?_
  intro n' e' hholds
  obtain ⟨hurl, hkept'⟩ := h.kept n' _ e' hholds
  have hhome : home origin e.request.url = some n' := hurl ▸ hkept'.home
  exact Option.some.inj (hhome.symm.trans hkept.home)

theorem Job.event_matched {o : Option (CacheEntry β υ)} : (matched origin f o).event? = some f := by
  unfold matched
  split <;> rfl

theorem Job.event_arrived {r : Response β} : (arrived origin f r : Job β υ).event? = some f := by
  unfold arrived
  repeat' split
  all_goals rfl

theorem Job.event_unreachable : (unreachable origin f : Job β υ).event? = some f := by
  unfold unreachable
  split <;> rfl

theorem Job.event_fellBack {o : Option (CacheEntry β υ)} :
    (fellBack origin f o).event? = some f := by
  unfold fellBack
  split <;> rfl

theorem Job.event_unopened {given : Option (Answer β υ)} :
    (unopened origin f given).event? = some f := by
  unfold unopened
  split <;> rfl

/-- A fetch event stays what it is, and changes at most the entry of its URL. -/
theorem Job.event_step {l' : Job β υ} {x : Settled β} (hd : Stocked origin d)
    (hl : Fair origin d l) (hf : l.event? = some f) (hs : l.step origin d x = some (l', d')) :
    l'.event? = some f ∧ d'.user = d.user ∧
      ∀ u, d'.caches.lookup u = d.caches.lookup u ∨
        (u = f.request.url ∧ ∃ r, d'.caches.lookup u = some ⟨f.request, r, f.user⟩) := by
  cases l with
  | matching g =>
    cases hf
    cases x <;> cases hs
    · exact ⟨event_matched, rfl, fun _ => Or.inl rfl⟩
    · exact ⟨rfl, rfl, fun _ => Or.inl rfl⟩
  | fetching g =>
    cases hf
    cases x <;> cases hs
    · exact ⟨event_arrived, rfl, fun _ => Or.inl rfl⟩
    · exact ⟨event_unreachable, rfl, fun _ => Or.inl rfl⟩
  | falling g =>
    cases hf
    cases x <;> cases hs
    · exact ⟨event_fellBack, rfl, fun _ => Or.inl rfl⟩
    · exact ⟨rfl, rfl, fun _ => Or.inl rfl⟩
  | refreshing g e =>
    cases hf
    cases x <;> cases hs
    · refine ⟨?_, rfl, fun _ => Or.inl rfl⟩
      split <;> rfl
    · exact ⟨rfl, rfl, fun _ => Or.inl rfl⟩
  | opening g r given =>
    cases hf
    cases x with
    | response r' => cases hs
    | rejected =>
      cases hs
      exact ⟨event_unopened, rfl, fun _ => Or.inl rfl⟩
    | fulfilled =>
      obtain ⟨n, hn, heq⟩ := Option.map_eq_some_iff.mp hs
      cases heq
      exact ⟨rfl, rfl, fun _ => Or.inl CacheStorage.lookup_openCache⟩
  | storing g r a =>
    cases hf
    obtain ⟨⟨n, hmem, hn⟩, -⟩ := hl
    cases x with
    | response r' => cases hs
    | rejected =>
      cases hs
      exact ⟨rfl, rfl, fun _ => Or.inl rfl⟩
    | fulfilled =>
      obtain ⟨n', hn', heq⟩ := Option.map_eq_some_iff.mp hs
      obtain rfl : n = n' := Option.some.inj (hn.symm.trans hn')
      cases heq
      refine ⟨rfl, rfl, ?_⟩
      intro u
      by_cases hu : u = f.request.url
      · subst hu
        exact Or.inr ⟨rfl, r, hd.lookup_put (e := ⟨f.request, r, f.user⟩) hmem (Or.inl hn)⟩
      · exact Or.inl (CacheStorage.lookup_put_ne hu)
  | answered g a => cases x <;> cases hs
  | arriving q => cases hf
  | installing path => cases hf
  | precaching path => cases hf
  | keeping path r => cases hf
  | installed => cases hf
  | activating => cases hf
  | deleting names => cases hf
  | activated => cases hf

/-- The same entry is put in two runs. -/
theorem Stocked.lookup_put_both (h : Stocked origin d) (h' : Stocked origin d') {n : String}
    {e : CacheEntry β υ} (hn : n ∈ d.caches.names) (hn' : n ∈ d'.caches.names)
    (hkept : Kept origin n e.request) (u : Url) :
    (d.caches.put n e.request.url e).lookup u = (d'.caches.put n e.request.url e).lookup u ∨
      ((d.caches.put n e.request.url e).lookup u = d.caches.lookup u ∧
        (d'.caches.put n e.request.url e).lookup u = d'.caches.lookup u) := by
  by_cases hu : u = e.request.url
  · subst hu
    exact Or.inl ((h.lookup_put hn hkept).trans (h'.lookup_put hn' hkept).symm)
  · exact Or.inr ⟨CacheStorage.lookup_put_ne hu, CacheStorage.lookup_put_ne hu⟩

/-- **The same step in two runs.**  It leads to the same job when its lookup finds the same, and
writes the same entry in both or none in either. -/
theorem Job.same_step {e e' : Device β υ} {l₁ l₂ : Job β υ} {x : Settled β}
    (hd : Stocked origin d) (hl : Fair origin d l) (hd' : Stocked origin d')
    (hl' : Fair origin d' l) (huser : d.user = d'.user)
    (hlookup : ∀ f, l = .matching f ∨ l = .falling f →
      d.caches.lookup f.request.url = d'.caches.lookup f.request.url)
    (hs : l.step origin d x = some (l₁, e)) (hs' : l.step origin d' x = some (l₂, e')) :
    l₁ = l₂ ∧ e.user = e'.user ∧ ∀ u, e.caches.lookup u = e'.caches.lookup u ∨
      (e.caches.lookup u = d.caches.lookup u ∧ e'.caches.lookup u = d'.caches.lookup u) := by
  have hframe : d.user = d'.user ∧ ∀ u, d.caches.lookup u = d'.caches.lookup u ∨
      (d.caches.lookup u = d.caches.lookup u ∧ d'.caches.lookup u = d'.caches.lookup u) :=
    ⟨huser, fun _ => Or.inr ⟨rfl, rfl⟩⟩
  cases l with
  | arriving q =>
    cases x with
    | response r => cases hs
    | rejected => cases hs
    | fulfilled =>
      cases hs
      cases hs'
      exact ⟨by rw [huser], hframe⟩
  | matching f =>
    have hfound := hlookup f (Or.inl rfl)
    cases x <;> cases hs <;> cases hs'
    · exact ⟨by rw [hfound], hframe⟩
    · exact ⟨rfl, hframe⟩
  | falling f =>
    have hfound := hlookup f (Or.inr rfl)
    cases x <;> cases hs <;> cases hs'
    · exact ⟨by rw [hfound], hframe⟩
    · exact ⟨rfl, hframe⟩
  | fetching f => cases x <;> cases hs <;> cases hs' <;> exact ⟨rfl, hframe⟩
  | refreshing f c => cases x <;> cases hs <;> cases hs' <;> exact ⟨rfl, hframe⟩
  | opening f r given =>
    cases x with
    | response r' => cases hs
    | rejected =>
      cases hs
      cases hs'
      exact ⟨rfl, hframe⟩
    | fulfilled =>
      obtain ⟨n, hn, heq⟩ := Option.map_eq_some_iff.mp hs
      obtain ⟨n', hn', heq'⟩ := Option.map_eq_some_iff.mp hs'
      cases heq
      cases heq'
      exact ⟨rfl, huser, fun _ =>
        Or.inr ⟨CacheStorage.lookup_openCache, CacheStorage.lookup_openCache⟩⟩
  | storing f r a =>
    obtain ⟨⟨n, hmem, hn⟩, -⟩ := hl
    obtain ⟨⟨n', hmem', hn'⟩, -⟩ := hl'
    obtain rfl : n = n' := Option.some.inj (hn.symm.trans hn')
    cases x with
    | response r' => cases hs
    | rejected =>
      cases hs
      cases hs'
      exact ⟨rfl, hframe⟩
    | fulfilled =>
      simp only [step, hn, Option.map_some, Option.some.injEq, Prod.mk.injEq] at hs hs'
      obtain ⟨rfl, rfl⟩ := hs
      obtain ⟨rfl, rfl⟩ := hs'
      exact ⟨rfl, huser, hd.lookup_put_both hd' (e := ⟨f.request, r, f.user⟩) hmem hmem'
        (Or.inl hn)⟩
  | answered f a => cases x <;> cases hs
  | installing path =>
    cases x <;> cases hs <;> cases hs'
    · exact ⟨rfl, huser, fun _ =>
        Or.inr ⟨CacheStorage.lookup_openCache, CacheStorage.lookup_openCache⟩⟩
    · exact ⟨rfl, hframe⟩
  | precaching path => cases x <;> cases hs <;> cases hs' <;> exact ⟨rfl, hframe⟩
  | keeping path r =>
    cases x <;> cases hs <;> cases hs'
    · exact ⟨rfl, huser, hd.lookup_put_both hd' (e := ⟨precacheRequest origin path, r, none⟩)
        hl hl' (Or.inr ⟨rfl, path, rfl⟩)⟩
    · exact ⟨rfl, hframe⟩
  | installed => cases x <;> cases hs
  | activating =>
    have hfair := (hl.step hd hs).2.1
    have hfair' := (hl'.step hd' hs').2.1
    cases x <;> cases hs <;> cases hs'
    · exact ⟨congrArg Job.deleting (Eq.trans hfair (Eq.symm hfair')), hframe⟩
    · exact ⟨rfl, hframe⟩
  | deleting names =>
    obtain rfl : names = [] := hl
    cases x with
    | response r => cases hs
    | rejected => cases hs
    | fulfilled =>
      cases hs
      cases hs'
      exact ⟨rfl, hframe⟩
  | activated => cases x <;> cases hs

/-! ## Two runs -/

/-- An entry that a request of `A` has stored. -/
def StoredBy (A : υ) (o : Option (CacheEntry β υ)) : Prop := ∃ e, o = some e ∧ e.owner = some A

/-- What two runs have in common: they differ in the tickets of `A` alone. -/
structure Alike (origin : String) (A : υ) (c c' : Config (Device β υ) (Job β υ)) : Prop where
  user : c.shared.user = c'.shared.user
  entries : ∀ u, c.shared.caches.lookup u = c'.shared.caches.lookup u ∨
    (isTicketUrl origin u ∧ (StoredBy A (c.shared.caches.lookup u) ∨
      StoredBy A (c'.shared.caches.lookup u)))
  length : c.procs.length = c'.procs.length
  jobs : ∀ (i : ℕ) (l l' : Job β υ), c.procs[i]? = some l → c'.procs[i]? = some l' →
    l = l' ∨ (l.ofUser origin A ∧ l'.ofUser origin A)

theorem Alike.symm (h : Alike origin A c c') : Alike origin A c' c where
  user := h.user.symm
  entries u := by
    rcases h.entries u with heq | ⟨hticket, hby⟩
    · exact Or.inl heq.symm
    · exact Or.inr ⟨hticket, hby.symm⟩
  length := h.length.symm
  jobs i l l' hl hl' := by
    rcases h.jobs i l' l hl' hl with heq | ⟨hof, hof'⟩
    · exact Or.inl heq.symm
    · exact Or.inr ⟨hof', hof⟩

/-- A job at the same place in the other run. -/
theorem Alike.job (h : Alike origin A c c') {i : ℕ} (hl : c.procs[i]? = some l) :
    ∃ l', c'.procs[i]? = some l' := by
  obtain ⟨hlt, -⟩ := List.getElem?_eq_some_iff.mp hl
  rw [h.length] at hlt
  exact ⟨_, List.getElem?_eq_getElem hlt⟩

/-- A request of `A` for tickets moves in one of the runs. -/
theorem Alike.first (h : Alike origin A c c') (hc : (working β υ origin).Reachable c) {i : ℕ}
    {x : Settled β} (hl : c.procs[i]? = some l) (hof : l.ofUser origin A)
    (hm : (worker β υ origin).next c (.run i x) = some m) : Alike origin A m c' := by
  obtain ⟨hstocked, hfair⟩ := working_asserts hc
  obtain ⟨l', r', hs, rfl, -⟩ := Machine.step_of_next_run hl hm
  obtain ⟨f, hf, huser, hticket⟩ := hof
  obtain ⟨hf', huser', hlookup⟩ :=
    Job.event_step hstocked (hfair l (List.mem_of_getElem? hl)) hf hs
  refine ⟨huser'.trans h.user, ?_, ?_, ?_⟩
  · intro u
    dsimp only
    rcases hlookup u with hsame | ⟨rfl, r, hput⟩
    · rw [hsame]
      exact h.entries u
    · exact Or.inr ⟨hticket, Or.inl ⟨_, hput, huser⟩⟩
  · rw [List.length_set]
    exact h.length
  · intro j k k' hk hk'
    rcases Machine.getElem?_set_cases hl hk with ⟨rfl, rfl⟩ | ⟨-, hk⟩
    · refine Or.inr ⟨⟨f, hf', huser, hticket⟩, ?_⟩
      rcases h.jobs j l k' hl hk' with rfl | ⟨-, hof'⟩
      · exact ⟨f, hf, huser, hticket⟩
      · exact hof'
    · exact h.jobs j k k' hk hk'

/-- A job of somebody else looks up the same in both runs. -/
theorem Alike.lookup_eq (h : Alike origin A c c') {i : ℕ} (hl : c.procs[i]? = some l)
    (hl' : c'.procs[i]? = some l) (hof : ¬ l.ofUser origin A) {x : Settled β}
    (hown : OwnEntries origin c (.run i x)) (hown' : OwnEntries origin c' (.run i x))
    (hf : l = .matching f ∨ l = .falling f) :
    c.shared.caches.lookup f.request.url = c'.shared.caches.lookup f.request.url := by
  rcases h.entries f.request.url with heq | ⟨hticket, hby⟩
  · exact heq
  · have hevent : l.event? = some f := by rcases hf with rfl | rfl <;> rfl
    have hother : f.user ≠ some A := fun hu => hof ⟨f, hevent, hu, hticket⟩
    have hat : c.procs[i]? = some (.matching f) ∨ c.procs[i]? = some (.falling f) := by
      rcases hf with rfl | rfl
      · exact Or.inl hl
      · exact Or.inr hl
    have hat' : c'.procs[i]? = some (.matching f) ∨ c'.procs[i]? = some (.falling f) := by
      rcases hf with rfl | rfl
      · exact Or.inl hl'
      · exact Or.inr hl'
    rcases hby with ⟨e, he, hA⟩ | ⟨e, he, hA⟩
    · exact absurd ((hown f hat hticket e he).symm.trans hA) hother
    · exact absurd ((hown' f hat' hticket e he).symm.trans hA) hother

/-- Both runs make the same move. -/
theorem Alike.both (h : Alike origin A c c') (hc : (working β υ origin).Reachable c)
    (hc' : (working β υ origin).Reachable c') {a : Act Wake (Settled β) (Session υ)}
    (hown : OwnEntries origin c a) (hown' : OwnEntries origin c' a)
    (hm : (worker β υ origin).next c a = some m)
    (hm' : (worker β υ origin).next c' a = some m') : Alike origin A m m' := by
  cases a with
  | spawn w =>
    cases hm
    cases hm'
    refine ⟨h.user, h.entries, ?_, ?_⟩
    · rw [List.length_append, List.length_append, h.length]
    · intro i l l' hl hl'
      rcases Machine.getElem?_snoc_cases hl with ⟨hi, rfl⟩ | hl
      · rw [hi, h.length, List.getElem?_concat_length] at hl'
        exact Or.inl (Option.some.inj hl')
      · obtain ⟨k, hk⟩ := h.job hl
        obtain ⟨hlt, -⟩ := List.getElem?_eq_some_iff.mp hk
        rw [List.getElem?_append_left hlt] at hl'
        exact h.jobs i l l' hl hl'
  | env e =>
    obtain ⟨d, hd, rfl⟩ := Machine.next_env.mp hm
    obtain ⟨d', hd', rfl⟩ := Machine.next_env.mp hm'
    cases e with
    | login u =>
      cases hd
      cases hd'
      exact ⟨rfl, h.entries, h.length, h.jobs⟩
    | logout =>
      cases hd
      cases hd'
      exact ⟨rfl, h.entries, h.length, h.jobs⟩
  | run i x =>
    obtain ⟨l, l₁, r, hi, hs, heq⟩ := Machine.next_run.mp hm
    obtain ⟨l', l₂, r', hi', hs', heq'⟩ := Machine.next_run.mp hm'
    by_cases hof : l.ofUser origin A
    · -- each run moves a request of `A`
      have hof' : l'.ofUser origin A := by
        rcases h.jobs i l l' hi hi' with rfl | ⟨-, hof'⟩
        · exact hof
        · exact hof'
      exact ((h.first hc hi hof hm).symm.first hc' hi' hof' hm').symm
    · have hsame : l = l' := (h.jobs i l l' hi hi').resolve_right fun hboth => hof hboth.1
      subst hsame
      obtain ⟨hstocked, hfair⟩ := working_asserts hc
      obtain ⟨hstocked', hfair'⟩ := working_asserts hc'
      obtain ⟨rfl, huser, hentries⟩ := Job.same_step hstocked (hfair l (List.mem_of_getElem? hi))
        hstocked' (hfair' l (List.mem_of_getElem? hi')) h.user
        (fun f hf => h.lookup_eq hi hi' hof hown hown' hf) hs hs'
      subst heq
      subst heq'
      refine ⟨huser, ?_, ?_, ?_⟩
      · intro u
        rcases hentries u with heq | ⟨hold, hold'⟩
        · exact Or.inl heq
        · dsimp only
          rw [hold, hold']
          exact h.entries u
      · rw [List.length_set, List.length_set]
        exact h.length
      · intro j k k' hk hk'
        rcases Machine.getElem?_set_cases hi hk with ⟨rfl, rfl⟩ | ⟨hne, hk⟩
        · rcases Machine.getElem?_set_cases hi' hk' with ⟨-, rfl⟩ | ⟨hne, -⟩
          · exact Or.inl rfl
          · exact absurd rfl hne
        · rcases Machine.getElem?_set_cases hi' hk' with ⟨heq, -⟩ | ⟨-, hk'⟩
          · exact absurd heq hne
          · exact h.jobs j k k' hk hk'

theorem Twins.alike (h : Twins origin A (OwnEntries origin) c c') : Alike origin A c c' := by
  induction h with
  | start u =>
    refine ⟨rfl, fun _ => Or.inl rfl, rfl, ?_⟩
    intro i l l' hl hl'
    exact Or.inl (Option.some.inj (hl.symm.trans hl'))
  | both twins hown hown' hm hm' ih =>
    exact ih.both twins.reachable.1 twins.reachable.2 hown hown' hm hm'
  | first twins _ hl hof hm ih => exact ih.first twins.reachable.1 hl hof hm
  | second twins _ hl hof hm ih => exact (ih.symm.first twins.reachable.2 hl hof hm).symm

/-- In two runs that differ only in the answers of the server to requests of `A` for tickets, and
in which no lookup of tickets finds what another user's request has stored, every request that
`A` has not made is the same job, with the same answer. -/
theorem tickets_stay_apart (h : Twins origin A (OwnEntries origin) c c') {i : ℕ}
    (hl : c.procs[i]? = some l) (hf : l.event? = some f) (hA : f.user ≠ some A) :
    ∃ l', c'.procs[i]? = some l' ∧ l'.event? = some f ∧ l'.answer? = l.answer? := by
  obtain ⟨l', hl'⟩ := h.alike.job hl
  rcases h.alike.jobs i l l' hl hl' with rfl | ⟨⟨g, hg, huser, -⟩, -⟩
  · exact ⟨l, hl', hf, rfl⟩
  · obtain rfl : f = g := Option.some.inj (hf.symm.trans hg)
    exact absurd huser hA

/-! ## The next user of a device -/

/-- `GET /tickets` of the API. -/
def ticketList : Request := ⟨"GET", ⟨"https://api.transhub.example", "/tickets", ""⟩, .cors⟩

/-- `GET /tickets/:id` of the API. -/
def ticketDetail : Request := ⟨"GET", ⟨"https://api.transhub.example", "/tickets/7", ""⟩, .cors⟩

/-- User `1` has asked for tickets, which came with this body, and has logged out; user `2` has
logged in. -/
def nextUser (body : ℕ) : Config (Device ℕ ℕ) (Job ℕ ℕ) where
  shared :=
    { caches := [⟨apiTickets, [(ticketList.url, ⟨ticketList, ⟨200, body⟩, some 1⟩)]⟩]
      user := some 2 }
  procs := [.answered ⟨ticketList, some 1⟩ (.network ⟨200, body⟩)]

theorem Twins.mono
    {ok' : Config (Device β υ) (Job β υ) → Act Wake (Settled β) (Session υ) → Prop}
    (h : Twins origin A ok c c') (hok : ∀ c a, ok c a → ok' c a) : Twins origin A ok' c c' := by
  induction h with
  | start u => exact .start u
  | both _ h₁ h₂ hm hm' ih => exact ih.both (hok _ _ h₁) (hok _ _ h₂) hm hm'
  | first _ h₁ hl hof hm ih => exact ih.first (hok _ _ h₁) hl hof hm
  | second _ h₂ hl hof hm ih => exact ih.second (hok _ _ h₂) hl hof hm

theorem twins_nextUser :
    Twins "https://transhub.example" 1 (OwnEntries "https://transhub.example") (nextUser 10)
      (nextUser 11) := by
  have h₀ : Twins "https://transhub.example" 1 (OwnEntries "https://transhub.example")
      (⟨⟨[], none⟩, []⟩ : Config (Device ℕ ℕ) (Job ℕ ℕ)) ⟨⟨[], none⟩, []⟩ := .start none
  have h₁ := h₀.both (a := .env (.login 1)) trivial trivial rfl rfl
  have h₂ := h₁.both (a := .spawn (.fetch ticketList)) trivial trivial rfl rfl
  have h₃ := h₂.both (a := .run 0 .fulfilled)
    (by rintro f (hf | hf) <;> cases hf) (by rintro f (hf | hf) <;> cases hf) rfl rfl
  -- the caches are empty
  have h₄ := h₃.both (a := .run 0 .fulfilled)
    (by rintro f (hf | hf) _ e he <;> cases hf; cases he)
    (by rintro f (hf | hf) _ e he <;> cases hf; cases he) rfl rfl
  have hof : Job.ofUser "https://transhub.example" 1 (.fetching ⟨ticketList, some 1⟩ : Job ℕ ℕ) :=
    ⟨_, rfl, rfl, apiTickets, by decide, by decide⟩
  have h₅ := h₄.first (i := 0) (x := .response ⟨200, 10⟩)
    (by rintro f (hf | hf) <;> cases hf) rfl hof rfl
  have h₆ := h₅.second (i := 0) (x := .response ⟨200, 11⟩)
    (by rintro f (hf | hf) <;> cases hf) rfl hof rfl
  have h₇ := h₆.both (a := .run 0 .fulfilled)
    (by rintro f (hf | hf) <;> cases hf) (by rintro f (hf | hf) <;> cases hf) rfl rfl
  have h₈ := h₇.both (a := .run 0 .fulfilled)
    (by rintro f (hf | hf) <;> cases hf) (by rintro f (hf | hf) <;> cases hf) rfl rfl
  have h₉ := h₈.both (a := .env .logout) trivial trivial rfl rfl
  exact h₉.both (a := .env (.login 2)) trivial trivial rfl rfl

/-- User `2` asks for another ticket, in both runs alike. -/
theorem tickets_stay_apart_otherTicket : ∃ c c' : Config (Device ℕ ℕ) (Job ℕ ℕ),
    Twins "https://transhub.example" 1 (OwnEntries "https://transhub.example") c c' ∧
    c.procs[1]? = some (.storing ⟨ticketDetail, some 2⟩ ⟨200, 5⟩ (.network ⟨200, 5⟩)) ∧
    ∃ l', c'.procs[1]? = some l' ∧ l'.event? = some ⟨ticketDetail, some 2⟩ ∧
      l'.answer? = some (.network ⟨200, 5⟩) := by
  have h₁ := twins_nextUser.both (a := .spawn (.fetch ticketDetail)) trivial trivial rfl rfl
  have h₂ := h₁.both (a := .run 1 .fulfilled)
    (by rintro f (hf | hf) <;> cases hf) (by rintro f (hf | hf) <;> cases hf) rfl rfl
  -- the caches have other tickets only
  have h₃ := h₂.both (a := .run 1 .fulfilled)
    (by rintro f (hf | hf) _ e he <;> cases hf; cases he)
    (by rintro f (hf | hf) _ e he <;> cases hf; cases he) rfl rfl
  have h₄ := h₃.both (a := .run 1 (.response ⟨200, 5⟩))
    (by rintro f (hf | hf) <;> cases hf) (by rintro f (hf | hf) <;> cases hf) rfl rfl
  have h₅ := h₄.both (a := .run 1 .fulfilled)
    (by rintro f (hf | hf) <;> cases hf) (by rintro f (hf | hf) <;> cases hf) rfl rfl
  exact ⟨_, _, h₅, rfl,
    tickets_stay_apart h₅ (i := 1) (f := ⟨ticketDetail, some 2⟩) rfl rfl (by decide)⟩

/-- User `2` asks for the same tickets as user `1`, and gets theirs: the lookup finds what the
request of user `1` has stored. -/
theorem tickets_nextUser : ∃ c c' : Config (Device ℕ ℕ) (Job ℕ ℕ),
    Twins "https://transhub.example" 1 (fun _ _ => True) c c' ∧ ∃ l l' f,
      c.procs[1]? = some l ∧ c'.procs[1]? = some l' ∧ l.event? = some f ∧ f.user = some 2 ∧
      f.request = ticketList ∧ l.answer? ≠ l'.answer? := by
  have h₀ : Twins "https://transhub.example" 1 (fun _ _ => True) (nextUser 10) (nextUser 11) :=
    twins_nextUser.mono fun _ _ _ => trivial
  have h₁ := h₀.both (a := .spawn (.fetch ticketList)) trivial trivial rfl rfl
  have h₂ := h₁.both (a := .run 1 .fulfilled) trivial trivial rfl rfl
  have h₃ := h₂.both (a := .run 1 .fulfilled) trivial trivial rfl rfl
  exact ⟨_, _, h₃, _, _, _, rfl, rfl, rfl, rfl, rfl, by decide⟩

end ServiceWorker
end TransHub
