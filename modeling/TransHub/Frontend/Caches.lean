import TransHub.Frontend.ServiceWorker

/-!
# What the service worker keeps

* `home`: the one cache that may have a URL.
* `Kept`: what a cache may store, and `Stocked`: all caches store such requests only.
* `Fair`: what a job knows of its request and of the answer it has given.
* `caches_hold_no_inventory`: what is stored, and which requests are never answered from a cache.
-/

namespace TransHub
namespace ServiceWorker

variable {β υ : Type} {origin : String}

/-! ## Where a URL is stored -/

/-- `/tickets` and `/tickets/:id`. -/
def isTicketPath (pathname : String) : Bool := pathname == "/tickets" || ticketDetailRe pathname

theorem ne_root_of_isTicketPath {pathname : String} (h : isTicketPath pathname = true) :
    pathname ≠ "/" := by
  rintro rfl
  revert h
  decide

/-- The cache that may have a URL. -/
def home (origin : String) (u : Url) : Option String :=
  if u.origin ≠ origin then
    if isTicketPath u.pathname then some apiTickets else none
  else if isStaticAsset u.pathname ∨ u.pathname = "/" then some staticCache
  else if u.pathname = "/tickets" then some pageTicketList
  else if ticketDetailRe u.pathname then some pageTicketDetail
  else none

theorem isTicketPath_iff {pathname : String} :
    isTicketPath pathname = true ↔ pathname = "/tickets" ∨ ticketDetailRe pathname = true := by
  rw [isTicketPath, Bool.or_eq_true, beq_iff_eq]

theorem home_of_page {u : Url} (horigin : ¬ u.origin ≠ origin)
    (hstatic : ¬ isStaticAsset u.pathname = true) (hticket : isTicketPath u.pathname = true) :
    home origin u =
      if u.pathname = "/tickets" then some pageTicketList else some pageTicketDetail := by
  have hne : ¬ (isStaticAsset u.pathname = true ∨ u.pathname = "/") := by
    rintro (hs | hroot)
    · exact hstatic hs
    · exact ne_root_of_isTicketPath hticket hroot
  rw [home, if_neg horigin, if_neg hne]
  by_cases hlist : u.pathname = "/tickets"
  · rw [if_pos hlist, if_pos hlist]
  · have hdetail := (isTicketPath_iff.mp hticket).resolve_left hlist
    rw [if_neg hlist, if_neg hlist, if_pos hdetail]

/-- **What a strategy can write.**  Tickets of the API, static assets, or ticket pages. -/
theorem route_cases {q : Request} {n : String} (h : (route origin q).cacheName = some n) :
    q.method = "GET" ∧
      ((q.url.origin ≠ origin ∧ isTicketPath q.url.pathname = true ∧ n = apiTickets) ∨
      (q.url.origin = origin ∧ isStaticAsset q.url.pathname = true ∧ n = staticCache) ∨
      (q.url.origin = origin ∧ ¬ isStaticAsset q.url.pathname = true ∧ q.mode = .navigate ∧
        isTicketPath q.url.pathname = true ∧
        n = if q.url.pathname = "/tickets" then pageTicketList else pageTicketDetail)) := by
  rw [route] at h
  split at h
  · cases h
  · next hget =>
    refine ⟨not_not.mp hget, ?_⟩
    split at h
    · next hcross =>
      refine Or.inl ⟨hcross, ?_⟩
      split at h
      · next hlist =>
        cases h
        exact ⟨isTicketPath_iff.mpr (Or.inl hlist), rfl⟩
      · split at h
        · next hdetail =>
          cases h
          exact ⟨isTicketPath_iff.mpr (Or.inr hdetail), rfl⟩
        · cases h
    · next hsame =>
      refine Or.inr ?_
      split at h
      · next hstatic =>
        cases h
        exact Or.inl ⟨not_not.mp hsame, hstatic, rfl⟩
      · next hstatic =>
        split at h
        · next hmode =>
          refine Or.inr ⟨not_not.mp hsame, hstatic, hmode, ?_⟩
          split at h
          · next hlist =>
            cases h
            exact ⟨isTicketPath_iff.mpr (Or.inl hlist), (if_pos hlist).symm⟩
          · next hlist =>
            split at h
            · next hdetail =>
              cases h
              exact ⟨isTicketPath_iff.mpr (Or.inr hdetail), (if_neg hlist).symm⟩
            · cases h
        · cases h

/-- What a strategy writes is in the cache that may have the URL. -/
theorem home_of_route {q : Request} {n : String} (h : (route origin q).cacheName = some n) :
    home origin q.url = some n := by
  obtain ⟨-, ⟨hcross, hticket, rfl⟩ | ⟨hsame, hstatic, rfl⟩ |
    ⟨hsame, hstatic, -, hticket, rfl⟩⟩ := route_cases h
  · rw [home, if_pos hcross, if_pos hticket]
  · rw [home, if_neg (not_not_intro hsame), if_pos (Or.inl hstatic)]
  · rw [home_of_page (not_not_intro hsame) hstatic hticket]
    split <;> rfl

/-- What `install` stores is in the cache that may have the URL. -/
theorem home_of_precache (path : { path // path ∈ precache }) :
    home origin (Job.precacheRequest origin path).url = some staticCache := by
  obtain ⟨path, hpath⟩ := path
  have hstatic : isStaticAsset path = true ∨ path = "/" := by
    rcases List.mem_cons.mp hpath with rfl | hpath
    · exact Or.inr rfl
    · rw [List.mem_singleton.mp hpath]
      decide
  have hsame : (Job.precacheRequest origin path).url.origin = origin := rfl
  rw [home, if_neg (not_not_intro hsame)]
  exact if_pos hstatic

/-- The requests that a cache stores. -/
def Kept (origin : String) (n : String) (q : Request) : Prop :=
  (route origin q).cacheName = some n ∨
    (n = staticCache ∧ ∃ path : { path // path ∈ precache }, q = Job.precacheRequest origin path)

theorem Kept.home {q : Request} {n : String} (h : Kept origin n q) :
    home origin q.url = some n := by
  rcases h with h | ⟨rfl, path, rfl⟩
  · exact home_of_route h
  · exact home_of_precache path

theorem mem_knownCaches_of_home {u : Url} {n : String} (h : home origin u = some n) :
    n ∈ knownCaches := by
  rw [ServiceWorker.home] at h
  split_ifs at h <;> cases h <;> decide

/-! ## The caches -/

/-- Every cache is one of the worker's and stores what may be in it. -/
structure Stocked (origin : String) (d : Device β υ) : Prop where
  kept : ∀ n k e, d.caches.Holds n k e → k = e.request.url ∧ Kept origin n e.request
  known : ∀ n ∈ d.caches.names, n ∈ knownCaches

variable {d d' : Device β υ}

theorem Stocked.openCache (h : Stocked origin d) {n : String} (hn : n ∈ knownCaches) :
    Stocked origin { d with caches := d.caches.openCache n } where
  kept n' k e he := h.kept n' k e (CacheStorage.holds_openCache he)
  known n' hn' := by
    rcases CacheStorage.mem_names_openCache.mp hn' with hold | rfl
    · exact h.known n' hold
    · exact hn

theorem Stocked.put (h : Stocked origin d) {n : String} {e : CacheEntry β υ}
    (hkept : Kept origin n e.request) :
    Stocked origin { d with caches := d.caches.put n e.request.url e } where
  kept n' k e' he := by
    rcases CacheStorage.holds_put he with hold | ⟨rfl, rfl, rfl⟩
    · exact h.kept n' k e' hold
    · exact ⟨rfl, hkept⟩
  known n' hn' := by
    rw [CacheStorage.names_put] at hn'
    exact h.known n' hn'

/-! ## Answers from a cache -/

/-- An answer to `f` from a cache: the entry is for that URL and may be stored. -/
structure Served (origin : String) (f : FetchEvent υ) (e : CacheEntry β υ) : Prop where
  routed : route origin f.request ≠ .passThrough
  url : e.request.url = f.request.url
  kept : ∃ n, Kept origin n e.request

theorem Stocked.served (h : Stocked origin d) {f : FetchEvent υ}
    (hrouted : route origin f.request ≠ .passThrough) {e : CacheEntry β υ}
    (he : d.caches.lookup f.request.url = some e) : Served origin f e := by
  obtain ⟨n, hholds⟩ := CacheStorage.holds_of_lookup he
  obtain ⟨hurl, hkept⟩ := h.kept n _ e hholds
  exact ⟨hrouted, hurl.symm, n, hkept⟩

/-- An answer that is served from a cache only where it may be. -/
def FairAnswer (origin : String) (f : FetchEvent υ) (a : Answer β υ) : Prop :=
  ∀ e, a = .cached e → Served origin f e

theorem fairAnswer_cached {f : FetchEvent υ} {e : CacheEntry β υ} (h : Served origin f e) :
    FairAnswer origin f (.cached e) := by
  intro e' he
  cases he
  exact h

/-- What a job knows: that its request is routed, that the cache it writes to is there, and where
its answer comes from. -/
def Fair (origin : String) (d : Device β υ) : Job β υ → Prop
  | .matching f | .falling f => route origin f.request ≠ .passThrough
  | .refreshing f e => Served origin f e
  | .opening f _ given =>
      route origin f.request ≠ .passThrough ∧ ∀ a, given = some a → FairAnswer origin f a
  | .storing f _ a =>
      (∃ n ∈ d.caches.names, (route origin f.request).cacheName = some n) ∧ FairAnswer origin f a
  | .answered f a => FairAnswer origin f a
  | .precaching _ | .keeping _ _ => staticCache ∈ d.caches.names
  | .deleting names => names = []
  | .arriving _ | .fetching _ | .installing _ | .installed | .activating | .activated => True

/-- A job knows no less when there are more caches. -/
theorem Fair.mono {l : Job β υ} (h : Fair origin d l)
    (hnames : ∀ n ∈ d.caches.names, n ∈ d'.caches.names) : Fair origin d' l := by
  cases l with
  | storing f r a =>
    obtain ⟨⟨n, hn, hname⟩, hanswer⟩ := h
    exact ⟨⟨n, hnames n hn, hname⟩, hanswer⟩
  | precaching path => exact hnames _ h
  | keeping path r => exact hnames _ h
  | arriving q => exact h
  | matching f => exact h
  | fetching f => exact h
  | falling f => exact h
  | refreshing f e => exact h
  | opening f r given => exact h
  | answered f a => exact h
  | installing path => exact h
  | installed => exact h
  | activating => exact h
  | deleting names => exact h
  | activated => exact h

variable {f : FetchEvent υ}

theorem fair_begin : Fair origin d (.begin origin f) := by
  cases hroute : route origin f.request with
  | cacheFirst n =>
    rw [Job.begin, hroute]
    exact ne_of_eq_of_ne hroute (by simp)
  | staleWhileRevalidate n =>
    rw [Job.begin, hroute]
    exact ne_of_eq_of_ne hroute (by simp)
  | passThrough =>
    rw [Job.begin, hroute]
    trivial
  | networkFirst n =>
    rw [Job.begin, hroute]
    trivial
  | navigationFallback =>
    rw [Job.begin, hroute]
    trivial
  | networkOrCache =>
    rw [Job.begin, hroute]
    trivial

theorem fair_matched (h : Stocked origin d) (hrouted : route origin f.request ≠ .passThrough) :
    Fair origin d (.matched origin f (d.caches.lookup f.request.url)) := by
  unfold Job.matched
  split
  · next he _ => exact h.served hrouted he
  · next he _ => exact fairAnswer_cached (h.served hrouted he)
  · trivial

theorem fairAnswer_failed : FairAnswer origin f (.failed : Answer β υ) := by
  intro e he
  cases he

theorem fairAnswer_network {r : Response β} : FairAnswer origin f (.network r) := by
  intro e he
  cases he

theorem fair_arrived {r : Response β} : Fair origin d (.arrived origin f r) := by
  unfold Job.arrived
  split
  · next hroute =>
    split
    · refine ⟨ne_of_eq_of_ne hroute (by simp), ?_⟩
      intro a ha
      cases ha
    · exact fairAnswer_network
  · next hroute =>
    split
    · refine ⟨ne_of_eq_of_ne hroute (by simp), ?_⟩
      intro a ha
      cases ha
    · exact fairAnswer_network
  · next hroute =>
    split
    · refine ⟨ne_of_eq_of_ne hroute (by simp), ?_⟩
      intro a ha
      cases ha
      exact fairAnswer_network
    · exact fairAnswer_network
  · exact fairAnswer_network
  · exact fairAnswer_network
  · exact fairAnswer_network

theorem fair_unreachable : Fair origin d (.unreachable origin f) := by
  unfold Job.unreachable
  split
  · exact fun e he => by cases he
  · exact fun e he => by cases he
  · exact fun e he => by cases he
  · next hroute => exact ne_of_eq_of_ne hroute (by simp)
  · next hroute => exact ne_of_eq_of_ne hroute (by simp)
  · next hroute => exact ne_of_eq_of_ne hroute (by simp)

theorem fair_fellBack (h : Stocked origin d) (hrouted : route origin f.request ≠ .passThrough) :
    Fair origin d (.fellBack origin f (d.caches.lookup f.request.url)) := by
  unfold Job.fellBack
  split
  · next he => exact fairAnswer_cached (h.served hrouted he)
  · exact fun e he => by cases he
  · exact fun e he => by cases he
  · exact fun e he => by cases he

theorem fair_unopened {given : Option (Answer β υ)} (hrouted : route origin f.request ≠ .passThrough)
    (hgiven : ∀ a, given = some a → FairAnswer origin f a) :
    Fair origin d (.unopened origin f given) := by
  unfold Job.unopened
  split
  · next hsome _ => exact hgiven _ rfl
  · exact hrouted
  · exact fun e he => by cases he

/-! ## Steps -/

/-- **One step of a job** keeps what the caches store, what the job knows and every cache. -/
theorem Fair.step {l l' : Job β υ} {x : Settled β} (hl : Fair origin d l) (hd : Stocked origin d)
    (hs : l.step origin d x = some (l', d')) :
    Stocked origin d' ∧ Fair origin d' l' ∧ ∀ n ∈ d.caches.names, n ∈ d'.caches.names := by
  have hopen : ∀ n m, m ∈ d.caches.names → m ∈ (d.caches.openCache n).names :=
    fun n m hm => CacheStorage.mem_names_openCache.mpr (Or.inl hm)
  have hput : ∀ n k e m, m ∈ d.caches.names → m ∈ (d.caches.put n k e).names := by
    intro n k e m hm
    rw [CacheStorage.names_put]
    exact hm
  cases l with
  | arriving q =>
    cases x <;> cases hs
    exact ⟨hd, fair_begin, fun _ hn => hn⟩
  | matching f =>
    cases x <;> cases hs
    · exact ⟨hd, fair_matched hd hl, fun _ hn => hn⟩
    · exact ⟨hd, fairAnswer_failed, fun _ hn => hn⟩
  | fetching f =>
    cases x <;> cases hs
    · exact ⟨hd, fair_arrived, fun _ hn => hn⟩
    · exact ⟨hd, fair_unreachable, fun _ hn => hn⟩
  | falling f =>
    cases x <;> cases hs
    · exact ⟨hd, fair_fellBack hd hl, fun _ hn => hn⟩
    · exact ⟨hd, fairAnswer_failed, fun _ hn => hn⟩
  | refreshing f e =>
    have hcached : FairAnswer origin f (.cached e) := fairAnswer_cached hl
    cases x with
    | fulfilled => cases hs
    | rejected =>
      cases hs
      exact ⟨hd, hcached, fun _ hn => hn⟩
    | response r =>
      cases hs
      refine ⟨hd, ?_, fun _ hn => hn⟩
      split
      · refine ⟨hl.routed, ?_⟩
        intro a ha
        cases ha
        exact hcached
      · exact hcached
  | opening f r given =>
    obtain ⟨hrouted, hgiven⟩ := hl
    cases x with
    | response r => cases hs
    | rejected =>
      cases hs
      exact ⟨hd, fair_unopened hrouted hgiven, fun _ hn => hn⟩
    | fulfilled =>
      obtain ⟨n, hn, heq⟩ := Option.map_eq_some_iff.mp hs
      cases heq
      refine ⟨hd.openCache (mem_knownCaches_of_home (home_of_route hn)), ⟨?_, ?_⟩, hopen n⟩
      · exact ⟨n, CacheStorage.mem_names_openCache.mpr (Or.inr rfl), hn⟩
      · cases given with
        | none => exact fairAnswer_network
        | some a => exact hgiven a rfl
  | storing f r a =>
    obtain ⟨-, hanswer⟩ := hl
    cases x with
    | response r => cases hs
    | rejected =>
      cases hs
      exact ⟨hd, hanswer, fun _ hn => hn⟩
    | fulfilled =>
      obtain ⟨n, hn, heq⟩ := Option.map_eq_some_iff.mp hs
      cases heq
      exact ⟨hd.put (e := ⟨f.request, r, f.user⟩) (Or.inl hn), hanswer, hput n _ _⟩
  | answered f a => cases x <;> cases hs
  | installing path =>
    cases x with
    | response r => cases hs
    | rejected =>
      cases hs
      exact ⟨hd, trivial, fun _ hn => hn⟩
    | fulfilled =>
      cases hs
      exact ⟨hd.openCache (by decide), CacheStorage.mem_names_openCache.mpr (Or.inr rfl),
        hopen staticCache⟩
  | precaching path =>
    cases x with
    | fulfilled => cases hs
    | rejected =>
      cases hs
      exact ⟨hd, trivial, fun _ hn => hn⟩
    | response r =>
      cases hs
      refine ⟨hd, ?_, fun _ hn => hn⟩
      split
      · exact hl
      · trivial
  | keeping path r =>
    cases x with
    | response r => cases hs
    | rejected =>
      cases hs
      exact ⟨hd, trivial, fun _ hn => hn⟩
    | fulfilled =>
      cases hs
      exact ⟨hd.put (e := ⟨Job.precacheRequest origin path, r, none⟩)
        (Or.inr ⟨rfl, path, rfl⟩), trivial, hput staticCache _ _⟩
  | installed => cases x <;> cases hs
  | activating =>
    cases x with
    | response r => cases hs
    | rejected =>
      cases hs
      exact ⟨hd, trivial, fun _ hn => hn⟩
    | fulfilled =>
      cases hs
      refine ⟨hd, ?_, fun _ hn => hn⟩
      show d.caches.names.filter (fun k => !knownCaches.contains k) = []
      rw [List.filter_eq_nil_iff]
      intro k hk
      simp [hd.known k hk]
  | deleting names =>
    obtain rfl : names = [] := hl
    cases x <;> cases hs
    exact ⟨hd, trivial, fun _ hn => hn⟩
  | activated => cases x <;> cases hs

theorem Stocked.env (h : Stocked origin d) {e : Session υ} (he : d.env e = some d') :
    Stocked origin d' ∧ d'.caches = d.caches := by
  cases e with
  | login u =>
    cases he
    exact ⟨⟨h.kept, h.known⟩, rfl⟩
  | logout =>
    cases he
    exact ⟨⟨h.kept, h.known⟩, rfl⟩

/-- The proof outline of the worker. -/
theorem worker_outline : (worker β υ origin).Outline (fun _ => True) (fun d => d.caches = [])
    (fun _ d => Stocked origin d) (fun _ l d => Fair origin d l) where
  init d hd := by
    refine ⟨?_, ?_⟩
    · rintro n k e ⟨c, hc, -⟩
      rw [hd] at hc
      cases hc
    · intro n hn
      rw [hd] at hn
      cases hn
  spawn _ _ _ _ hd := hd
  start _ w _ _ _ := by cases w <;> trivial
  shared _ _ _ _ _ _ _ _ _ hd hl hs := (hl.step hd hs).1
  self _ _ _ _ _ _ _ _ _ hd hl hs := (hl.step hd hs).2.1
  other _ _ _ _ _ _ _ _ _ _ _ _ hd hl hm hs := hm.mono (hl.step hd hs).2.2
  env_shared _ _ _ _ _ hd he := (hd.env he).1
  env_other _ _ _ _ _ _ _ hd hm he := hm.mono fun n hn => by rwa [(hd.env he).2]

theorem working_asserts {c : Config (Device β υ) (Job β υ)}
    (h : (working β υ origin).Reachable c) :
    Stocked origin c.shared ∧ ∀ l ∈ c.procs, Fair origin c.shared l := by
  obtain ⟨hd, hl⟩ := worker_outline.invariant h.by_any
  refine ⟨hd, ?_⟩
  intro l hmem
  obtain ⟨i, hi⟩ := List.mem_iff_getElem?.mp hmem
  exact hl i l hi

/-! ## Inventory and money -/

/-- The requests that the caches store. -/
inductive StoredRequest (origin : String) (q : Request) : Prop where
  | root (url : q.url = ⟨origin, "/", ""⟩)
  | manifest (url : q.url = ⟨origin, "/manifest.json", ""⟩)
  | asset (same : q.url.origin = origin) (path : isStaticAsset q.url.pathname = true)
  | page (same : q.url.origin = origin) (mode : q.mode = .navigate)
      (path : isTicketPath q.url.pathname = true)
  | api (cross : q.url.origin ≠ origin) (method : q.method = "GET")
      (path : isTicketPath q.url.pathname = true)

/-- What a strategy writes. -/
theorem storedRequest_of_route {q : Request} {n : String}
    (h : (route origin q).cacheName = some n) : StoredRequest origin q := by
  obtain ⟨hget, ⟨hcross, hticket, -⟩ | ⟨hsame, hstatic, -⟩ | ⟨hsame, -, hmode, hticket, -⟩⟩ :=
    route_cases h
  · exact .api hcross hget hticket
  · exact .asset hsame hstatic
  · exact .page hsame hmode hticket

theorem Kept.stored {q : Request} {n : String} (h : Kept origin n q) : StoredRequest origin q := by
  rcases h with h | ⟨-, ⟨path, hpath⟩, rfl⟩
  · exact storedRequest_of_route h
  · rcases List.mem_cons.mp hpath with rfl | hpath
    · exact .root rfl
    · cases List.mem_singleton.mp hpath
      exact .manifest rfl

/-- Where the API serves inventory, bookings and payments. -/
def inventoryPaths : List String := ["/trips", "/search", "/bookings", "/payments"]

/-- The requests that are never answered from a cache. -/
inductive Uncached (origin : String) (q : Request) : Prop where
  | mutation (method : q.method ≠ "GET")
  | inventory (cross : q.url.origin ≠ origin)
      (path : ∃ p ∈ inventoryPaths, p.toList <+: q.url.pathname.toList)
  | api (cross : q.url.origin ≠ origin) (path : isTicketPath q.url.pathname = false)
  | navigation (mode : q.mode = .navigate) (root : q.url.pathname ≠ "/")
      (asset : isStaticAsset q.url.pathname = false) (path : isTicketPath q.url.pathname = false)

theorem startsWith_tickets {pathname : String} (h : isTicketPath pathname = true) :
    "/tickets".toList <+: pathname.toList := by
  rcases isTicketPath_iff.mp h with rfl | h
  · exact List.prefix_refl _
  · rw [ticketDetailRe, Bool.and_eq_true, Bool.and_eq_true, List.isPrefixOf_iff_prefix] at h
    exact List.IsPrefix.trans (by decide) h.1.1

theorem isTicketPath_of_inventory {pathname p : String} (hp : p ∈ inventoryPaths)
    (h : p.toList <+: pathname.toList) : isTicketPath pathname = false := by
  rw [← Bool.not_eq_true]
  intro hticket
  have hneither : ∀ p ∈ inventoryPaths, ¬ p.toList <+: "/tickets".toList ∧
      ¬ "/tickets".toList <+: p.toList := by decide
  rcases List.prefix_or_prefix_of_prefix h (startsWith_tickets hticket) with hle | hle
  · exact (hneither p hp).1 hle
  · exact (hneither p hp).2 hle

/-- A request that is answered from a cache has a home. -/
theorem Served.home {f : FetchEvent υ} {e : CacheEntry β υ} (h : Served origin f e) :
    ∃ n, home origin f.request.url = some n := by
  obtain ⟨n, hkept⟩ := h.kept
  exact ⟨n, h.url ▸ hkept.home⟩

theorem Served.not_uncached {f : FetchEvent υ} {e : CacheEntry β υ} (h : Served origin f e) :
    ¬ Uncached origin f.request := by
  obtain ⟨n, hhome⟩ := h.home
  have hcross : f.request.url.origin ≠ origin → isTicketPath f.request.url.pathname = true := by
    intro hne
    rw [ServiceWorker.home, if_pos hne] at hhome
    by_contra hticket
    rw [if_neg hticket] at hhome
    cases hhome
  rintro (hmethod | ⟨hne, p, hp, hbegins⟩ | ⟨hne, hpath⟩ | ⟨-, hroot, hasset, hpath⟩)
  · exact h.routed (by rw [route, if_pos hmethod])
  · rw [isTicketPath_of_inventory hp hbegins] at hcross
    exact absurd (hcross hne) (by decide)
  · rw [hpath] at hcross
    exact absurd (hcross hne) (by decide)
  · rw [hpath] at hcross
    have hsame : ¬ f.request.url.origin ≠ origin := fun hne => absurd (hcross hne) (by decide)
    have hticket : ¬ f.request.url.pathname = "/tickets" ∧
        ¬ ticketDetailRe f.request.url.pathname = true := by
      refine ⟨fun hlist => ?_, fun hdetail => ?_⟩
      · rw [isTicketPath_iff.mpr (Or.inl hlist)] at hpath
        cases hpath
      · rw [isTicketPath_iff.mpr (Or.inr hdetail)] at hpath
        cases hpath
    rw [ServiceWorker.home, if_neg hsame, if_neg (by simp [hasset, hroot]), if_neg hticket.1,
      if_neg hticket.2] at hhome
    cases hhome

/-- Where a fair job has its answer from. -/
theorem Fair.served {l : Job β υ} (h : Fair origin d l) {f : FetchEvent υ} {e : CacheEntry β υ}
    (hf : l.event? = some f) (he : l.answer? = some (.cached e)) : Served origin f e := by
  cases l with
  | refreshing g e' =>
    cases hf
    cases he
    exact h
  | opening g r given =>
    cases hf
    exact h.2 _ he e rfl
  | storing g r a =>
    cases hf
    cases he
    exact h.2 e rfl
  | answered g a =>
    cases hf
    cases he
    exact h e rfl
  | matching g => cases he
  | fetching g => cases he
  | falling g => cases he
  | arriving q => cases he
  | installing path => cases he
  | precaching path => cases he
  | keeping path r => cases he
  | installed => cases he
  | activating => cases he
  | deleting names => cases he
  | activated => cases he

/-- In every run of the worker the caches store `/`, the manifest, static assets, navigations to
the ticket pages and requests for tickets, and no mutation, no other request to the API and no
other navigation than to `/`, a static asset or a ticket page is answered from a cache. -/
theorem caches_hold_no_inventory {c : Config (Device β υ) (Job β υ)}
    (h : (working β υ origin).Reachable c) :
    (∀ n k e, c.shared.caches.Holds n k e → k = e.request.url ∧ StoredRequest origin e.request) ∧
    ∀ l ∈ c.procs, ∀ f, l.event? = some f → Uncached origin f.request →
      ∀ e, l.answer? ≠ some (.cached e) := by
  obtain ⟨hstocked, hfair⟩ := working_asserts h
  refine ⟨?_, ?_⟩
  · intro n k e hholds
    obtain ⟨hurl, hkept⟩ := hstocked.kept n k e hholds
    exact ⟨hurl, hkept.stored⟩
  · intro l hl f hf huncached e he
    exact ((hfair l hl).served hf he).not_uncached huncached

/-- The root is precached; then trips are searched without a connection. -/
def offlineSearch : List (Act Wake (Settled ℕ) (Session ℕ)) :=
  [.spawn (.install ⟨"/", List.mem_cons_self⟩), .run 0 .fulfilled, .run 0 (.response ⟨200, 1⟩),
    .run 0 .fulfilled,
    .spawn (.fetch ⟨"GET", ⟨"https://api.transhub.example", "/trips/search", ""⟩, .cors⟩),
    .run 1 .fulfilled, .run 1 .rejected]

theorem caches_hold_no_inventory_offlineSearch :
    ∃ c, (working ℕ ℕ "https://transhub.example").run ⟨⟨[], none⟩, []⟩ offlineSearch = some c ∧
      c.procs.map Job.answer? = [none, some .failed] ∧
      (∀ n k e, c.shared.caches.Holds n k e →
        k = e.request.url ∧ StoredRequest "https://transhub.example" e.request) ∧
      ∀ l ∈ c.procs, ∀ f, l.event? = some f → Uncached "https://transhub.example" f.request →
        ∀ e, l.answer? ≠ some (.cached e) := by
  have hrun : ∃ c, (working ℕ ℕ "https://transhub.example").run ⟨⟨[], none⟩, []⟩ offlineSearch =
      some c ∧ c.procs.map Job.answer? = [none, some .failed] := ⟨_, rfl, by decide⟩
  obtain ⟨c, hc, hanswers⟩ := hrun
  exact ⟨c, hc, hanswers, caches_hold_no_inventory ⟨_, ⟨rfl, rfl⟩, offlineSearch, hc⟩⟩

/-! ## An image in a tab of its own -/

/-- A navigation to an icon. -/
def iconInTab : Request :=
  ⟨"GET", ⟨"https://transhub.example", "/icons/icon-192x192.png", ""⟩, .navigate⟩

/-- The icon is opened twice. -/
def openedTwice : List (Act Wake (Settled ℕ) (Session ℕ)) :=
  [.spawn (.fetch iconInTab), .run 0 .fulfilled, .run 0 .fulfilled, .run 0 (.response ⟨200, 1⟩),
    .run 0 .fulfilled, .run 0 .fulfilled, .spawn (.fetch iconInTab), .run 1 .fulfilled,
    .run 1 .fulfilled]

/-- A static asset is answered from its cache when it is navigated to, too. -/
theorem navigation_iconInTab :
    ∃ c, (working ℕ ℕ "https://transhub.example").Reachable c ∧ ∃ l ∈ c.procs, ∃ f e,
      l.event? = some f ∧ f.request.mode = .navigate ∧ f.request.url.pathname ≠ "/" ∧
      isTicketPath f.request.url.pathname = false ∧ l.answer? = some (.cached e) := by
  have hrun : ∃ c, (working ℕ ℕ "https://transhub.example").run ⟨⟨[], none⟩, []⟩ openedTwice =
      some c ∧ Job.answered ⟨iconInTab, none⟩ (.cached ⟨iconInTab, ⟨200, 1⟩, none⟩) ∈ c.procs :=
    ⟨_, rfl, by decide⟩
  obtain ⟨c, hc, hl⟩ := hrun
  exact ⟨c, ⟨_, ⟨rfl, rfl⟩, openedTwice, hc⟩, _, hl, _, _, rfl, rfl, by decide, by decide, rfl⟩

end ServiceWorker
end TransHub
