import TransHub.Foundation.CacheStorage
import TransHub.Foundation.Machine

/-!
# The service worker

`public/sw.js`: the strategies by which a fetch event is answered, and what `install` and
`activate` do to the caches.  Each operation that is awaited is a step of its own, and may reject.

* `Request`, `Response`, `CacheEntry`.
* `route`: the strategy for a request.
* `Job.step`: the next step of a fetch event, of the precaching of one item or of an activation.
* `worker`: any number of them on one device, with users that log in and out.
-/

namespace TransHub
namespace ServiceWorker

/-! ## Requests and responses -/

/-- `URL`, without its fragment. -/
structure Url where
  origin : String
  pathname : String
  search : String
  deriving DecidableEq

inductive RequestMode where
  | navigate
  | sameOrigin
  | noCors
  | cors
  deriving DecidableEq

structure Request where
  method : String
  url : Url
  mode : RequestMode
  deriving DecidableEq

structure Response (β : Type) where
  status : ℕ
  body : β
  deriving DecidableEq

/-- `response.ok`. -/
def Response.ok {β : Type} (r : Response β) : Bool := decide (200 ≤ r.status ∧ r.status ≤ 299)

/-- What a cache stores: the request, the response and, for the record, the user whose request it
was. -/
structure CacheEntry (β υ : Type) where
  request : Request
  response : Response β
  owner : Option υ
  deriving DecidableEq

/-! ## Routing -/

/-- `STATIC_CACHE`. -/
def staticCache : String := "transhub-static-v4"

/-- `PAGE_TICKET_LIST`. -/
def pageTicketList : String := "tickets-list"

/-- `PAGE_TICKET_DETAIL`. -/
def pageTicketDetail : String := "tickets-detail"

/-- `API_TICKETS`. -/
def apiTickets : String := "tickets-api"

/-- `KNOWN_CACHES`. -/
def knownCaches : List String := [staticCache, pageTicketList, pageTicketDetail, apiTickets]

/-- `PRECACHE`. -/
def precache : List String := ["/", "/manifest.json"]

/-- `/^\/tickets\/[^/]+$/`. -/
def ticketDetailRe (pathname : String) : Bool :=
  "/tickets/".toList.isPrefixOf pathname.toList &&
    !(pathname.toList.drop 9).isEmpty && (pathname.toList.drop 9).all (· ≠ '/')

/-- The extensions of `STATIC_ASSET_RE`. -/
def extensions : List String :=
  [".js", ".css", ".woff", ".woff2", ".ttf", ".png", ".jpg", ".jpeg", ".svg", ".gif", ".ico",
    ".webp"]

/-- `STATIC_ASSET_RE`. -/
def staticAssetRe (pathname : String) : Bool :=
  extensions.any fun e => e.toList.isSuffixOf pathname.toList

/-- The test for static build assets. -/
def isStaticAsset (pathname : String) : Bool :=
  "/_next/".toList.isPrefixOf pathname.toList || "/icons/".toList.isPrefixOf pathname.toList ||
    pathname == "/manifest.json" || staticAssetRe pathname

/-- How a fetch event is answered. -/
inductive Strategy where
  | passThrough
  | cacheFirst (cacheName : String)
  | networkFirst (cacheName : String)
  | staleWhileRevalidate (cacheName : String)
  | navigationFallback
  | networkOrCache
  deriving DecidableEq

/-- The cache that a strategy writes to. -/
def Strategy.cacheName : Strategy → Option String
  | .cacheFirst n | .networkFirst n | .staleWhileRevalidate n => some n
  | .passThrough | .navigationFallback | .networkOrCache => none

/-- The fetch handler; `origin` is `self.location.origin`. -/
def route (origin : String) (q : Request) : Strategy :=
  if q.method ≠ "GET" then .passThrough
  else if q.url.origin ≠ origin then
    if q.url.pathname = "/tickets" then .staleWhileRevalidate apiTickets
    else if ticketDetailRe q.url.pathname then .cacheFirst apiTickets
    else .passThrough
  else if isStaticAsset q.url.pathname then .cacheFirst staticCache
  else if q.mode = .navigate then
    if q.url.pathname = "/tickets" then .networkFirst pageTicketList
    else if ticketDetailRe q.url.pathname then .staleWhileRevalidate pageTicketDetail
    else .navigationFallback
  else .networkOrCache

/-! ## Jobs -/

/-- A fetch event, with the user who is logged in when the page issues it. -/
structure FetchEvent (υ : Type) where
  request : Request
  user : Option υ
  deriving DecidableEq

/-- What a fetch event is answered with: at `offline` with `offlineResponse`, at `gatewayTimeout`
with the status 504, at `failed` with a network error. -/
inductive Answer (β υ : Type) where
  | cached (e : CacheEntry β υ)
  | network (r : Response β)
  | offline
  | gatewayTimeout
  | failed
  deriving DecidableEq

/-- How the operation that a job awaits has settled. -/
inductive Settled (β : Type) where
  | response (r : Response β)
  | fulfilled
  | rejected

/-- What the worker has been woken for. -/
inductive Wake where
  | fetch (q : Request)
  | install (path : { path // path ∈ precache })
  | activate

/-- Where a job stands.  From `arriving` on it is a fetch event: `matching` and `falling` await
`caches.match`, before and after the network; `refreshing` has answered from a cache and awaits
the network; `opening` and `storing` await `caches.open` and `cache.put`, with the answer in so
far as it was given already. -/
inductive Job (β υ : Type) where
  | arriving (q : Request)
  | matching (f : FetchEvent υ)
  | fetching (f : FetchEvent υ)
  | falling (f : FetchEvent υ)
  | refreshing (f : FetchEvent υ) (e : CacheEntry β υ)
  | opening (f : FetchEvent υ) (r : Response β) (given : Option (Answer β υ))
  | storing (f : FetchEvent υ) (r : Response β) (a : Answer β υ)
  | answered (f : FetchEvent υ) (a : Answer β υ)
  | installing (path : { path // path ∈ precache })
  | precaching (path : { path // path ∈ precache })
  | keeping (path : { path // path ∈ precache }) (r : Response β)
  | installed
  | activating
  | deleting (names : List String)
  | activated
  deriving DecidableEq

/-- The caches of the origin, and who is logged in. -/
structure Device (β υ : Type) where
  caches : CacheStorage String Url (CacheEntry β υ)
  user : Option υ

namespace Job

variable {β υ : Type} {origin : String}

def start : Wake → Job β υ
  | .fetch q => .arriving q
  | .install path => .installing path
  | .activate => .activating

/-- The first state of a fetch event that the page has issued. -/
def begin (origin : String) (f : FetchEvent υ) : Job β υ :=
  match route origin f.request with
  | .cacheFirst _ | .staleWhileRevalidate _ => .matching f
  | .passThrough | .networkFirst _ | .navigationFallback | .networkOrCache => .fetching f

/-- `caches.match`, at first. -/
def matched (origin : String) (f : FetchEvent υ) (o : Option (CacheEntry β υ)) : Job β υ :=
  match o, route origin f.request with
  | some e, .staleWhileRevalidate _ => .refreshing f e
  | some e, _ => .answered f (.cached e)
  | none, _ => .fetching f

/-- A response of the network. -/
def arrived (origin : String) (f : FetchEvent υ) (r : Response β) : Job β υ :=
  match route origin f.request with
  | .cacheFirst _ | .networkFirst _ => if r.ok then .opening f r none else .answered f (.network r)
  | .staleWhileRevalidate _ =>
      if r.ok then .opening f r (some (.network r)) else .answered f (.network r)
  | .passThrough | .navigationFallback | .networkOrCache => .answered f (.network r)

/-- The network has failed. -/
def unreachable (origin : String) (f : FetchEvent υ) : Job β υ :=
  match route origin f.request with
  | .passThrough | .cacheFirst _ => .answered f .failed
  | .staleWhileRevalidate _ => .answered f .offline
  | .networkFirst _ | .navigationFallback | .networkOrCache => .falling f

/-- `caches.match`, after the network has failed. -/
def fellBack (origin : String) (f : FetchEvent υ) (o : Option (CacheEntry β υ)) : Job β υ :=
  match o, route origin f.request with
  | some e, _ => .answered f (.cached e)
  | none, .navigationFallback => .answered f .offline
  | none, .networkOrCache => .answered f .gatewayTimeout
  | none, _ => .answered f .failed

/-- `caches.open` has rejected: `networkFirst` catches that as it catches a network error. -/
def unopened (origin : String) (f : FetchEvent υ) (given : Option (Answer β υ)) : Job β υ :=
  match given, route origin f.request with
  | some a, _ => .answered f a
  | none, .networkFirst _ => .falling f
  | none, _ => .answered f .failed

/-- The request that `cache.put(url, res)` stores for an item of `PRECACHE`. -/
def precacheRequest (origin path : String) : Request := ⟨"GET", ⟨origin, path, ""⟩, .cors⟩

/-- The next step of a job. -/
def step (origin : String) (l : Job β υ) (d : Device β υ) (x : Settled β) :
    Option (Job β υ × Device β υ) :=
  match l, x with
  | .arriving q, .fulfilled => some (begin origin ⟨q, d.user⟩, d)
  | .matching f, .fulfilled => some (matched origin f (d.caches.lookup f.request.url), d)
  | .matching f, .rejected => some (.answered f .failed, d)
  | .fetching f, .response r => some (arrived origin f r, d)
  | .fetching f, .rejected => some (unreachable origin f, d)
  | .falling f, .fulfilled => some (fellBack origin f (d.caches.lookup f.request.url), d)
  | .falling f, .rejected => some (.answered f .failed, d)
  | .refreshing f e, .response r =>
      some (if r.ok then .opening f r (some (.cached e)) else .answered f (.cached e), d)
  | .refreshing f e, .rejected => some (.answered f (.cached e), d)
  | .opening f r given, .fulfilled =>
      (route origin f.request).cacheName.map fun n =>
        (.storing f r (given.getD (.network r)), { d with caches := d.caches.openCache n })
  | .opening f _ given, .rejected => some (unopened origin f given, d)
  | .storing f r a, .fulfilled =>
      (route origin f.request).cacheName.map fun n =>
        (.answered f a,
          { d with caches := d.caches.put n f.request.url ⟨f.request, r, f.user⟩ })
  | .storing f _ a, .rejected => some (.answered f a, d)
  | .installing path, .fulfilled =>
      some (.precaching path, { d with caches := d.caches.openCache staticCache })
  | .installing _, .rejected => some (.installed, d)
  | .precaching path, .response r => some (if r.ok then .keeping path r else .installed, d)
  | .precaching _, .rejected => some (.installed, d)
  | .keeping path r, .fulfilled =>
      let q := precacheRequest origin path
      some (.installed, { d with caches := d.caches.put staticCache q.url ⟨q, r, none⟩ })
  | .keeping _ _, .rejected => some (.installed, d)
  | .activating, .fulfilled =>
      some (.deleting (d.caches.names.filter fun k => !knownCaches.contains k), d)
  | .activating, .rejected => some (.activated, d)
  | .deleting (k :: names), .fulfilled =>
      some (.deleting names, { d with caches := d.caches.delete k })
  | .deleting (_ :: names), .rejected => some (.deleting names, d)
  | .deleting [], .fulfilled => some (.activated, d)
  | _, _ => none

/-- The fetch event that a job is. -/
def event? : Job β υ → Option (FetchEvent υ)
  | .matching f | .fetching f | .falling f | .refreshing f _ | .opening f _ _ | .storing f _ _
  | .answered f _ => some f
  | .arriving _ | .installing _ | .precaching _ | .keeping _ _ | .installed | .activating
  | .deleting _ | .activated => none

/-- The answer that a job has given. -/
def answer? : Job β υ → Option (Answer β υ)
  | .refreshing _ e => some (.cached e)
  | .opening _ _ given => given
  | .storing _ _ a | .answered _ a => some a
  | .arriving _ | .matching _ | .fetching _ | .falling _ | .installing _ | .precaching _
  | .keeping _ _ | .installed | .activating | .deleting _ | .activated => none

end Job

/-- `login` and `logout`: they set who is logged in and leave the caches as they are. -/
inductive Session (υ : Type) where
  | login (u : υ)
  | logout

def Device.env {β υ : Type} (d : Device β υ) : Session υ → Option (Device β υ)
  | .login u => some { d with user := some u }
  | .logout => some { d with user := none }

/-- The worker of an application at `origin`. -/
def worker (β υ : Type) (origin : String) :
    Machine (Device β υ) (Job β υ) Wake (Settled β) (Session υ) where
  start := Job.start
  step _ l d x := l.step origin d x
  env := Device.env

/-- Runs that start without a cache. -/
def working (β υ : Type) (origin : String) :
    System (Config (Device β υ) (Job β υ)) (Act Wake (Settled β) (Session υ)) :=
  (worker β υ origin).system fun d => d.caches = []

end ServiceWorker
end TransHub
