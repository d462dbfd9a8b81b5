import TransHub.Foundation.FixedWindow
import TransHub.Foundation.Machine

/-!
# The rate limiter

`middleware/rate-limit`: a fixed-window counter in Redis for each limiter and identity.

* `Redis`: keys that count and expire, with `INCR`, `EXPIRE` and `TTL`.
* `RateLimitOptions`, `Limiters`: the limiters of an application, whose keys are separate;
  `limiters` are those of the source.
* `RateCall.step`, `limiting`: any number of requests against a clock.
-/

namespace TransHub

open FixedWindow (Hit)

/-! ## Redis -/

/-- A counter and the instant, in milliseconds, after which its key is gone. -/
structure RedisEntry where
  value : ℕ
  expireAt : Option ℕ
  deriving DecidableEq, Repr

/-- The clock, in milliseconds, and the keys.  A key that has expired may still be stored. -/
structure Redis where
  now : ℕ
  keys : String → Option RedisEntry

namespace Redis

/-- The key, unless it has expired. -/
def get (r : Redis) (key : String) : Option RedisEntry :=
  (r.keys key).filter fun e => e.expireAt.all fun expireAt => decide (r.now ≤ expireAt)

def set (r : Redis) (key : String) (e : Option RedisEntry) : Redis :=
  { r with keys := Function.update r.keys key e }

/-- `INCR`: a key that is not there starts from zero and does not expire. -/
def incr (r : Redis) (key : String) : ℕ × Redis :=
  match r.get key with
  | none => (1, r.set key (some ⟨1, none⟩))
  | some e => (e.value + 1, r.set key (some { e with value := e.value + 1 }))

/-- `EXPIRE`: at once when the time is not positive. -/
def expire (r : Redis) (key : String) (seconds : ℕ) : Redis :=
  match r.get key with
  | none => r
  | some e =>
      if seconds = 0 then r.set key none
      else r.set key (some { e with expireAt := some (r.now + seconds * 1000) })

/-- `TTL`, in seconds: `-2` without the key, `-1` when it does not expire. -/
def ttl (r : Redis) (key : String) : ℤ :=
  match r.get key with
  | none => -2
  | some e => match e.expireAt with
    | none => -1
    | some expireAt => ((expireAt - r.now : ℤ) + 500) / 1000

/-- `INCR_WITH_EXPIRE_LUA`. -/
def incrWithExpire (r : Redis) (key : String) (windowSec : ℕ) : ℕ × Redis :=
  let (count, r) := r.incr key
  if count = 1 then (count, r.expire key windowSec) else (count, r)

variable {r : Redis} {key key' : String} {e : RedisEntry} {windowSec : ℕ}

theorem get_eq_some : r.get key = some e ↔
    r.keys key = some e ∧ ∀ expireAt, e.expireAt = some expireAt → r.now ≤ expireAt := by
  rw [get, Option.filter_eq_some_iff, Option.all_eq_true]
  simp only [decide_eq_true_eq]

/-- A key that is not there has expired or was never stored. -/
theorem get_eq_none : r.get key = none ↔ ∀ e, r.keys key = some e →
    ∃ expireAt, e.expireAt = some expireAt ∧ expireAt < r.now := by
  constructor
  · intro h e he
    by_contra hlive
    push Not at hlive
    rw [get_eq_some.mpr ⟨he, hlive⟩] at h
    cases h
  · intro h
    rw [Option.eq_none_iff_forall_ne_some]
    intro e he
    obtain ⟨hkey, hlive⟩ := get_eq_some.mp he
    obtain ⟨expireAt, hexpire, hlt⟩ := h e hkey
    have hle := hlive expireAt hexpire
    omega

@[simp] theorem set_now (o : Option RedisEntry) : (r.set key o).now = r.now := rfl

@[simp] theorem set_keys_self (o : Option RedisEntry) : (r.set key o).keys key = o :=
  Function.update_self ..

theorem set_keys_ne (o : Option RedisEntry) (h : key' ≠ key) :
    (r.set key o).keys key' = r.keys key' :=
  Function.update_of_ne h ..

theorem set_set (o o' : Option RedisEntry) : (r.set key o).set key o' = r.set key o' := by
  rw [set, set, set, Function.update_idem]

/-- **The script on a key that is there.**  It counts and leaves the expiry as it is. -/
theorem incrWithExpire_live (h : r.get key = some e) (hpos : 0 < e.value) :
    r.incrWithExpire key windowSec =
      (e.value + 1, r.set key (some { e with value := e.value + 1 })) := by
  have hcount : ¬ e.value + 1 = 1 := by omega
  simp only [incrWithExpire, incr, h, if_neg hcount]

/-- **The script on a key that is not there.**  The key appears together with its expiry. -/
theorem incrWithExpire_new (h : r.get key = none) (hpos : 0 < windowSec) :
    r.incrWithExpire key windowSec =
      (1, r.set key (some ⟨1, some (r.now + windowSec * 1000)⟩)) := by
  have hwindow : ¬ windowSec = 0 := by omega
  have hget : (r.set key (some ⟨1, none⟩)).get key = some ⟨1, none⟩ :=
    get_eq_some.mpr ⟨set_keys_self _, fun _ hnone => by cases hnone⟩
  simp only [incrWithExpire, incr, h, if_true, expire, hget, if_neg hwindow, set_set, set_now]

/-- `TTL` of a key that has an expiry is within the time that is left. -/
theorem ttl_bound {expireAt : ℕ} (h : r.get key = some e) (hexpire : e.expireAt = some expireAt)
    (hle : expireAt ≤ r.now + windowSec * 1000) : 0 ≤ r.ttl key ∧ r.ttl key ≤ windowSec := by
  have hlive := (get_eq_some.mp h).2 expireAt hexpire
  simp only [ttl, h, hexpire]
  omega

end Redis

/-! ## The limiters -/

structure RateLimitOptions where
  keyPrefix : String
  max : ℕ
  windowSec : ℕ
  deriving DecidableEq, Repr

/-- `rl:${opts.keyPrefix}:${identity}`. -/
def limitKey (o : RateLimitOptions) (identity : String) : String :=
  "rl:" ++ o.keyPrefix ++ ":" ++ identity

/-- Limiters over one Redis: their windows are not empty and no two of them share a key. -/
structure Limiters where
  options : List RateLimitOptions
  window_pos : ∀ o ∈ options, 0 < o.windowSec
  separate : ∀ o ∈ options, ∀ o' ∈ options, ∀ identity identity',
    limitKey o identity = limitKey o' identity' → o = o' ∧ identity = identity'

/-- A text up to its first colon. -/
theorem append_colon_inj {p p' i i' : List Char} (hp : ':' ∉ p) (hp' : ':' ∉ p')
    (h : p ++ ':' :: i = p' ++ ':' :: i') : p = p' ∧ i = i' := by
  induction p generalizing p' with
  | nil => cases p' with
    | nil =>
      cases h
      exact ⟨rfl, rfl⟩
    | cons c p' =>
      cases h
      exact absurd List.mem_cons_self hp'
  | cons c p ih => cases p' with
    | nil =>
      cases h
      exact absurd List.mem_cons_self hp
    | cons c' p' =>
      rw [List.cons_append, List.cons_append, List.cons.injEq] at h
      obtain ⟨rfl, h⟩ := h
      obtain ⟨rfl, hi⟩ := ih (fun hc => hp (List.mem_cons_of_mem _ hc))
        (fun hc => hp' (List.mem_cons_of_mem _ hc)) h
      exact ⟨rfl, hi⟩

/-- Keys are separate when the prefixes have no colon. -/
theorem limitKey_inj {o o' : RateLimitOptions} (ho : ':' ∉ o.keyPrefix.toList)
    (ho' : ':' ∉ o'.keyPrefix.toList) {identity identity' : String}
    (h : limitKey o identity = limitKey o' identity') :
    o.keyPrefix = o'.keyPrefix ∧ identity = identity' := by
  have hlist := congrArg String.toList h
  simp only [limitKey, String.toList_append, List.append_assoc] at hlist
  have hrest := List.append_cancel_left hlist
  obtain ⟨hname, hidentity⟩ := append_colon_inj ho ho' hrest
  exact ⟨String.toList_inj.mp hname, String.toList_inj.mp hidentity⟩

/-- `authLimiter`. -/
def authLimiter : RateLimitOptions := ⟨"auth", 15, 900⟩

/-- `apiLimiter`. -/
def apiLimiter : RateLimitOptions := ⟨"api", 100, 60⟩

/-- `webhookLimiter`. -/
def webhookLimiter : RateLimitOptions := ⟨"webhook", 300, 60⟩

/-- `charterCreateLimiter`. -/
def charterCreateLimiter : RateLimitOptions := ⟨"charter-create", 5, 3600⟩

/-- The limiter of `POST /operators/register`. -/
def operatorRegisterLimiter : RateLimitOptions := ⟨"operator-register", 5, 60⟩

/-- `contactLimiter`. -/
def contactLimiter : RateLimitOptions := ⟨"contact", 3, 3600⟩

/-- The limiter of `POST /payments/initialize`. -/
def paymentInitLimiter : RateLimitOptions := ⟨"payment-init", 20, 60⟩

/-- The limiters of the routes. -/
def limiters : Limiters where
  options := [authLimiter, apiLimiter, webhookLimiter, charterCreateLimiter,
    operatorRegisterLimiter, contactLimiter, paymentInitLimiter]
  window_pos := by decide
  separate o ho o' ho' identity identity' h := by
    have hcolon : ∀ o ∈ [authLimiter, apiLimiter, webhookLimiter, charterCreateLimiter,
        operatorRegisterLimiter, contactLimiter, paymentInitLimiter],
        ':' ∉ o.keyPrefix.toList := by decide
    have hname : ∀ o ∈ [authLimiter, apiLimiter, webhookLimiter, charterCreateLimiter,
        operatorRegisterLimiter, contactLimiter, paymentInitLimiter],
        ∀ o' ∈ [authLimiter, apiLimiter, webhookLimiter, charterCreateLimiter,
          operatorRegisterLimiter, contactLimiter, paymentInitLimiter],
        o.keyPrefix = o'.keyPrefix → o = o' := by decide
    obtain ⟨heq, hidentity⟩ := limitKey_inj (hcolon o ho) (hcolon o' ho') h
    exact ⟨hname o ho o' ho' heq, hidentity⟩

/-! ## Requests -/

/-- What an identity is read from: `req.user?.id` and `req.ip`. -/
structure RateRequest where
  userId : Option String
  ip : Option String
  deriving DecidableEq

def RateRequest.identity (q : RateRequest) : String := q.userId.getD (q.ip.getD "unknown")

/-- A request that goes through a limiter. -/
structure Limited (L : Limiters) where
  options : RateLimitOptions
  mem : options ∈ L.options
  request : RateRequest

/-- The limiter and the identity of a request. -/
def Limited.counter {L : Limiters} (d : Limited L) : RateLimitOptions × String :=
  (d.options, d.request.identity)

def Limited.key {L : Limiters} (d : Limited L) : String := limitKey d.options d.request.identity

/-- Redis and, as a history, what the script has counted for whom, and in the window until
when. -/
structure RateDB where
  redis : Redis
  log : List (Hit (RateLimitOptions × String))

/-- What the script counts for a request, in the window that its key then has. -/
def RateDB.hit {L : Limiters} (r : RateDB) (d : Limited L) : Hit (RateLimitOptions × String) :=
  let (count, redis) := r.redis.incrWithExpire d.key d.options.windowSec
  { key := d.counter
    time := r.redis.now
    closes := ((redis.get d.key).bind RedisEntry.expireAt).getD 0
    number := count }

/-- Where a request stands in `rateLimit`, and the hit that it was counted as.  At `throttled` it
has been refused and `TTL` is still to be read. -/
inductive RateCall (L : Limiters) where
  | check (d : Limited L)
  | throttled (d : Limited L) (e : Hit (RateLimitOptions × String))
  | next (e : Hit (RateLimitOptions × String))
  | tooManyRequests (e : Hit (RateLimitOptions × String)) (retryAfter : ℤ)

namespace RateCall

/-- The next step of a request. -/
def step {L : Limiters} (l : RateCall L) (r : RateDB) : Option (RateCall L × RateDB) :=
  match l with
  | .check d =>
      let (count, redis) := r.redis.incrWithExpire d.key d.options.windowSec
      let e := r.hit d
      some (if d.options.max < count then .throttled d e else .next e, ⟨redis, r.log ++ [e]⟩)
  | .throttled d e => some (.tooManyRequests e (max (r.redis.ttl d.key) 1), r)
  | .next _ | .tooManyRequests .. => none

/-- What a request was counted as. -/
def hit? {L : Limiters} : RateCall L → Option (Hit (RateLimitOptions × String))
  | .check _ => none
  | .throttled _ e | .next e | .tooManyRequests e _ => some e

/-- What a request that was let through was counted as. -/
def passed? {L : Limiters} : RateCall L → Option (Hit (RateLimitOptions × String))
  | .next e => some e
  | .check _ | .throttled .. | .tooManyRequests .. => none

/-- What a request that was refused was counted as. -/
def refused? {L : Limiters} : RateCall L → Option (Hit (RateLimitOptions × String))
  | .throttled _ e | .tooManyRequests e _ => some e
  | .check _ | .next _ => none

end RateCall

/-- Time passes, or another part of the application writes one of its own keys. -/
inductive RateMove where
  | tick (ms : ℕ)
  | write (key : String) (e : Option RedisEntry)

/-- A key of the limiters. -/
def isLimitKey (key : String) : Bool := "rl:".toList.isPrefixOf key.toList

def RateDB.env (r : RateDB) : RateMove → Option RateDB
  | .tick ms => some { r with redis := { r.redis with now := r.redis.now + ms } }
  | .write key e =>
      if isLimitKey key then none else some { r with redis := r.redis.set key e }

/-- Requests to the limiters. -/
def rateMachine (L : Limiters) : Machine RateDB (RateCall L) (Limited L) Unit RateMove where
  start := RateCall.check
  step _ l r _ := l.step r
  env := RateDB.env

/-- Runs that start with no key of a limiter. -/
def limiting (L : Limiters) : System (Config RateDB (RateCall L)) (Act (Limited L) Unit RateMove) :=
  (rateMachine L).system fun r => (∀ key, isLimitKey key = true → r.redis.keys key = none) ∧
    r.log = []

end TransHub
