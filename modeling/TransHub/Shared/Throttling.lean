import TransHub.Shared.RateLimit

/-!
# What a limiter lets through

* `Counted`: the history of the limiters is that of fixed-window counters, whose keys are in
  Redis; `Counted.check` is what one check adds to it.
* `Filed`: the requests that have passed the check are those of the history.
* `RateBound`, `rate_limit_bound`: what a limiter does to an identity, in every run.
-/

namespace TransHub

open FixedWindow (Hit WellCounted sameWindow)

/-! ## Counting -/

theorem isLimitKey_limitKey (o : RateLimitOptions) (identity : String) :
    isLimitKey (limitKey o identity) = true := by
  rw [isLimitKey, limitKey, String.append_assoc, String.append_assoc, String.toList_append,
    List.isPrefixOf_iff_prefix]
  exact List.prefix_append ..

variable {L : Limiters} {r r' : RateDB}

/-- A hit of `k` in the window that closes at `closes`. -/
def ofWindow (k : RateLimitOptions × String) (closes : ℕ)
    (e : Hit (RateLimitOptions × String)) : Bool :=
  e.key == k && e.closes == closes

theorem ofWindow_iff {k : RateLimitOptions × String} {closes : ℕ}
    {e : Hit (RateLimitOptions × String)} :
    ofWindow k closes e = true ↔ e.key = k ∧ e.closes = closes := by
  rw [ofWindow, Bool.and_eq_true, beq_iff_eq, beq_iff_eq]

theorem countP_sameWindow (log : List (Hit (RateLimitOptions × String)))
    (e : Hit (RateLimitOptions × String)) :
    log.countP (sameWindow e) = log.countP (ofWindow e.key e.closes) :=
  List.countP_congr fun _ _ => FixedWindow.sameWindow_iff.trans ofWindow_iff.symm

/-- A stored counter: it has an expiry, at most a window ahead, and has counted the hits of its
window; those before it closed in windows that came to an end. -/
structure RateDB.Counts (r : RateDB) (k : RateLimitOptions × String) (value closes : ℕ) : Prop where
  ahead : closes ≤ r.redis.now + k.1.windowSec * 1000
  count : r.log.countP (ofWindow k closes) = value
  earlier : ∀ e ∈ r.log, e.key = k →
    e.closes = closes ∨ e.closes + k.1.windowSec * 1000 < closes

/-- The log is that of fixed-window counters, whose keys are in Redis. -/
structure Counted (L : Limiters) (r : RateDB) : Prop where
  hits : WellCounted (fun k : RateLimitOptions × String => k.1.windowSec * 1000) r.log
  absent : ∀ o ∈ L.options, ∀ identity, r.redis.keys (limitKey o identity) = none →
    ∀ e ∈ r.log, e.key ≠ (o, identity)
  stored : ∀ o ∈ L.options, ∀ identity e, r.redis.keys (limitKey o identity) = some e →
    0 < e.value ∧ ∃ closes, e.expireAt = some closes ∧
      r.Counts (o, identity) e.value closes

/-- No hit of a counter that is not there is in a window that may still open. -/
theorem Counted.expired (h : Counted L r) (d : Limited L) (hget : r.redis.get d.key = none) :
    ∀ e ∈ r.log, e.key = d.counter → e.closes < r.redis.now := by
  intro e he hkey
  cases hentry : r.redis.keys d.key with
  | none => exact absurd hkey (h.absent d.options d.mem d.request.identity hentry e he)
  | some entry =>
    obtain ⟨-, closes, hexpire, hcounts⟩ := h.stored d.options d.mem d.request.identity _ hentry
    obtain ⟨closes', hexpire', hlt⟩ := Redis.get_eq_none.mp hget entry hentry
    obtain rfl : closes = closes' := Option.some.inj (hexpire.symm.trans hexpire')
    have hearlier := hcounts.earlier e he hkey
    omega

/-- **What a check counts.**  The next hit of the window that is open, or the first of one that
opens now. -/
theorem Counted.check (h : Counted L r) (d : Limited L) : ∃ n closes,
    r.redis.incrWithExpire d.key d.options.windowSec =
      (n + 1, r.redis.set d.key (some ⟨n + 1, some closes⟩)) ∧
    r.hit d = ⟨d.counter, r.redis.now, closes, n + 1⟩ ∧
    r.redis.now ≤ closes ∧ r.Counts d.counter n closes := by
  have hhit : ∀ n closes, r.redis.incrWithExpire d.key d.options.windowSec =
      (n + 1, r.redis.set d.key (some ⟨n + 1, some closes⟩)) → r.redis.now ≤ closes →
      r.hit d = ⟨d.counter, r.redis.now, closes, n + 1⟩ := by
    intro n closes hscript hle
    have hget : (r.redis.set d.key (some ⟨n + 1, some closes⟩)).get d.key =
        some ⟨n + 1, some closes⟩ := by
      refine Redis.get_eq_some.mpr ⟨Redis.set_keys_self _, ?_⟩
      intro closes' heq
      cases heq
      exact hle
    rw [RateDB.hit, hscript]
    simp only [hget, Option.bind_some, Option.getD_some]
  cases hget : r.redis.get d.key with
  | none =>
    have hexpired := h.expired d hget
    have hscript := Redis.incrWithExpire_new hget (L.window_pos _ d.mem)
    have hle : r.redis.now ≤ r.redis.now + d.options.windowSec * 1000 := by omega
    refine ⟨0, _, hscript, hhit 0 _ hscript hle, hle, le_refl _, ?_, ?_⟩
    · rw [List.countP_eq_zero]
      intro e he hwindow
      obtain ⟨hkey, hcloses⟩ := ofWindow_iff.mp hwindow
      have hlt := hexpired e he hkey
      omega
    · intro e he hkey
      have hlt := hexpired e he hkey
      show e.closes = _ ∨ e.closes + d.options.windowSec * 1000 < _
      omega
  | some entry =>
    obtain ⟨hentry, hlive⟩ := Redis.get_eq_some.mp hget
    obtain ⟨hpos, closes, hexpire, hcounts⟩ :=
      h.stored d.options d.mem d.request.identity entry hentry
    have hscript : r.redis.incrWithExpire d.key d.options.windowSec = _ :=
      Redis.incrWithExpire_live hget hpos
    rw [hexpire] at hscript
    exact ⟨entry.value, closes, hscript, hhit _ _ hscript (hlive closes hexpire),
      hlive closes hexpire, hcounts⟩

/-- A counter only comes closer to its expiry. -/
theorem RateDB.Counts.later {k : RateLimitOptions × String} {value closes : ℕ} {redis : Redis}
    (h : r.Counts k value closes) (hnow : r.redis.now ≤ redis.now) :
    RateDB.Counts ⟨redis, r.log⟩ k value closes where
  ahead := by
    have hahead := h.ahead
    dsimp only
    omega
  count := h.count
  earlier := h.earlier

/-- A hit of another counter is in no window of this one. -/
theorem RateDB.Counts.snoc_ne {k : RateLimitOptions × String} {value closes : ℕ}
    {e : Hit (RateLimitOptions × String)} {redis : Redis} (h : r.Counts k value closes)
    (hnow : redis.now = r.redis.now) (hne : e.key ≠ k) :
    RateDB.Counts ⟨redis, r.log ++ [e]⟩ k value closes where
  ahead := by
    rw [hnow]
    exact h.ahead
  count := by
    have hmiss : ¬ ofWindow k closes e = true := fun hw => hne (ofWindow_iff.mp hw).1
    rw [List.countP_append, List.countP_singleton, if_neg hmiss, h.count]
    rfl
  earlier a ha hkey := by
    rcases List.mem_append.mp ha with hold | hnew
    · exact h.earlier a hold hkey
    · rw [List.mem_singleton.mp hnew] at hkey
      exact absurd hkey hne

/-- The counter of the hit itself has counted one more. -/
theorem RateDB.Counts.snoc_self {k : RateLimitOptions × String} {n closes : ℕ} {redis : Redis}
    (h : r.Counts k n closes) (hnow : redis.now = r.redis.now) :
    RateDB.Counts ⟨redis, r.log ++ [⟨k, r.redis.now, closes, n + 1⟩]⟩ k (n + 1) closes where
  ahead := by
    rw [hnow]
    exact h.ahead
  count := by
    have hself : ofWindow k closes ⟨k, r.redis.now, closes, n + 1⟩ = true :=
      ofWindow_iff.mpr ⟨rfl, rfl⟩
    rw [List.countP_append, List.countP_singleton, if_pos hself, h.count]
  earlier a ha hkey := by
    rcases List.mem_append.mp ha with hold | hnew
    · exact h.earlier a hold hkey
    · rw [List.mem_singleton.mp hnew]
      exact Or.inl rfl

/-- **A check keeps the count.** -/
theorem Counted.snoc (h : Counted L r) (d : Limited L) {n closes : ℕ}
    (hle : r.redis.now ≤ closes) (hcounts : r.Counts d.counter n closes) :
    Counted L ⟨r.redis.set d.key (some ⟨n + 1, some closes⟩),
      r.log ++ [⟨d.counter, r.redis.now, closes, n + 1⟩]⟩ := by
  have hother : ∀ o ∈ L.options, ∀ identity, ¬ (o = d.options ∧ identity = d.request.identity) →
      limitKey o identity ≠ d.key ∧ d.counter ≠ (o, identity) := by
    intro o ho identity hne
    refine ⟨fun hkey => hne (L.separate o ho d.options d.mem identity _ hkey), ?_⟩
    intro heq
    cases heq
    exact hne ⟨rfl, rfl⟩
  refine ⟨h.hits.snoc ?_ ?_ ?_, ?_, ?_⟩
  · rw [countP_sameWindow, hcounts.count]
  · exact ⟨hle, hcounts.ahead⟩
  · intro a ha hkey
    rw [hkey]
    exact hcounts.earlier a ha hkey
  · intro o ho identity hkeys e he
    by_cases hsame : o = d.options ∧ identity = d.request.identity
    · obtain ⟨rfl, rfl⟩ := hsame
      rw [show limitKey d.options d.request.identity = d.key from rfl] at hkeys
      rw [Redis.set_keys_self] at hkeys
      cases hkeys
    · obtain ⟨hkey, hcounter⟩ := hother o ho identity hsame
      rw [Redis.set_keys_ne _ hkey] at hkeys
      rcases List.mem_append.mp he with hold | hnew
      · exact h.absent o ho identity hkeys e hold
      · rw [List.mem_singleton.mp hnew]
        exact hcounter
  · intro o ho identity e hkeys
    by_cases hsame : o = d.options ∧ identity = d.request.identity
    · obtain ⟨rfl, rfl⟩ := hsame
      rw [show limitKey d.options d.request.identity = d.key from rfl] at hkeys
      rw [Redis.set_keys_self] at hkeys
      cases hkeys
      exact ⟨Nat.succ_pos n, closes, rfl, hcounts.snoc_self rfl⟩
    · obtain ⟨hkey, hcounter⟩ := hother o ho identity hsame
      rw [Redis.set_keys_ne _ hkey] at hkeys
      obtain ⟨hpos, closes', hexpire, hold⟩ := h.stored o ho identity e hkeys
      exact ⟨hpos, closes', hexpire, hold.snoc_ne rfl hcounter⟩

/-- The environment keeps the count. -/
theorem Counted.env (h : Counted L r) {m : RateMove} (hm : r.env m = some r') : Counted L r' := by
  cases m with
  | tick ms =>
    obtain rfl := Option.some.inj hm
    refine ⟨h.hits, h.absent, ?_⟩
    intro o ho identity e hkeys
    obtain ⟨hpos, closes, hexpire, hcounts⟩ := h.stored o ho identity e hkeys
    exact ⟨hpos, closes, hexpire, hcounts.later (Nat.le_add_right _ ms)⟩
  | write key e =>
    rw [RateDB.env] at hm
    split at hm
    · cases hm
    · next hkey =>
      cases hm
      have hne : ∀ o identity, limitKey o identity ≠ key := by
        intro o identity heq
        exact hkey (heq ▸ isLimitKey_limitKey o identity)
      refine ⟨h.hits, ?_, ?_⟩
      · intro o ho identity hkeys
        rw [Redis.set_keys_ne _ (hne o identity)] at hkeys
        exact h.absent o ho identity hkeys
      · intro o ho identity e' hkeys
        rw [Redis.set_keys_ne _ (hne o identity)] at hkeys
        obtain ⟨hpos, closes, hexpire, hcounts⟩ := h.stored o ho identity e' hkeys
        exact ⟨hpos, closes, hexpire, hcounts.later (le_refl _)⟩

/-! ## Runs -/

/-- **What a step of a request can be.** -/
theorem RateCall.step_cases {l l' : RateCall L} (h : Counted L r)
    (hs : l.step r = some (l', r')) :
    (∃ d n closes, l = .check d ∧ r.redis.now ≤ closes ∧ r.Counts d.counter n closes ∧
      r' = ⟨r.redis.set d.key (some ⟨n + 1, some closes⟩),
        r.log ++ [⟨d.counter, r.redis.now, closes, n + 1⟩]⟩ ∧
      l' = if d.options.max < n + 1 then .throttled d ⟨d.counter, r.redis.now, closes, n + 1⟩
        else .next ⟨d.counter, r.redis.now, closes, n + 1⟩) ∨
    (∃ d e retryAfter, l = .throttled d e ∧ r' = r ∧ l' = .tooManyRequests e retryAfter) := by
  cases l with
  | check d =>
    obtain ⟨n, closes, hscript, hhit, hle, hcounts⟩ := h.check d
    dsimp only [step] at hs
    rw [hscript, hhit] at hs
    cases hs
    exact Or.inl ⟨d, n, closes, rfl, hle, hcounts, rfl, rfl⟩
  | throttled d e =>
    cases hs
    exact Or.inr ⟨d, e, _, rfl, rfl, rfl⟩
  | next e => cases hs
  | tooManyRequests e retryAfter => cases hs

/-- A request is let through up to `max` and refused beyond. -/
def RateCall.Judged : RateCall L → Prop
  | .check _ => True
  | .next e => e.number ≤ e.key.1.max
  | .throttled _ e | .tooManyRequests e _ => e.key.1.max < e.number

/-- The requests counted so far are those of the log. -/
structure Filed (L : Limiters) (c : Config RateDB (RateCall L)) : Prop where
  counted : Counted L c.shared
  judged : ∀ l ∈ c.procs, l.Judged
  filed : ∀ p : Hit (RateLimitOptions × String) → Bool,
    c.procs.countP (fun l => l.hit?.any p) = c.shared.log.countP p

theorem RateCall.judged_step {l l' : RateCall L} (h : Counted L r) (hl : l.Judged)
    (hs : l.step r = some (l', r')) : l'.Judged := by
  rcases step_cases h hs with ⟨d, n, closes, rfl, -, -, -, rfl⟩ | ⟨d, e, retryAfter, rfl, -, rfl⟩
  · split
    · next hmax => exact hmax
    · next hmax => exact Nat.not_lt.mp hmax
  · exact hl

/-- A step files what it counts, and nothing else. -/
theorem RateCall.filed_step {l l' : RateCall L} (h : Counted L r)
    (hs : l.step r = some (l', r')) (p : Hit (RateLimitOptions × String) → Bool) :
    r'.log.countP p + (if l.hit?.any p then 1 else 0) =
      r.log.countP p + (if l'.hit?.any p then 1 else 0) := by
  rcases step_cases h hs with ⟨d, n, closes, rfl, -, -, rfl, rfl⟩ | ⟨d, e, retryAfter, rfl, rfl, rfl⟩
  · rw [List.countP_append, List.countP_singleton]
    by_cases hmax : d.options.max < n + 1
    · rw [if_pos hmax]
      rfl
    · rw [if_neg hmax]
      rfl
  · rfl

/-- **One move.** -/
theorem Filed.next {c c' : Config RateDB (RateCall L)} {a : Act (Limited L) Unit RateMove}
    (h : Filed L c) (hs : (rateMachine L).next c a = some c') : Filed L c' := by
  obtain ⟨hcounted, hjudged, hfiled⟩ := h
  rcases Machine.next_cases hs with ⟨d, -, rfl⟩ | ⟨i, x, l, l', r', -, hi, hown, rfl⟩ |
    ⟨m, r', -, hm, rfl⟩
  · refine ⟨hcounted, ?_, ?_⟩
    · intro l hl
      rcases List.mem_append.mp hl with hl | hl
      · exact hjudged l hl
      · rw [List.mem_singleton.mp hl]
        trivial
    · intro p
      rw [List.countP_append, hfiled p]
      rfl
  · have hstep : l.step c.shared = some (l', r') := hown
    obtain ⟨hlt, hget⟩ := List.getElem?_eq_some_iff.mp hi
    have hmem : l ∈ c.procs := List.mem_of_getElem? hi
    refine ⟨?_, ?_, ?_⟩
    · rcases RateCall.step_cases hcounted hstep with ⟨d, n, closes, -, hle, hcounts, rfl, -⟩ |
        ⟨d, e, retryAfter, -, rfl, -⟩
      · exact hcounted.snoc d hle hcounts
      · exact hcounted
    · intro k hk
      rcases List.mem_or_eq_of_mem_set hk with hk | rfl
      · exact hjudged k hk
      · exact RateCall.judged_step hcounted (hjudged l hmem) hstep
    · intro p
      have hfile := RateCall.filed_step hcounted hstep p
      have hone : l.hit?.any p = true → 0 < c.procs.countP fun l => l.hit?.any p :=
        fun hp => List.countP_pos_iff.mpr ⟨l, hmem, hp⟩
      show (c.procs.set i l').countP _ = r'.log.countP p
      rw [List.countP_set hlt, hget]
      rw [hfiled p] at hone ⊢
      by_cases hp : l.hit?.any p = true
      · rw [if_pos hp] at hfile ⊢
        have hpos := hone hp
        omega
      · rw [if_neg hp] at hfile ⊢
        omega
  · refine ⟨hcounted.env hm, hjudged, ?_⟩
    intro p
    cases m with
    | tick ms =>
      cases hm
      exact hfiled p
    | write key e =>
      rw [show (rateMachine L).env = RateDB.env from rfl, RateDB.env] at hm
      split at hm
      · cases hm
      · cases hm
        exact hfiled p

theorem limiting_filed {c : Config RateDB (RateCall L)} (h : (limiting L).Reachable c) :
    Filed L c := by
  refine h.invariant ?_ fun c a c' hc hs => hc.next hs
  rintro ⟨r, procs⟩ ⟨⟨hkeys, hlog⟩, hprocs⟩
  dsimp only at hkeys hlog hprocs
  subst hprocs
  refine ⟨⟨?_, ?_, ?_⟩, by simp, ?_⟩
  · rw [hlog]
    exact .nil
  · rw [hlog]
    simp
  · intro o _ identity e he
    rw [hkeys _ (isLimitKey_limitKey o identity)] at he
    cases he
  · rw [hlog]
    simp

/-- A hit of `k` from `start` to `stop`. -/
def during (k : RateLimitOptions × String) (start stop : ℕ)
    (e : Hit (RateLimitOptions × String)) : Bool :=
  e.key == k && decide (start ≤ e.time) && decide (e.time ≤ stop)

/-- What a limiter does to an identity. -/
structure RateBound (o : RateLimitOptions) (identity : String)
    (c : Config RateDB (RateCall L)) : Prop where
  expires : ∀ e, c.shared.redis.get (limitKey o identity) = some e →
    (∃ closes, e.expireAt = some closes ∧
      closes ≤ c.shared.redis.now + o.windowSec * 1000) ∧
    0 ≤ c.shared.redis.ttl (limitKey o identity) ∧
    c.shared.redis.ttl (limitKey o identity) ≤ o.windowSec
  reopens : ∀ ms, o.windowSec * 1000 < ms →
    Redis.get ⟨c.shared.redis.now + ms, c.shared.redis.keys⟩ (limitKey o identity) = none
  window : ∀ closes,
    c.procs.countP (fun l => l.passed?.any (ofWindow (o, identity) closes)) ≤ o.max
  interval : ∀ start,
    c.procs.countP (fun l => l.passed?.any
      (during (o, identity) start (start + o.windowSec * 1000))) ≤ 2 * o.max
  refused : ∀ l ∈ c.procs, ∀ e, l.refused? = some e → e.key = (o, identity) →
    ∃ before after, c.shared.log = before ++ e :: after ∧
      o.max ≤ before.countP (sameWindow e)

/-- The requests let through are among the hits whose number is at most `max`. -/
theorem Filed.passed_le {c : Config RateDB (RateCall L)} (h : Filed L c)
    {p q : Hit (RateLimitOptions × String) → Bool}
    (hpq : ∀ e, p e = true → e.number ≤ e.key.1.max → q e = true) :
    c.procs.countP (fun l => l.passed?.any p) ≤ c.shared.log.countP q := by
  rw [← h.filed q]
  refine List.countP_mono_left ?_
  intro l hl hp
  have hjudged := h.judged l hl
  cases l with
  | next e => exact hpq e hp hjudged
  | check d => cases hp
  | throttled d e => cases hp
  | tooManyRequests e retryAfter => cases hp

/-- A request that was refused was counted, with a number beyond `max`. -/
theorem Filed.refused_mem {c : Config RateDB (RateCall L)} (h : Filed L c) {l : RateCall L}
    (hl : l ∈ c.procs) {e : Hit (RateLimitOptions × String)} (he : l.refused? = some e) :
    e ∈ c.shared.log ∧ e.key.1.max < e.number := by
  have hjudged := h.judged l hl
  have hhit : l.hit? = some e ∧ e.key.1.max < e.number := by
    cases l with
    | throttled d e' =>
      cases he
      exact ⟨rfl, hjudged⟩
    | tooManyRequests e' retryAfter =>
      cases he
      exact ⟨rfl, hjudged⟩
    | check d => cases he
    | next e' => cases he
  have hpos : 0 < c.procs.countP fun l => l.hit?.any (fun a => decide (a = e)) :=
    List.countP_pos_iff.mpr ⟨l, hl, by simp [hhit.1]⟩
  rw [h.filed, List.countP_pos_iff] at hpos
  obtain ⟨a, ha, hae⟩ := hpos
  exact ⟨of_decide_eq_true hae ▸ ha, hhit.2⟩

/-- In every run, whenever its requests arrive: a key has at most a window to live; a limiter lets
at most `max` requests of an identity through in the life of a key and twice as many in any
interval of that length; and it refuses one only when `max` were counted before it in its
window. -/
theorem rate_limit_bound {c : Config RateDB (RateCall L)} (h : (limiting L).Reachable c)
    {o : RateLimitOptions} (ho : o ∈ L.options) (identity : String) : RateBound o identity c := by
  have hfiled := limiting_filed h
  have hhits := hfiled.counted.hits
  refine ⟨?_, ?_, ?_, ?_, ?_⟩
  · intro e hget
    obtain ⟨hkeys, -⟩ := Redis.get_eq_some.mp hget
    obtain ⟨-, closes, hexpire, hcounts⟩ := hfiled.counted.stored o ho identity e hkeys
    exact ⟨⟨closes, hexpire, hcounts.ahead⟩, Redis.ttl_bound hget hexpire hcounts.ahead⟩
  · intro ms hms
    rw [Redis.get_eq_none]
    intro e hkeys
    obtain ⟨-, closes, hexpire, hcounts⟩ := hfiled.counted.stored o ho identity e hkeys
    have hahead := hcounts.ahead
    refine ⟨closes, hexpire, ?_⟩
    dsimp only at hahead ⊢
    omega
  · intro closes
    refine (hfiled.passed_le ?_).trans
      (FixedWindow.countP_window_le hhits (o, identity) o.max closes)
    intro e he hmax
    obtain ⟨hkey, hcloses⟩ := ofWindow_iff.mp he
    rw [hkey] at hmax
    exact FixedWindow.passedInWindow_iff.mpr ⟨hkey, hmax, hcloses⟩
  · intro start
    refine (hfiled.passed_le ?_).trans
      (FixedWindow.countP_interval_le hhits (o, identity) o.max start)
    intro e he hmax
    rw [during, Bool.and_eq_true, Bool.and_eq_true, beq_iff_eq, decide_eq_true_eq,
      decide_eq_true_eq] at he
    obtain ⟨⟨hkey, hstart⟩, hstop⟩ := he
    rw [hkey] at hmax
    exact FixedWindow.passedBetween_iff.mpr ⟨hkey, hmax, hstart, hstop⟩
  · intro l hl e he hkey
    obtain ⟨hmem, hmax⟩ := hfiled.refused_mem hl he
    obtain ⟨before, after, hlog⟩ := List.append_of_mem hmem
    rw [hkey] at hmax
    exact ⟨before, after, hlog, FixedWindow.le_countP_of_refused hhits hlog hmax⟩

/-! ## Four messages in an hour -/

/-- Redis at first. -/
def noKeys : RateDB where
  redis := { now := 0, keys := fun _ => none }
  log := []

/-- A message to `POST /contact`. -/
def aMessage : Limited limiters where
  options := contactLimiter
  mem := by decide
  request := { userId := none, ip := some "127.0.0.1" }

/-- Three messages at once and, a minute later, a fourth. -/
def fourMessages : List (Act (Limited limiters) Unit RateMove) :=
  [.spawn aMessage, .spawn aMessage, .spawn aMessage, .spawn aMessage, .run 0 (), .run 1 (),
    .run 2 (), .env (.tick 60000), .run 3 (), .run 3 ()]

/-- The fourth is refused, within the bounds of `contactLimiter`. -/
theorem rate_limit_bound_fourMessages :
    ∃ c, (limiting limiters).run ⟨noKeys, []⟩ fourMessages = some c ∧
      c.procs.map (fun l => l.refused?.map Hit.number) = [none, none, none, some 4] ∧
      RateBound contactLimiter "127.0.0.1" c := by
  have hrun : ((limiting limiters).run ⟨noKeys, []⟩ fourMessages).map
      (fun c => c.procs.map fun l => l.refused?.map Hit.number) =
      some [none, none, none, some 4] := by decide +kernel
  obtain ⟨c, hc, hrefused⟩ := Option.map_eq_some_iff.mp hrun
  have hreach : (limiting limiters).Reachable c :=
    ⟨_, ⟨⟨fun _ _ => rfl, rfl⟩, rfl⟩, fourMessages, hc⟩
  exact ⟨c, hc, hrefused, rate_limit_bound hreach (o := contactLimiter) (by decide) "127.0.0.1"⟩

end TransHub
