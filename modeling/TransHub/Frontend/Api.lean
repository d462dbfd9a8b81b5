import Mathlib.Data.Rat.Defs
import Mathlib.Logic.Function.Iterate
import Mathlib.Tactic.Common

/-!
# The API client of the web application

`lib/api`: an axios instance with two response interceptors, as a chain of promises.  The first
retries, by calling the instance again, which runs the whole chain; the second unwraps the
payload or describes the error.

* `Value`: what a property read gives.
* `api`: one call, over the outcomes of the attempts it issues.
* `api_eq`: a call settles as its last attempt alone would, passed through the second interceptor
  once more for each retry.
* `api_transparent_iff`: when that changes nothing.
-/

namespace TransHub
namespace Frontend

/-! ## Values -/

/-- A value that `JSON.parse` gives; the keys of an object are distinct. -/
inductive Json where
  | null
  | bool (b : Bool)
  | num (n : ℚ)
  | str (s : String)
  | arr (items : List Json)
  | obj (fields : List (String × Json))

/-- What an expression evaluates to. -/
inductive Value where
  | undefined
  | json (j : Json)

/-- A own field of a value that has fields. -/
def Json.field (key : String) : Json → Value
  | .obj fields => ((fields.find? fun f => f.1 == key).map fun f => Value.json f.2).getD .undefined
  | _ => .undefined

/-- `value?.key`. -/
def Value.optionalGet (key : String) : Value → Value
  | .undefined => .undefined
  | .json j => j.field key

/-- `if (typeof value === "string")`. -/
def Value.asString : Value → Option String
  | .json (.str s) => some s
  | _ => none

/-! ## Requests -/

/-- A response of the server. -/
structure Response where
  status : ℕ
  data : Json

/-- What becomes of one attempt. -/
inductive Outcome where
  | response (r : Response)
  | networkError

/-- What the second interceptor rejects with. -/
structure Failure where
  message : String
  code : Option String
  status : Option ℕ
  deriving DecidableEq

/-- What a promise is rejected with. -/
inductive Reason where
  | axiosError (response : Option Response)
  | failure (f : Failure)
  | typeError

/-- A settled promise. -/
abbrev Promise := Except Reason Value

/-- `promise.then(onFulfilled, onRejected)`. -/
def andThen (promise : Promise) (onFulfilled : Value → Promise) (onRejected : Reason → Promise) :
    Promise :=
  match promise with
  | .ok v => onFulfilled v
  | .error e => onRejected e

/-- `RetryableRequestConfig`, as far as the interceptors read it. -/
structure RequestConfig where
  method : Option String
  retryCount : Option ℕ := none

/-- The response object that axios resolves with. -/
def Response.toValue (r : Response) : Value :=
  .json (.obj [("data", r.data), ("status", .num r.status)])

/-- `dispatchRequest`: axios rejects on what is not 2xx. -/
def dispatchRequest : Outcome → Promise
  | .response r =>
    if 200 ≤ r.status && r.status < 300 then .ok r.toValue else .error (.axiosError (some r))
  | .networkError => .error (.axiosError none)

/-- `error.response`. -/
def Reason.response : Reason → Option Response
  | .axiosError response => response
  | .failure _ | .typeError => none

/-! ## The interceptors -/

/-- `IDEMPOTENT_METHODS.has(method)`. -/
def RequestConfig.isIdempotent (config : RequestConfig) : Bool :=
  ["get", "head", "options"].contains ((config.method.getD "get").toLower)

/-- `!status || (status >= 500 && status < 600)`. -/
def isRetryableStatus (status : Option ℕ) : Bool :=
  status.all fun s => s == 0 || (500 ≤ s && s < 600)

/-- `(response) => response.data`. -/
def unwrap : Value → Promise
  | .undefined | .json .null => .error .typeError
  | .json j => .ok (j.field "data")

/-- `data && typeof data === "object"`. -/
def Json.isObject : Json → Bool
  | .arr _ | .obj _ => true
  | _ => false

/-- The error that the second interceptor makes of another. -/
def Reason.describe (error : Reason) : Failure where
  message :=
    match error.response with
    | some r => if r.data.isObject then
        ((((r.data.field "error").optionalGet "message").asString).or
          (r.data.field "message").asString).getD "Network error. Please try again."
      else "Network error. Please try again."
    | none => "Network error. Please try again."
  code :=
    match error.response with
    | some r => if r.data.isObject then
        (((r.data.field "error").optionalGet "code").asString).or (r.data.field "code").asString
      else none
    | none => none
  status := error.response.map fun r => r.status

/-- `(error) => Promise.reject({ message, code, status })`. -/
def reject (error : Reason) : Promise := .error (.failure error.describe)

/-- The second interceptor. -/
def settle (promise : Promise) : Promise := andThen promise unwrap reject

/-- `config.__retryCount ?? 0`. -/
def RequestConfig.retried (config : RequestConfig) : ℕ := config.retryCount.getD 0

/-- The configuration of the next attempt. -/
def RequestConfig.next (config : RequestConfig) : RequestConfig :=
  { config with retryCount := some (config.retried + 1) }

/-- What the first interceptor retries. -/
def RequestConfig.retries (config : RequestConfig) (error : Reason) : Bool :=
  (config.isIdempotent && isRetryableStatus (error.response.map fun r => r.status)) &&
    config.retried < 2

/-- `api(config)`: the settled promise, and the attempt that settled it. -/
def api (outcome : ℕ → Outcome) (config : RequestConfig) (attempt : ℕ) : Promise × ℕ :=
  match dispatchRequest (outcome attempt) with
  | .ok response => (settle (.ok response), attempt)
  | .error error =>
    if h : config.retries error then
      let again := api outcome config.next (attempt + 1)
      (settle again.1, again.2)
    else (settle (.error error), attempt)
termination_by 2 - config.retried
decreasing_by
  have hcount : config.retried < 2 := of_decide_eq_true (Bool.and_eq_true_iff.mp h).2
  show 2 - (config.retried + 1) < 2 - config.retried
  omega

/-- What the caller of an attempt receives that is never retried. -/
def alone (o : Outcome) : Promise := settle (dispatchRequest o)

/-- A 5xx or a network error. -/
def Outcome.isRetryable (o : Outcome) : Bool :=
  match dispatchRequest o with
  | .ok _ => false
  | .error error => isRetryableStatus (error.response.map fun r => r.status)

/-! ## How a call settles -/

/-- A call settles as its last attempt alone would, passed through the second interceptor once
more for each retry; the attempts before it failed with a retryable error, and it did not or was
the third. -/
theorem api_eq (outcome : ℕ → Outcome) (config : RequestConfig) (a : ℕ) :
    ∃ k, api outcome config a = (settle^[k] (alone (outcome (a + k))), a + k) ∧
      (∀ i < k, (outcome (a + i)).isRetryable = true) ∧ k ≤ 2 - config.retried ∧
      (config.isIdempotent = true → (outcome (a + k)).isRetryable = true →
        2 ≤ config.retried + k) := by
  fun_induction api outcome config a with
  | case1 config a response hdispatch =>
    refine ⟨0, ?_, fun i hi => absurd hi (Nat.not_lt_zero i), Nat.zero_le _, ?_⟩
    · simp only [Function.iterate_zero, id, Nat.add_zero, alone, hdispatch]
    · intro _ hretryable
      simp only [Nat.add_zero, Outcome.isRetryable, hdispatch] at hretryable
      cases hretryable
  | case2 config a error hdispatch hretries again ih =>
    obtain ⟨k, hk, hbefore, hle, hlast⟩ := ih
    have hparts := Bool.and_eq_true_iff.mp hretries
    have hstatus := (Bool.and_eq_true_iff.mp hparts.1).2
    have hcount : config.retried < 2 := of_decide_eq_true hparts.2
    have hnext : config.next.retried = config.retried + 1 := rfl
    have hshift : ∀ i, a + 1 + i = a + (i + 1) := fun i => by omega
    refine ⟨k + 1, ?_, ?_, by omega, ?_⟩
    · simp only [again, hk, Function.iterate_succ_apply', hshift]
    · intro i hi
      cases i with
      | zero => simp only [Nat.add_zero, Outcome.isRetryable, hdispatch, hstatus]
      | succ i => exact hshift i ▸ hbefore i (Nat.lt_of_succ_lt_succ hi)
    · intro hidem hretryable
      have hdone := hlast hidem (hshift k ▸ hretryable)
      omega
  | case3 config a error hdispatch hretries =>
    refine ⟨0, ?_, fun i hi => absurd hi (Nat.not_lt_zero i), Nat.zero_le _, ?_⟩
    · simp only [Function.iterate_zero, id, Nat.add_zero, alone, hdispatch]
    · intro hidem hretryable
      simp only [Nat.add_zero, Outcome.isRetryable, hdispatch] at hretryable
      simp only [RequestConfig.retries, hidem, hretryable, Bool.and_self, Bool.true_and,
        decide_eq_true_eq] at hretries
      omega

/-! ## Unwrapping twice -/

/-- How much text a value has. -/
noncomputable def Value.size : Value → ℕ
  | .undefined => 0
  | .json j => sizeOf j

/-- A field is less than its object. -/
theorem size_field_lt (key : String) (j : Json) : (j.field key).size < sizeOf j := by
  cases j with
  | obj fields =>
    rw [Json.field]
    cases hfind : fields.find? fun f => f.1 == key with
    | none =>
      simp only [Option.map_none, Option.getD_none, Value.size, Json.obj.sizeOf_spec]
      omega
    | some f =>
      have hmem : f ∈ fields := List.mem_of_find?_eq_some hfind
      have hlist : sizeOf f < sizeOf fields := List.sizeOf_lt_of_mem hmem
      obtain ⟨key', j'⟩ := f
      simp only [Prod.mk.sizeOf_spec] at hlist
      simp only [Option.map_some, Option.getD_some, Value.size, Json.obj.sizeOf_spec]
      omega
  | _ =>
    simp only [Json.field, Value.size, Json.null.sizeOf_spec, Json.bool.sizeOf_spec,
      Json.num.sizeOf_spec, Json.str.sizeOf_spec, Json.arr.sizeOf_spec]
    omega

/-- What unwraps is less than what it unwraps from. -/
theorem size_lt_of_unwrap {v w : Value} (h : unwrap v = .ok w) : w.size < v.size := by
  cases v with
  | undefined => cases h
  | json j =>
    cases j with
    | null => cases h
    | _ =>
      cases h
      exact size_field_lt "data" _

theorem settle_ok_of_ok {p : Promise} {w : Value} (h : settle p = .ok w) :
    ∃ v, p = .ok v ∧ w.size < v.size := by
  cases p with
  | ok v => exact ⟨v, rfl, size_lt_of_unwrap h⟩
  | error e => cases h

/-- Passing a payload on makes it less. -/
theorem iterate_settle_ok {k : ℕ} {p : Promise} {w : Value} (h : settle^[k] p = .ok w) :
    ∃ v, p = .ok v ∧ w.size + k ≤ v.size := by
  induction k generalizing w with
  | zero => exact ⟨w, h, le_rfl⟩
  | succ k ih =>
    rw [Function.iterate_succ_apply'] at h
    obtain ⟨u, hu, hlt⟩ := settle_ok_of_ok h
    obtain ⟨v, hv, hle⟩ := ih hu
    exact ⟨v, hv, by omega⟩

/-- A rejection passed on has no response to read. -/
theorem iterate_settle_failure (k : ℕ) (f : Failure) :
    settle^[k + 1] (.error (.failure f)) = alone .networkError := by
  induction k with
  | zero => rfl
  | succ k ih =>
    rw [Function.iterate_succ_apply', ih]
    rfl

/-- Passing a settled attempt on changes it, unless it was a network error. -/
theorem iterate_settle_alone_iff (k : ℕ) (o : Outcome) :
    settle^[k + 1] (alone o) = alone o ↔ o = .networkError := by
  cases o with
  | networkError => exact iff_of_true (iterate_settle_failure k _) rfl
  | response r =>
    refine iff_of_false ?_ (by rintro ⟨⟩)
    intro h
    by_cases hok : (decide (200 ≤ r.status) && decide (r.status < 300)) = true
    · have halone : alone (.response r) = .ok (.json r.data) := by
        rw [alone, dispatchRequest, if_pos hok]
        rfl
      obtain ⟨v, hv, hle⟩ := iterate_settle_ok (h.trans halone)
      cases halone.symm.trans hv
      omega
    · have halone : alone (.response r) =
          .error (.failure (Reason.axiosError (some r)).describe) := by
        rw [alone, dispatchRequest, if_neg hok]
        rfl
      rw [halone, iterate_settle_failure] at h
      have hstatus := congrArg Failure.status (Reason.failure.inj (Except.error.inj h))
      cases hstatus

/-- A call of an idempotent method is settled as its last attempt alone would be exactly when the
first attempt is not retried, or the third is made and is a network error. -/
theorem api_transparent_iff (method : Option String) (outcome : ℕ → Outcome)
    (hidem : RequestConfig.isIdempotent { method } = true) :
    (api outcome { method } 0).1 = alone (outcome (api outcome { method } 0).2) ↔
      (outcome 0).isRetryable = false ∨
        ((outcome 1).isRetryable = true ∧ outcome 2 = .networkError) := by
  obtain ⟨k, hk, hbefore, hle, hlast⟩ := api_eq outcome { method } 0
  have hretried : RequestConfig.retried { method } = 0 := rfl
  have hlast := hlast hidem
  simp only [Nat.zero_add] at hk hbefore hlast
  rw [hk]
  rw [hretried] at hle hlast
  cases k with
  | zero =>
    have hsettled : (outcome 0).isRetryable = false := by
      refine Bool.eq_false_iff.mpr fun hretryable => ?_
      have hthird := hlast hretryable
      omega
    exact iff_of_true rfl (Or.inl hsettled)
  | succ k =>
    rw [iterate_settle_alone_iff]
    have hfirst := hbefore 0 (Nat.succ_pos k)
    constructor
    · intro hnetwork
      have hretryable : (outcome (k + 1)).isRetryable = true := by rw [hnetwork]; rfl
      have hk1 : k = 1 := by
        have hthird := hlast hretryable
        omega
      subst hk1
      exact Or.inr ⟨hbefore 1 (by omega), hnetwork⟩
    · rintro (hsettled | ⟨hsecond, hnetwork⟩)
      · exact absurd hfirst (by simp [hsettled])
      · have hk1 : k = 1 := by
          by_contra hne
          have hk0 : k = 0 := by omega
          subst hk0
          have hthird := hlast hsecond
          omega
        subst hk1
        exact hnetwork

theorem api_of_ok {outcome : ℕ → Outcome} {config : RequestConfig} {a : ℕ} {response : Value}
    (h : dispatchRequest (outcome a) = .ok response) :
    api outcome config a = (settle (.ok response), a) := by
  rw [api]
  split
  · next hok => rw [Except.ok.inj (h.symm.trans hok)]
  · next herror => cases h.symm.trans herror

theorem api_of_retries {outcome : ℕ → Outcome} {config : RequestConfig} {a : ℕ} {error : Reason}
    (h : dispatchRequest (outcome a) = .error error) (hretries : config.retries error = true) :
    api outcome config a =
      (settle (api outcome config.next (a + 1)).1, (api outcome config.next (a + 1)).2) := by
  rw [api]
  split
  · next hok => cases h.symm.trans hok
  · next herror =>
    cases h.symm.trans herror
    rw [dif_pos hretries]

/-- A read whose attempts all find the network down. -/
theorem api_transparent_offline :
    (api (fun _ => .networkError) { method := some "GET" } 0).1 = alone .networkError :=
  (api_transparent_iff (some "GET") (fun _ => .networkError) (by decide +kernel)).mpr
    (Or.inr ⟨rfl, rfl⟩)

/-- A server that fails once and then answers. -/
def failsOnce : ℕ → Outcome
  | 0 => .response { status := 503, data := .null }
  | _ => .response { status := 200, data := .obj [("balance", .num 5)] }

/-- The caller of a read receives `undefined` and not the payload. -/
theorem api_failsOnce : RequestConfig.isIdempotent { method := some "GET" } = true ∧
    api failsOnce { method := some "GET" } 0 = (.ok .undefined, 1) ∧
    alone (failsOnce 1) = .ok (.json (.obj [("balance", .num 5)])) ∧
    (api failsOnce { method := some "GET" } 0).1 ≠
      alone (failsOnce (api failsOnce { method := some "GET" } 0).2) := by
  have hcall : api failsOnce { method := some "GET" } 0 = (.ok .undefined, 1) := by
    have hfirst : dispatchRequest (failsOnce 0) =
        .error (.axiosError (some { status := 503, data := .null })) := rfl
    have hsecond : dispatchRequest (failsOnce 1) =
        .ok (Response.toValue { status := 200, data := .obj [("balance", .num 5)] }) := rfl
    rw [api_of_retries hfirst (by decide +kernel), api_of_ok hsecond]
    rfl
  have halone : alone (failsOnce 1) = .ok (.json (.obj [("balance", .num 5)])) := rfl
  refine ⟨by decide +kernel, hcall, halone, ?_⟩
  rw [hcall, halone]
  rintro ⟨⟩

end Frontend
end TransHub
