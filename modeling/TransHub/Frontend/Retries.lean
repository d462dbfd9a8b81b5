import TransHub.Frontend.Api
import Mathlib

/-!
# What a call sends

The chain of promises of `api(config)`, one callback after the other, with what it has sent.  The
first response interceptor calls the instance again, so that a chain runs inside another; the
outer one goes on when the inner one has settled.

* `merge`: the configuration that a chain works on; the counter stays with it.
* `step`: the next callback, over the outcomes of the requests in the order they are sent.
* `leads_api`: a chain settles as `api` says.
* `sends_bounded`: how often a call reaches the network.
-/

namespace TransHub
namespace Frontend

/-! ## Configurations -/

/-- The method of a request: `config.method || "get"`, in lower case. -/
def RequestConfig.verb (config : RequestConfig) : String :=
  ((config.method.filter fun m => m != "").getD "get").toLower

/-- `mergeConfig`, and the method that the instance sets; the counter is kept. -/
def RequestConfig.merge (config : RequestConfig) : RequestConfig :=
  { config with method := some config.verb }

theorem toLower_idem (s : String) : s.toLower.toLower = s.toLower := by
  refine String.toList_inj.mp ?_
  simp only [String.toLower, String.toList_map, List.map_map]
  exact List.map_congr_left fun c _ => Char.toLower_toLower_eq_toLower c

theorem verb_ne_empty (config : RequestConfig) : config.verb ≠ "" := by
  rw [RequestConfig.verb, String.toLower, Ne, String.map_eq_empty]
  cases hm : config.method.filter fun m => m != "" with
  | none => decide
  | some m => simpa using (Option.filter_eq_some_iff.mp hm).2

@[simp] theorem verb_merge (config : RequestConfig) : config.merge.verb = config.verb := by
  have hne : (config.verb != "") = true := bne_iff_ne.mpr (verb_ne_empty config)
  have hfilter : config.merge.method.filter (fun m => m != "") = some config.verb := by
    rw [RequestConfig.merge, Option.filter_some, if_pos hne]
  rw [RequestConfig.verb, hfilter, Option.getD_some, RequestConfig.verb, toLower_idem]

/-- The next attempt has the method of the one before. -/
theorem merge_next (config : RequestConfig) : config.merge.next.merge = config.merge.next := by
  have hverb : config.merge.next.verb = config.verb := verb_merge config
  rw [RequestConfig.merge, hverb]
  rfl

theorem isIdempotent_merge (config : RequestConfig) :
    config.merge.isIdempotent = true ↔ config.verb ∈ ["get", "head", "options"] := by
  have hlower : config.verb.toLower = config.verb := toLower_idem _
  rw [RequestConfig.isIdempotent, RequestConfig.merge, Option.getD_some, hlower,
    List.contains_iff_mem]

/-- A 5xx or a network error; a request that the network has failed may also show as one of the
status zero. -/
def Outcome.isFailure : Outcome → Bool
  | .networkError => true
  | .response r => r.status == 0 || (500 ≤ r.status && r.status < 600)

/-- The first interceptor retries what has failed. -/
theorem isRetryable_eq_isFailure (o : Outcome) : o.isRetryable = o.isFailure := by
  cases o with
  | networkError => rfl
  | response r =>
    rw [Outcome.isRetryable, Outcome.isFailure, dispatchRequest]
    by_cases hok : (decide (200 ≤ r.status) && decide (r.status < 300)) = true
    · rw [if_pos hok]
      simp only [Bool.and_eq_true, decide_eq_true_eq] at hok
      have hzero : (r.status == 0) = false := beq_false_of_ne (by omega)
      have hlow : decide (500 ≤ r.status) = false := decide_eq_false (by omega)
      rw [hzero, hlow]
      rfl
    · rw [if_neg hok]
      rfl

/-! ## The chain -/

/-- The callback of a chain that is next. -/
inductive Stage where
  /-- The instance is called. -/
  | request (config : RequestConfig)
  /-- The request interceptors have returned the configuration. -/
  | dispatch (config : RequestConfig)
  /-- The first response interceptor is next. -/
  | retry (config : RequestConfig) (promise : Promise)
  /-- The second is next. -/
  | unwrap (promise : Promise)
  /-- The promise that the instance has returned is settled. -/
  | settled (promise : Promise)

/-- A call under way. -/
structure Chain where
  stage : Stage
  /-- The chains outside, whose first response interceptor waits for this one. -/
  waiting : ℕ
  /-- What has reached the network. -/
  sent : List RequestConfig

namespace Chain

/-- `api(config)`. -/
def start (config : RequestConfig) : Chain := { stage := .request config, waiting := 0, sent := [] }

variable (outcome : ℕ → Outcome)

def step (c : Chain) : Chain :=
  match c.stage with
  | .request config => { c with stage := .dispatch config.merge }
  | .dispatch config =>
    { c with stage := .retry config (dispatchRequest (outcome c.sent.length))
             sent := c.sent ++ [config] }
  | .retry _ (.ok response) => { c with stage := .unwrap (.ok response) }
  | .retry config (.error error) =>
    if config.retries error then
      { c with stage := .request config.next, waiting := c.waiting + 1 }
    else { c with stage := .unwrap (.error error) }
  | .unwrap promise => { c with stage := .settled (settle promise) }
  | .settled promise =>
    match c.waiting with
    | 0 => c
    | n + 1 => { c with stage := .unwrap promise, waiting := n }

/-- Some callbacks later. -/
def Leads (c c' : Chain) : Prop := ∃ n, (step outcome)^[n] c = c'

variable {outcome} {c c' c'' : Chain}

theorem Leads.trans (h : Leads outcome c c') (h' : Leads outcome c' c'') : Leads outcome c c'' := by
  obtain ⟨n, rfl⟩ := h
  obtain ⟨m, rfl⟩ := h'
  exact ⟨m + n, Function.iterate_add_apply _ m n c⟩

theorem Leads.head (h : Leads outcome (step outcome c) c') : Leads outcome c c' := by
  obtain ⟨n, rfl⟩ := h
  exact ⟨n + 1, Function.iterate_succ_apply _ n c⟩

theorem Leads.of_step (h : step outcome c = c') : Leads outcome c c' := ⟨1, h⟩

section
variable {config : RequestConfig} {error : Reason} {waiting : ℕ} {sent : List RequestConfig}

theorem step_dispatch (config : RequestConfig) (waiting : ℕ) {promise : Promise}
    (h : dispatchRequest (outcome sent.length) = promise) :
    step outcome ⟨.dispatch config, waiting, sent⟩ =
      ⟨.retry config promise, waiting, sent ++ [config]⟩ := by
  rw [← h]
  rfl

theorem step_retries (h : config.retries error = true) :
    step outcome ⟨.retry config (.error error), waiting, sent⟩ =
      ⟨.request config.next, waiting + 1, sent⟩ := if_pos h

theorem step_rejects (h : ¬ config.retries error = true) :
    step outcome ⟨.retry config (.error error), waiting, sent⟩ =
      ⟨.unwrap (.error error), waiting, sent⟩ := if_neg h

/-- A settled attempt that is not retried passes the second interceptor. -/
theorem leads_settled {promise : Promise}
    (h : step outcome ⟨.retry config promise, waiting, sent⟩ = ⟨.unwrap promise, waiting, sent⟩) :
    Leads outcome ⟨.retry config promise, waiting, sent⟩
      ⟨.settled (settle promise), waiting, sent⟩ :=
  (Leads.of_step h).trans (Leads.of_step rfl)

end

/-- A callback sends a request or none, and takes none back. -/
theorem sent_step (outcome : ℕ → Outcome) (c : Chain) : (step outcome c).sent = c.sent ∨
    ∃ config, (step outcome c).sent = c.sent ++ [config] := by
  obtain ⟨stage, waiting, sends⟩ := c
  cases stage with
  | dispatch config => exact Or.inr ⟨config, rfl⟩
  | retry config promise =>
    cases promise with
    | ok response => exact Or.inl rfl
    | error error =>
      by_cases hretries : config.retries error = true
      · exact Or.inl (by rw [step_retries hretries])
      · exact Or.inl (by rw [step_rejects hretries])
  | settled promise => cases waiting <;> exact Or.inl rfl
  | _ => exact Or.inl rfl

theorem sent_iterate (n : ℕ) : c.sent <+: ((step outcome)^[n] c).sent := by
  induction n with
  | zero => exact List.prefix_rfl
  | succ n ih =>
    rw [Function.iterate_succ_apply']
    rcases sent_step outcome ((step outcome)^[n] c) with hsame | ⟨config, hmore⟩
    · rwa [hsame]
    · rw [hmore]
      exact ih.trans (List.prefix_append _ _)

/-- Once the promise that the caller has is settled nothing follows. -/
theorem iterate_settled (promise : Promise) (sent : List RequestConfig) (n : ℕ) :
    (step outcome)^[n] ⟨.settled promise, 0, sent⟩ = ⟨.settled promise, 0, sent⟩ :=
  Function.iterate_fixed rfl n

/-- A chain settles as `api` says, and sends a request for each attempt. -/
theorem leads_api (config : RequestConfig) (hmerged : config.merge = config) (waiting : ℕ)
    (sent : List RequestConfig) :
    ∃ sent', Leads outcome ⟨.dispatch config, waiting, sent⟩
      ⟨.settled (api outcome config sent.length).1, waiting, sent'⟩ ∧
      sent'.length = (api outcome config sent.length).2 + 1 := by
  generalize hattempt : sent.length = attempt
  fun_induction api outcome config attempt generalizing waiting sent with
  | case1 config a response hdispatch =>
    have hsent := step_dispatch config waiting (hattempt ▸ hdispatch)
    have hcount : (sent ++ [config]).length = a + 1 := hattempt ▸ List.length_append
    exact ⟨_, (Leads.of_step hsent).trans (leads_settled rfl), hcount⟩
  | case2 config a error hdispatch hretries again ih =>
    have hsent := step_dispatch config waiting (hattempt ▸ hdispatch)
    have hcount : (sent ++ [config]).length = a + 1 := hattempt ▸ List.length_append
    have hnext : config.next.merge = config.next := hmerged ▸ merge_next config
    obtain ⟨sent', hinner, hlength⟩ := ih hnext (waiting + 1) (sent ++ [config]) hcount
    -- The inner chain starts and settles, and the second interceptor of this one runs.
    have hstart : Leads outcome ⟨.request config.next, waiting + 1, sent ++ [config]⟩
        ⟨.dispatch config.next, waiting + 1, sent ++ [config]⟩ :=
      Leads.of_step (congrArg (fun c => Chain.mk (.dispatch c) _ _) hnext)
    have hback : Leads outcome ⟨.settled again.1, waiting + 1, sent'⟩
        ⟨.settled (settle again.1), waiting, sent'⟩ :=
      (Leads.of_step rfl).trans (Leads.of_step rfl)
    exact ⟨sent', (Leads.of_step hsent).trans ((Leads.of_step (step_retries hretries)).trans
      (hstart.trans (hinner.trans hback))), hlength⟩
  | case3 config a error hdispatch hretries =>
    have hsent := step_dispatch config waiting (hattempt ▸ hdispatch)
    have hcount : (sent ++ [config]).length = a + 1 := hattempt ▸ List.length_append
    exact ⟨_, (Leads.of_step hsent).trans (leads_settled (step_rejects hretries)), hcount⟩

/-- From some callback on a call is settled as `api` says, and has sent a request for each attempt;
it has sent no others before. -/
theorem settles (outcome : ℕ → Outcome) (config : RequestConfig) :
    ∃ (n : ℕ) (sent : List RequestConfig),
      (∀ m, n ≤ m → (step outcome)^[m] (start config) =
        ⟨.settled (api outcome config.merge 0).1, 0, sent⟩) ∧
      (∀ m, ((step outcome)^[m] (start config)).sent <+: sent) ∧
      sent.length = (api outcome config.merge 0).2 + 1 := by
  have hmerged : config.merge.merge = config.merge := by
    rw [RequestConfig.merge, verb_merge]
    rfl
  obtain ⟨sent, hleads, hlength⟩ := leads_api config.merge hmerged 0 []
  have hcall : Leads outcome (start config) _ := Leads.head hleads
  obtain ⟨n, hn⟩ := hcall
  have hdone : ∀ m, n ≤ m → (step outcome)^[m] (start config) =
      ⟨.settled (api outcome config.merge 0).1, 0, sent⟩ := by
    intro m hm
    obtain ⟨k, rfl⟩ := Nat.exists_eq_add_of_le' hm
    rw [Function.iterate_add_apply, hn]
    exact iterate_settled _ _ k
  refine ⟨n, sent, hdone, fun m => ?_, hlength⟩
  have hend := congrArg Chain.sent (hdone (n + m) (Nat.le_add_right n m))
  rw [Function.iterate_add_apply] at hend
  calc ((step outcome)^[m] (start config)).sent
      <+: ((step outcome)^[n] ((step outcome)^[m] (start config))).sent := sent_iterate n
    _ = sent := hend

end Chain

/-! ## What a call sends -/

/-- What is not idempotent is not retried. -/
theorem api_of_not_idempotent {outcome : ℕ → Outcome} {config : RequestConfig} {a : ℕ}
    (h : ¬ config.isIdempotent = true) : (api outcome config a).2 = a := by
  rw [api]
  split
  · rfl
  · next error herror =>
    have hnot : ¬ config.retries error = true := fun hretries =>
      h (Bool.and_eq_true_iff.mp (Bool.and_eq_true_iff.mp hretries).1).1
    rw [dif_neg hnot]

/-- A call ends, whatever becomes of its requests.  It reaches the network three times at most, and
once if it does not read; the first request that has not failed is the last, and a call that reads
goes on until then or until the third. -/
theorem sends_bounded (outcome : ℕ → Outcome) (config : RequestConfig) :
    ∃ (n : ℕ) (promise : Promise) (sent : List RequestConfig),
      (∀ m, n ≤ m →
        (Chain.step outcome)^[m] (Chain.start config) = ⟨.settled promise, 0, sent⟩) ∧
      (∀ m, ((Chain.step outcome)^[m] (Chain.start config)).sent <+: sent) ∧
      (config.verb ∉ ["get", "head", "options"] → sent.length = 1) ∧
      1 ≤ sent.length ∧ sent.length ≤ 3 ∧
      (∀ i < sent.length, (outcome i).isFailure = false → i + 1 = sent.length) ∧
      (config.verb ∈ ["get", "head", "options"] → config.retryCount = none → sent.length < 3 →
        (outcome (sent.length - 1)).isFailure = false) := by
  obtain ⟨n, sent, hdone, hgrows, hlength⟩ := Chain.settles outcome config
  obtain ⟨k, hk, hbefore, hle, hlast⟩ := api_eq outcome config.merge 0
  have hcount : sent.length = k + 1 := by
    rw [hlength, hk, Nat.zero_add]
  simp only [Nat.zero_add, isRetryable_eq_isFailure] at hbefore hlast
  refine ⟨n, _, sent, hdone, hgrows, ?_, by omega, by omega, ?_, ?_⟩
  · intro hwrite
    have hnot : ¬ config.merge.isIdempotent = true :=
      fun h => hwrite ((isIdempotent_merge config).mp h)
    rw [hlength, api_of_not_idempotent hnot]
  · intro i hi hanswered
    by_contra hne
    have hfailed := hbefore i (by omega)
    exact absurd (hfailed.symm.trans hanswered) (by decide)
  · intro hread hfresh hfewer
    have hretried : config.merge.retried = 0 := by
      rw [RequestConfig.retried, RequestConfig.merge, hfresh, Option.getD_none]
    have hindex : sent.length - 1 = k := by omega
    rw [hindex]
    refine Bool.eq_false_iff.mpr fun hfailed => ?_
    have hthird := hlast ((isIdempotent_merge config).mpr hread) hfailed
    omega

end Frontend
end TransHub
