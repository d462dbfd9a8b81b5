import Mathlib.Data.List.Chain
import Mathlib.Tactic.Basic

/-!
# Guarded transition systems and their runs

A system is a class of initial states together with a guarded step: `step s a`
is the state after label `a`, or `none` when `a` is not enabled in `s`.  One
definition then serves replay (`run` evaluates on a concrete list of labels) and
proof (`Reachable.invariant` and the rules below).

* `run`, `Reachable`, `Leads`: finite runs, the states they reach from an initial
  state, and the states they reach from a given one.
* `Reachable.invariant`: the induction on runs, packaged once, and `run_rule`, the same
  with the labels of the run at hand.
* `AllSteps`: a condition on every step of one run, and `trace`, the states the
  run visits; `isChain_trace_iff` reads a relation between consecutive states as
  a condition on steps, and `AllSteps.invariant_trace` carries an invariant to each
  of them.
* `allSteps_iff`: two conditions that agree on reachable states are met by the
  same runs; `allSteps_iff_forall_trace` and `AllSteps.of_prefixes`: the condition that keeps
  a property of all states, or of all prefixes.
* `collect`: what the steps of a run yield, and the log that holds it.
* `ReachableBy`: the states reached by runs over a class of labels, with their own
  `ReachableBy.invariant`.
-/

namespace TransHub

universe u v

/-- A class of initial states and a guarded, executable step. -/
structure System (σ : Type u) (α : Type v) where
  init : σ → Prop
  step : σ → α → Option σ

namespace System

variable {σ : Type u} {α : Type v} (S : System σ α)

/-! ## Runs -/

/-- The state after a list of labels; `none` when one of them is not enabled. -/
def run (s : σ) : List α → Option σ
  | [] => some s
  | a :: l => (S.step s a).bind fun t => run t l

@[simp] theorem run_nil (s : σ) : S.run s [] = some s := rfl

theorem run_cons (s : σ) (a : α) (l : List α) :
    S.run s (a :: l) = (S.step s a).bind fun t => S.run t l := rfl

theorem run_cons_eq_some {s t : σ} {a : α} {l : List α} :
    S.run s (a :: l) = some t ↔ ∃ m, S.step s a = some m ∧ S.run m l = some t := by
  rw [run_cons, Option.bind_eq_some_iff]

theorem run_append (s : σ) (l₁ l₂ : List α) :
    S.run s (l₁ ++ l₂) = (S.run s l₁).bind fun t => S.run t l₂ := by
  induction l₁ generalizing s with
  | nil => rfl
  | cons a l₁ ih =>
    rw [List.cons_append, run_cons, run_cons]
    cases S.step s a with
    | none => rfl
    | some m => exact ih m

theorem run_snoc_eq_some {s t : σ} {l : List α} {a : α} :
    S.run s (l ++ [a]) = some t ↔ ∃ m, S.run s l = some m ∧ S.step m a = some t := by
  rw [run_append, Option.bind_eq_some_iff]
  refine exists_congr fun m => and_congr_right ?_
  intro _
  rw [run_cons_eq_some]
  constructor
  · rintro ⟨n, hn, ht⟩
    rw [run_nil, Option.some.injEq] at ht
    rw [hn, ht]
  · exact fun h => ⟨t, h, rfl⟩

/-- Some run leads from `s` to `t`. -/
def Leads (s t : σ) : Prop := ∃ l, S.run s l = some t

/-- Some run leads from an initial state to `s`. -/
def Reachable (s : σ) : Prop := ∃ s₀, S.init s₀ ∧ S.Leads s₀ s

variable {S}

theorem Leads.refl (s : σ) : S.Leads s s := ⟨[], rfl⟩

theorem Leads.trans {s t r : σ} (h₁ : S.Leads s t) (h₂ : S.Leads t r) : S.Leads s r := by
  obtain ⟨l₁, h₁⟩ := h₁
  obtain ⟨l₂, h₂⟩ := h₂
  exact ⟨l₁ ++ l₂, by rw [run_append, h₁]; exact h₂⟩

theorem Leads.of_step {s t : σ} {a : α} (h : S.step s a = some t) : S.Leads s t :=
  ⟨[a], by rw [run_cons, h]; rfl⟩

theorem Leads.tail {s t r : σ} {a : α} (h : S.Leads s t) (hs : S.step t a = some r) :
    S.Leads s r :=
  h.trans (.of_step hs)

theorem Reachable.of_init {s : σ} (h : S.init s) : S.Reachable s := ⟨s, h, .refl s⟩

theorem Reachable.leads {s t : σ} (h : S.Reachable s) (hl : S.Leads s t) : S.Reachable t := by
  obtain ⟨s₀, h₀, hs⟩ := h
  exact ⟨s₀, h₀, hs.trans hl⟩

theorem Reachable.step {s t : σ} {a : α} (h : S.Reachable s) (hs : S.step s a = some t) :
    S.Reachable t :=
  h.leads (.of_step hs)

theorem Reachable.run {s t : σ} {l : List α} (h : S.Reachable s) (hr : S.run s l = some t) :
    S.Reachable t :=
  h.leads ⟨l, hr⟩

/-! ## Invariants -/

/-- **What every step keeps, every run keeps.**  The step may use that it starts
in a reachable state. -/
theorem Leads.stable {P : σ → Prop} {s t : σ} (hr : S.Reachable s) (h : S.Leads s t)
    (hstep : ∀ r a r', S.Reachable r → P r → S.step r a = some r' → P r') (hs : P s) :
    P t := by
  obtain ⟨l, hl⟩ := h
  induction l generalizing s with
  | nil =>
    rw [run_nil, Option.some.injEq] at hl
    rwa [← hl]
  | cons a l ih =>
    obtain ⟨m, hm, hl⟩ := S.run_cons_eq_some.mp hl
    exact ih (hr.step hm) (hstep s a m hr hs hm) hl

/-- **The invariant rule.** -/
theorem Reachable.invariant {P : σ → Prop} {s : σ} (h : S.Reachable s)
    (hinit : ∀ r, S.init r → P r)
    (hstep : ∀ r a r', P r → S.step r a = some r' → P r') : P s := by
  obtain ⟨s₀, h₀, hl⟩ := h
  exact hl.stable (.of_init h₀) (fun r a r' _ => hstep r a r') (hinit s₀ h₀)

/-- A relation that is reflexive, transitive and holds across every step out of a
reachable state holds across every run. -/
theorem Leads.rel {R : σ → σ → Prop} {s t : σ} (hr : S.Reachable s) (h : S.Leads s t)
    (hrefl : ∀ r, R r r) (htrans : ∀ a b c, R a b → R b c → R a c)
    (hstep : ∀ r a r', S.Reachable r → S.step r a = some r' → R r r') : R s t :=
  h.stable hr (fun r a r' hr' hsr hs => htrans s r r' hsr (hstep r a r' hr' hs)) (hrefl s)

/-- The invariant rule with the labels of the run so far. -/
theorem run_rule {P : List α → σ → Prop} {s t : σ} {l : List α} (h : S.run s l = some t)
    (hnil : P [] s)
    (hstep : ∀ l r a r', S.run s l = some r → P l r → S.step r a = some r' → P (l ++ [a]) r') :
    P l t := by
  induction l using List.reverseRecOn generalizing t with
  | nil =>
    rw [run_nil, Option.some.injEq] at h
    rwa [← h]
  | append_singleton l a ih =>
    obtain ⟨r, hr, ht⟩ := S.run_snoc_eq_some.mp h
    exact hstep l r a t hr (ih hr) ht

/-- What differs after a run has been changed by one of its steps. -/
theorem exists_change {β : Type*} (f : σ → β) {s t : σ} {l : List α} (h : S.run s l = some t)
    (hne : f t ≠ f s) : ∃ l₁ a l₂ m m', l = l₁ ++ a :: l₂ ∧ S.run s l₁ = some m ∧
      S.step m a = some m' ∧ f m' ≠ f m := by
  induction l generalizing s with
  | nil =>
    rw [run_nil, Option.some.injEq] at h
    exact absurd (congrArg f h.symm) hne
  | cons a l ih =>
    obtain ⟨m, hm, hl⟩ := S.run_cons_eq_some.mp h
    by_cases hfm : f m = f s
    · obtain ⟨l₁, b, l₂, n, n', rfl, hn, hb, hchange⟩ := ih hl (by rwa [hfm])
      exact ⟨a :: l₁, b, l₂, n, n', rfl, S.run_cons_eq_some.mpr ⟨m, hm, hn⟩, hb, hchange⟩
    · exact ⟨[], a, l, s, m, rfl, rfl, hm, hfm⟩

/-! ## Conditions on the steps of one run -/

variable (S) in
/-- Every step of the run of `l` from `s` meets `C`, which sees the state before
the step and the label. -/
def AllSteps (C : σ → α → Prop) (s : σ) : List α → Prop
  | [] => True
  | a :: l => C s a ∧ ∀ t, S.step s a = some t → AllSteps C t l

instance decidableAllSteps (C : σ → α → Prop) [∀ s a, Decidable (C s a)] :
    (s : σ) → (l : List α) → Decidable (S.AllSteps C s l)
  | _, [] => isTrue trivial
  | s, a :: l => match h : S.step s a with
    | none => decidable_of_iff (C s a) (by simp [AllSteps, h])
    | some t =>
      have := decidableAllSteps C t l
      decidable_of_iff (C s a ∧ S.AllSteps C t l) (by simp [AllSteps, h])

/-- An invariant that only the steps meeting `C` are known to keep. -/
theorem AllSteps.invariant {C : σ → α → Prop} {P : σ → Prop} {s t : σ} {l : List α}
    (h : S.AllSteps C s l) (hl : S.run s l = some t)
    (hstep : ∀ r a r', P r → C r a → S.step r a = some r' → P r') (hs : P s) : P t := by
  induction l generalizing s with
  | nil =>
    rw [run_nil, Option.some.injEq] at hl
    rwa [← hl]
  | cons a l ih =>
    obtain ⟨m, hm, hl⟩ := S.run_cons_eq_some.mp hl
    exact ih (h.2 m hm) hl (hstep s a m hs h.1 hm)

/-- Along a run that meets `C`, a condition `D` implied by `C` and an invariant
that `C` keeps is met as well. -/
theorem AllSteps.mono {C D : σ → α → Prop} {P : σ → Prop} {s : σ} {l : List α}
    (h : S.AllSteps C s l)
    (hstep : ∀ r a r', P r → C r a → S.step r a = some r' → P r')
    (himp : ∀ r a, P r → C r a → D r a) (hs : P s) : S.AllSteps D s l := by
  induction l generalizing s with
  | nil => trivial
  | cons a l ih =>
    exact ⟨himp s a hs h.1, fun t ht => ih (h.2 t ht) (hstep s a t hs h.1 ht)⟩

/-- Two conditions that agree in every reachable state are met by the same
runs. -/
theorem allSteps_iff {C D : σ → α → Prop} {s : σ} {l : List α} (hr : S.Reachable s)
    (himp : ∀ r a, S.Reachable r → (C r a ↔ D r a)) :
    S.AllSteps C s l ↔ S.AllSteps D s l :=
  ⟨fun h => h.mono (P := S.Reachable) (fun _ _ _ hP _ hs => hP.step hs)
      (fun r a hP => (himp r a hP).mp) hr,
    fun h => h.mono (P := S.Reachable) (fun _ _ _ hP _ hs => hP.step hs)
      (fun r a hP => (himp r a hP).mpr) hr⟩

/-- A step of the run, from the condition on all of them. -/
theorem AllSteps.at {C : σ → α → Prop} {s m : σ} {l₁ l₂ : List α} {a : α}
    (h : S.AllSteps C s (l₁ ++ a :: l₂)) (hm : S.run s l₁ = some m) : C m a := by
  induction l₁ generalizing s with
  | nil =>
    rw [run_nil, Option.some.injEq] at hm
    rw [← hm]
    exact h.1
  | cons b l₁ ih =>
    obtain ⟨n, hn, hm⟩ := S.run_cons_eq_some.mp hm
    exact ih (h.2 n hn) hm

/-- The rest of a run meets what the whole run meets. -/
theorem AllSteps.drop {C : σ → α → Prop} {s m : σ} {l₁ l₂ : List α}
    (h : S.AllSteps C s (l₁ ++ l₂)) (hm : S.run s l₁ = some m) : S.AllSteps C m l₂ := by
  induction l₁ generalizing s with
  | nil =>
    rw [run_nil, Option.some.injEq] at hm
    rw [← hm]
    exact h
  | cons b l₁ ih =>
    obtain ⟨n, hn, hm⟩ := S.run_cons_eq_some.mp hm
    exact ih (h.2 n hn) hm

/-- So does its beginning. -/
theorem AllSteps.take {C : σ → α → Prop} {s : σ} {l₁ l₂ : List α}
    (h : S.AllSteps C s (l₁ ++ l₂)) : S.AllSteps C s l₁ := by
  induction l₁ generalizing s with
  | nil => trivial
  | cons a l₁ ih => exact ⟨h.1, fun t ht => ih (h.2 t ht)⟩

/-- Two conditions on the steps of a run are one. -/
theorem AllSteps.and {C D : σ → α → Prop} {s : σ} {l : List α} (hC : S.AllSteps C s l)
    (hD : S.AllSteps D s l) : S.AllSteps (fun r a => C r a ∧ D r a) s l := by
  induction l generalizing s with
  | nil => trivial
  | cons a l ih => exact ⟨⟨hC.1, hD.1⟩, fun t ht => ih (hC.2 t ht) (hD.2 t ht)⟩

variable (S) in
/-- The states a run visits, the first one included. -/
def trace (s : σ) : List α → List σ
  | [] => [s]
  | a :: l => s :: match S.step s a with
    | some t => trace t l
    | none => []

theorem trace_head (s : σ) (l : List α) : ∃ l', S.trace s l = s :: l' := by
  cases l with
  | nil => exact ⟨[], rfl⟩
  | cons a l => exact ⟨_, rfl⟩

theorem mem_trace_self (s : σ) (l : List α) : s ∈ S.trace s l := by
  obtain ⟨l', hl'⟩ := trace_head (S := S) s l
  rw [hl']
  exact List.mem_cons_self

theorem mem_trace_cons {s m : σ} {a : α} {l : List α} :
    m ∈ S.trace s (a :: l) ↔ m = s ∨ ∃ t, S.step s a = some t ∧ m ∈ S.trace t l := by
  cases hs : S.step s a with
  | none => simp [trace, hs]
  | some t => simp [trace, hs]

/-- A run visits the state it ends in. -/
theorem mem_trace_of_run {s t : σ} {l : List α} (h : S.run s l = some t) : t ∈ S.trace s l := by
  induction l generalizing s with
  | nil =>
    rw [run_nil, Option.some.injEq] at h
    rw [h, trace]
    exact List.mem_singleton_self t
  | cons a l ih =>
    obtain ⟨m, hm, h⟩ := S.run_cons_eq_some.mp h
    exact mem_trace_cons.mpr (Or.inr ⟨m, hm, ih h⟩)

/-- A longer run visits what its beginning does. -/
theorem mem_trace_append {s m : σ} {l₁ l₂ : List α} (h : m ∈ S.trace s l₁) :
    m ∈ S.trace s (l₁ ++ l₂) := by
  induction l₁ generalizing s with
  | nil =>
    rw [trace, List.mem_singleton] at h
    rw [h]
    exact mem_trace_self s _
  | cons a l₁ ih =>
    rw [List.cons_append]
    rcases mem_trace_cons.mp h with rfl | ⟨t, ht, h⟩
    · exact mem_trace_self m _
    · exact mem_trace_cons.mpr (Or.inr ⟨t, ht, ih h⟩)

/-- What the steps of a run keep holds in every state it visits. -/
theorem AllSteps.invariant_trace {C : σ → α → Prop} {P : σ → Prop} {s m : σ} {l : List α}
    (h : S.AllSteps C s l)
    (hstep : ∀ r a r', P r → C r a → S.step r a = some r' → P r') (hs : P s)
    (hm : m ∈ S.trace s l) : P m := by
  induction l generalizing s with
  | nil =>
    rw [trace, List.mem_singleton] at hm
    rwa [hm]
  | cons a l ih =>
    rcases mem_trace_cons.mp hm with rfl | ⟨t, ht, hm⟩
    · exact hs
    · exact ih (h.2 t ht) (hstep s a t hs h.1 ht) hm

/-- **Consecutive states.**  A relation holds between any two consecutive states
of a run exactly when it holds across each of its steps. -/
theorem isChain_trace_iff {R : σ → σ → Prop} {s : σ} {l : List α} :
    (S.trace s l).IsChain R ↔
      S.AllSteps (fun r a => ∀ t, S.step r a = some t → R r t) s l := by
  induction l generalizing s with
  | nil => simp [trace, AllSteps]
  | cons a l ih =>
    cases hs : S.step s a with
    | none => simp [trace, AllSteps, hs]
    | some t =>
      obtain ⟨l', hl'⟩ := trace_head (S := S) t l
      have htr : S.trace s (a :: l) = s :: t :: l' := by
        rw [← hl']
        simp [trace, hs]
      rw [htr, List.isChain_cons_cons, ← hl', ih]
      simp [AllSteps, hs]

/-- **A property of all states of a run, as a condition on its steps.**  The steps that
meet the condition keep the property, and all others break it. -/
theorem allSteps_iff_forall_trace {C : σ → α → Prop} {P : σ → Prop} {s : σ} {l : List α}
    (hkeep : ∀ r a r', S.Reachable r → P r → C r a → S.step r a = some r' → P r')
    (hbreak : ∀ r a, S.Reachable r → ¬ C r a → ∃ r', S.step r a = some r' ∧ ¬ P r')
    (hr : S.Reachable s) (hs : P s) : S.AllSteps C s l ↔ ∀ m ∈ S.trace s l, P m := by
  constructor
  · intro hall m hm
    refine (hall.invariant_trace (P := fun r => S.Reachable r ∧ P r) ?_ ⟨hr, hs⟩ hm).2
    exact fun r a r' hP hC hstep => ⟨hP.1.step hstep, hkeep r a r' hP.1 hP.2 hC hstep⟩
  · intro hP
    induction l generalizing s with
    | nil => trivial
    | cons a l ih =>
      refine ⟨?_, ?_⟩
      · by_contra hC
        obtain ⟨t, ht, hnot⟩ := hbreak s a hr hC
        have hmem : t ∈ S.trace s (a :: l) :=
          mem_trace_cons.mpr (Or.inr ⟨t, ht, mem_trace_self t l⟩)
        exact hnot (hP t hmem)
      · intro t ht
        have hall : ∀ m ∈ S.trace t l, P m := by
          intro m hm
          exact hP m (mem_trace_cons.mpr (Or.inr ⟨t, ht, hm⟩))
        exact ih (hr.step ht) (hall t (mem_trace_self t l)) hall

/-- **A property of the prefixes of a run, as a condition on its steps.**  Steps that meet
`C` keep an invariant of the runs that meet `D`, and all others show in the prefix they
end. -/
theorem AllSteps.of_prefixes {C D : σ → α → Prop} {J : σ → Prop} {Q : List α → σ → Prop}
    {s : σ} {acts : List α} (hD : S.AllSteps D s acts)
    (hkeep : ∀ r a r', J r → D r a → C r a → S.step r a = some r' → J r')
    (hbreak : ∀ l r a, J r → D r a → ¬ C r a → ∃ r', S.step r a = some r' ∧ ¬ Q (l ++ [a]) r')
    (hs : J s) (hQ : ∀ l₁ l₂ m, acts = l₁ ++ l₂ → S.run s l₁ = some m → Q l₁ m) :
    S.AllSteps C s acts := by
  induction acts generalizing s Q with
  | nil => trivial
  | cons a l ih =>
    have hC : C s a := by
      by_contra hC
      obtain ⟨t, ht, hnot⟩ := hbreak [] s a hs hD.1 hC
      refine hnot (hQ [a] l t rfl ?_)
      rw [run_cons, ht]
      rfl
    refine ⟨hC, ?_⟩
    intro t ht
    refine ih (Q := fun l m => Q (a :: l) m) (hD.2 t ht) (fun l r b => hbreak (a :: l) r b)
      (hkeep s a t hs hD.1 hC ht) ?_
    rintro l₁ l₂ m rfl hm
    refine hQ (a :: l₁) l₂ m rfl ?_
    rw [run_cons, ht]
    exact hm

/-! ## What a run adds to a log -/

variable (S) in
/-- What the steps of a run yield, in turn. -/
def collect {β : Type*} (f : σ → σ → List β) (s : σ) : List α → List β
  | [] => []
  | a :: l => match S.step s a with
    | some t => f s t ++ collect f t l
    | none => []

/-- A log to which every step adds what it yields holds what the run has yielded. -/
theorem AllSteps.collect_eq {β : Type*} {f : σ → σ → List β} {g : σ → List β}
    {C : σ → α → Prop} {P : σ → Prop} {s t : σ} {l : List α} (h : S.AllSteps C s l)
    (hl : S.run s l = some t)
    (hstep : ∀ r a r', P r → C r a → S.step r a = some r' → P r' ∧ g r' = g r ++ f r r')
    (hs : P s) : g t = g s ++ S.collect f s l := by
  induction l generalizing s with
  | nil =>
    rw [run_nil, Option.some.injEq] at hl
    rw [← hl]
    exact (List.append_nil _).symm
  | cons a l ih =>
    obtain ⟨m, hm, hl⟩ := S.run_cons_eq_some.mp hl
    obtain ⟨hP, hg⟩ := hstep s a m hs h.1 hm
    have htail := ih (h.2 m hm) hl hP
    have hcollect : S.collect f s (a :: l) = f s m ++ S.collect f m l := by
      rw [collect, hm]
    rw [htail, hg, hcollect, List.append_assoc]

/-! ## Runs over a class of labels -/

variable (S) in
/-- Some run whose labels all lie in `ok` leads from an initial state to `s`. -/
def ReachableBy (ok : α → Prop) (s : σ) : Prop :=
  ∃ s₀ l, S.init s₀ ∧ (∀ a ∈ l, ok a) ∧ S.run s₀ l = some s

theorem ReachableBy.reachable {ok : α → Prop} {s : σ} (h : S.ReachableBy ok s) :
    S.Reachable s := by
  obtain ⟨s₀, l, h₀, -, hl⟩ := h
  exact ⟨s₀, h₀, l, hl⟩

theorem Reachable.by_any {s : σ} (h : S.Reachable s) : S.ReachableBy (fun _ => True) s := by
  obtain ⟨s₀, h₀, l, hl⟩ := h
  exact ⟨s₀, l, h₀, fun _ _ => trivial, hl⟩

theorem ReachableBy.step {ok : α → Prop} {s t : σ} {a : α} (h : S.ReachableBy ok s)
    (ha : ok a) (hs : S.step s a = some t) : S.ReachableBy ok t := by
  obtain ⟨s₀, l, h₀, hok, hl⟩ := h
  refine ⟨s₀, l ++ [a], h₀, ?_, S.run_snoc_eq_some.mpr ⟨s, hl, hs⟩⟩
  intro b hb
  rcases List.mem_append.mp hb with hb | hb
  · exact hok b hb
  · rwa [List.mem_singleton.mp hb]

/-- The invariant rule over a class of labels. -/
theorem ReachableBy.invariant {ok : α → Prop} {P : σ → Prop} {s : σ}
    (h : S.ReachableBy ok s) (hinit : ∀ r, S.init r → P r)
    (hstep : ∀ r a r', ok a → P r → S.step r a = some r' → P r') : P s := by
  obtain ⟨s₀, l, h₀, hok, hl⟩ := h
  have hP := hinit s₀ h₀
  clear h₀
  induction l generalizing s₀ with
  | nil =>
    rw [run_nil, Option.some.injEq] at hl
    rwa [← hl]
  | cons a l ih =>
    obtain ⟨m, hm, hl⟩ := S.run_cons_eq_some.mp hl
    refine ih m (fun b hb => hok b (List.mem_cons_of_mem _ hb)) hl ?_
    exact hstep s₀ a m (hok a List.mem_cons_self) hP hm

end System

end TransHub
