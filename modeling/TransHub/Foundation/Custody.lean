import TransHub.Foundation.Machine

/-!
# Accounting for what processes are given

A process that has ended has either accounted for what it was given or lost it.  What is
accounted for stays so, and one condition on each step decides between the two.

* `Custody`: the obligations, and `Custody.allSteps_iff`: everything is accounted for
  throughout a run exactly when each of its steps meets the condition.
* `Errand`: processes that are given an item each, which others may settle as well; a step
  that is hindered drops the item.  `Errand.custody` derives the obligations.
-/

namespace TransHub

universe u

namespace Machine

variable {ρ lam ω ι η κ : Type u} {M : Machine ρ lam ω ι η} {init : ρ → Prop}
  {ended : lam → Prop} {kept : lam → ρ → Prop} {safe : lam → ρ → ι → Prop}

variable (M) in
/-- `kept` says that a process has accounted for what it was given.  No move undoes it, a
step that is `safe` ends a process only with it, and any other step ends it without. -/
structure Custody (init : ρ → Prop) (ended : lam → Prop) (kept : lam → ρ → Prop)
    (safe : lam → ρ → ι → Prop) : Prop where
  start : ∀ o, ¬ ended (M.start o)
  stays : ∀ c a c' l, (M.system init).Reachable c → M.next c a = some c' →
    kept l c.shared → kept l c'.shared
  keeps : ∀ c i l x l' r', (M.system init).Reachable c → c.procs[i]? = some l →
    safe l c.shared x → M.step i l c.shared x = some (l', r') → ended l' → kept l' r'
  loses : ∀ c i l x, (M.system init).Reachable c → c.procs[i]? = some l →
    ¬ safe l c.shared x → ∃ l' r', M.step i l c.shared x = some (l', r') ∧ ended l' ∧
      ¬ kept l' r'

/-- Every process that has ended has accounted for what it was given. -/
def Accounted (ended : lam → Prop) (kept : lam → ρ → Prop) (c : Config ρ lam) : Prop :=
  ∀ (i : ℕ) l, c.procs[i]? = some l → ended l → kept l c.shared

/-- A step of a process is safe. -/
def Safe (safe : lam → ρ → ι → Prop) (c : Config ρ lam) (a : Act ω ι η) : Prop :=
  ∀ i x l, a = .run i x → c.procs[i]? = some l → safe l c.shared x

/-- A safe move keeps everything accounted for. -/
theorem Custody.next (K : M.Custody init ended kept safe) {c c' : Config ρ lam}
    {a : Act ω ι η} (hr : (M.system init).Reachable c) (hc : Accounted ended kept c)
    (hsafe : Safe safe c a) (h : M.next c a = some c') : Accounted ended kept c' := by
  intro j m hj hend
  have hstays : ∀ l, kept l c.shared → kept l c'.shared := fun l => K.stays c a c' l hr h
  rcases next_cases h with ⟨o, rfl, rfl⟩ | ⟨i, x, l, l', r', rfl, hi, hs, rfl⟩ |
    ⟨e, r, rfl, -, rfl⟩
  · rcases getElem?_snoc_cases hj with ⟨-, rfl⟩ | hj
    · exact absurd hend (K.start o)
    · exact hc j m hj hend
  · rcases getElem?_set_cases hi hj with ⟨-, rfl⟩ | ⟨-, hj⟩
    · exact K.keeps c i l x m r' hr hi (hsafe i x l rfl hi) hs hend
    · exact hstays m (hc j m hj hend)
  · exact hstays m (hc j m hj hend)

/-- A move that is not safe loses something. -/
theorem Custody.next_loses (K : M.Custody init ended kept safe) {c : Config ρ lam}
    {a : Act ω ι η} (hr : (M.system init).Reachable c) (hsafe : ¬ Safe safe c a) :
    ∃ c', M.next c a = some c' ∧ ¬ Accounted ended kept c' := by
  simp only [Safe, not_forall] at hsafe
  obtain ⟨i, x, l, rfl, hi, hnot⟩ := hsafe
  obtain ⟨l', r', hs, hend, hlost⟩ := K.loses c i l x hr hi hnot
  obtain ⟨hlt, -⟩ := List.getElem?_eq_some_iff.mp hi
  refine ⟨_, next_run.mpr ⟨l, l', r', hi, hs, rfl⟩, ?_⟩
  intro hacc
  exact hlost (hacc i l' (List.getElem?_set_self hlt) hend)

/-- **Everything is accounted for exactly when every step is safe.** -/
theorem Custody.allSteps_iff (K : M.Custody init ended kept safe) {c : Config ρ lam}
    (h : (M.system init).init c) (acts : List (Act ω ι η)) :
    (M.system init).AllSteps (Safe safe) c acts ↔
      ∀ m ∈ (M.system init).trace c acts, Accounted ended kept m := by
  have hstart : Accounted ended kept c := by
    intro i l hi
    rw [h.2] at hi
    exact absurd hi (by simp)
  exact System.allSteps_iff_forall_trace (fun r a r' hr hP hC hs => K.next hr hP hC hs)
    (fun r a hr hC => K.next_loses hr hC) (.of_init h) hstart

/-! ## Errands -/

variable (given : lam → Option κ) (answered : lam → κ → Prop) (settled : κ → ρ → Prop)
  (hindered : lam → ρ → ι → Prop)

/-- The item of a process has been settled, by whichever process, or the process has
answered for it. -/
def Kept (l : lam) (r : ρ) : Prop := ∀ k, given l = some k → settled k r ∨ answered l k

/-- The item of a process has been settled already, or nothing hinders its step. -/
def Unhindered (l : lam) (r : ρ) (x : ι) : Prop :=
  ∀ k, given l = some k → settled k r ∨ ¬ hindered l r x

variable (M) in
/-- Processes that may be given an item, and what they keep (`fit`) once they are.  A step
that is hindered ends a process without an answer; on any other way it ends with one. -/
structure Errand (init : ρ → Prop) (ended : lam → Prop) (fit : lam → Prop) : Prop where
  start : ∀ o, ¬ ended (M.start o)
  fit_start : ∀ o k, given (M.start o) = some k → fit (M.start o)
  given_step : ∀ i l r x l' r', M.step i l r x = some (l', r') → given l' = given l
  stays : ∀ c a c' k, (M.system init).Reachable c → M.next c a = some c' →
    settled k c.shared → settled k c'.shared
  drops : ∀ i l r x k, given l = some k → fit l → hindered l r x →
    ∃ l', M.step i l r x = some (l', r) ∧ fit l' ∧ ended l' ∧ ¬ answered l' k
  goes : ∀ i l r x l' r' k, given l = some k → fit l → ¬ hindered l r x →
    M.step i l r x = some (l', r') → fit l' ∧ (ended l' → answered l' k)

variable {given answered settled hindered} {fit : lam → Prop}

/-- A process that has been given an item is fit for it. -/
theorem Errand.fit_of_reachable (E : M.Errand given answered settled hindered init ended fit)
    {c : Config ρ lam} (h : (M.system init).Reachable c) {i : ℕ} {l : lam}
    (hi : c.procs[i]? = some l) {k : κ} (hk : given l = some k) : fit l := by
  refine local_invariant (M := M) (P := fun m => ∀ k, given m = some k → fit m) ?_ ?_ h hi k hk
  · intro o k hk
    exact E.fit_start o k hk
  · intro j m r x m' r' hm hs k hk
    rw [E.given_step j m r x m' r' hs] at hk
    by_cases hh : hindered m r x
    · obtain ⟨l', hs', hfit, -, -⟩ := E.drops j m r x k hk (hm k hk) hh
      rw [hs, Option.some.injEq, Prod.mk.injEq] at hs'
      rw [hs'.1]
      exact hfit
    · exact (E.goes j m r x m' r' k hk (hm k hk) hh hs).1

/-- **The items that get lost are those whose process is hindered.** -/
theorem Errand.custody (E : M.Errand given answered settled hindered init ended fit) :
    M.Custody init ended (Kept given answered settled) (Unhindered given settled hindered) where
  start := E.start
  stays c a c' l hr hs hkept k hk := (hkept k hk).imp_left (E.stays c a c' k hr hs)
  keeps c i l x l' r' hr hi hsafe hs hend k hk := by
    rw [E.given_step i l c.shared x l' r' hs] at hk
    rcases hsafe k hk with hset | hh
    · have hnext : M.next c (.run i x) = some ⟨r', c.procs.set i l'⟩ :=
        next_run.mpr ⟨l, l', r', hi, hs, rfl⟩
      exact Or.inl (E.stays c _ _ k hr hnext hset)
    · have hfit := E.fit_of_reachable hr hi hk
      exact Or.inr ((E.goes i l c.shared x l' r' k hk hfit hh hs).2 hend)
  loses c i l x hr hi hnot := by
    simp only [Unhindered, not_forall, not_or, not_not] at hnot
    obtain ⟨k, hk, hset, hh⟩ := hnot
    have hfit := E.fit_of_reachable hr hi hk
    obtain ⟨l', hs, -, hend, hanswer⟩ := E.drops i l c.shared x k hk hfit hh
    refine ⟨l', _, hs, hend, ?_⟩
    intro hkept
    have hk' : given l' = some k := (E.given_step i l c.shared x l' _ hs).trans hk
    exact (hkept k hk').elim hset hanswer

end Machine

end TransHub
