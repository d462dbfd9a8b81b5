import TransHub.Foundation.System

/-!
# Concurrent processes over one shared state

A machine runs any number of processes against a shared state.  Each process has
a local state (its program counter and what it has read so far); one of its steps
reads and writes the shared state atomically, and steps of different processes
interleave freely.  The environment may change the shared state as well.

* `Machine.next`: one step of the whole configuration, and `next_cases`, which
  says once what such a step can be.
* `Outline`: an assertion on the shared state and one on each local state, with
  the obligations of the method of Owicki and Gries --- each step keeps its own
  assertion and those of the others.  `Outline.invariant` turns the outline into
  an invariant of every run.
* `local_of_leads`: a process that has no step left stays as it is.
* `local_invariant`: what a process can keep by itself; `local_history`, the same of what
  the run so far has brought it, and `Took`, the steps that run holds.
* `countP_isRunOf_le`: a variant bounds how many steps a process takes.
-/

namespace TransHub

universe u

/-- Processes with local states `lam` over a shared state `ρ`.  `start` is the local
state a request `ω` begins in; the steps of a process may use its index, the
choices of the outside world that reach it are the inputs `ι`, and `η` are the
moves of the environment. -/
structure Machine (ρ lam ω ι η : Type u) where
  start : ω → lam
  step : ℕ → lam → ρ → ι → Option (lam × ρ)
  env : ρ → η → Option ρ

/-- The shared state and the local states of all processes started so far. -/
structure Config (ρ lam : Type u) where
  shared : ρ
  procs : List lam
  deriving DecidableEq

/-- A move of a configuration. -/
inductive Act (ω ι η : Type u) where
  | spawn (o : ω)
  | run (i : ℕ) (x : ι)
  | env (e : η)

namespace Machine

variable {ρ lam ω ι η : Type u} (M : Machine ρ lam ω ι η)

/-- One move: a request arrives, a process takes a step, or the environment does. -/
def next (c : Config ρ lam) : Act ω ι η → Option (Config ρ lam)
  | .spawn o => some ⟨c.shared, c.procs ++ [M.start o]⟩
  | .run i x => (c.procs[i]?).bind fun l =>
      (M.step i l c.shared x).map fun p => ⟨p.2, c.procs.set i p.1⟩
  | .env e => (M.env c.shared e).map fun r => ⟨r, c.procs⟩

/-- The configurations of a machine that starts with no process in a shared state
from `init`. -/
def system (init : ρ → Prop) : System (Config ρ lam) (Act ω ι η) where
  init c := init c.shared ∧ c.procs = []
  step := M.next

variable {M}

theorem next_spawn (c : Config ρ lam) (o : ω) :
    M.next c (.spawn o) = some ⟨c.shared, c.procs ++ [M.start o]⟩ := rfl

theorem next_run {c c' : Config ρ lam} {i : ℕ} {x : ι} :
    M.next c (.run i x) = some c' ↔ ∃ l l' r', c.procs[i]? = some l ∧
      M.step i l c.shared x = some (l', r') ∧ c' = ⟨r', c.procs.set i l'⟩ := by
  simp only [next, Option.bind_eq_some_iff, Option.map_eq_some_iff, Prod.exists]
  constructor
  · rintro ⟨l, hl, l', r', hs, rfl⟩
    exact ⟨l, l', r', hl, hs, rfl⟩
  · rintro ⟨l, l', r', hl, hs, rfl⟩
    exact ⟨l, hl, l', r', hs, rfl⟩

/-- A process that is run is afterwards where its step leads. -/
theorem step_of_next_run {c c' : Config ρ lam} {i : ℕ} {x : ι} {l : lam}
    (hi : c.procs[i]? = some l) (h : M.next c (.run i x) = some c') :
    ∃ l' r', M.step i l c.shared x = some (l', r') ∧ c' = ⟨r', c.procs.set i l'⟩ ∧
      c'.procs[i]? = some l' := by
  obtain ⟨k, l', r', hk, hs, rfl⟩ := next_run.mp h
  rw [hi, Option.some.injEq] at hk
  subst hk
  obtain ⟨hlt, -⟩ := List.getElem?_eq_some_iff.mp hi
  exact ⟨l', r', hs, rfl, List.getElem?_set_self hlt⟩

theorem next_env {c c' : Config ρ lam} {e : η} :
    M.next c (.env e) = some c' ↔ ∃ r, M.env c.shared e = some r ∧ c' = ⟨r, c.procs⟩ := by
  rw [next, Option.map_eq_some_iff]
  exact exists_congr fun r => and_congr_right fun _ => eq_comm

/-- **What a move can be.** -/
theorem next_cases {c c' : Config ρ lam} {a : Act ω ι η} (h : M.next c a = some c') :
    (∃ o, a = .spawn o ∧ c' = ⟨c.shared, c.procs ++ [M.start o]⟩) ∨
    (∃ i x l l' r', a = .run i x ∧ c.procs[i]? = some l ∧
      M.step i l c.shared x = some (l', r') ∧ c' = ⟨r', c.procs.set i l'⟩) ∨
    (∃ e r, a = .env e ∧ M.env c.shared e = some r ∧ c' = ⟨r, c.procs⟩) := by
  cases a with
  | spawn o =>
    rw [next_spawn, Option.some.injEq] at h
    exact Or.inl ⟨o, rfl, h.symm⟩
  | run i x =>
    obtain ⟨l, l', r', hl, hs, hc⟩ := next_run.mp h
    exact Or.inr (Or.inl ⟨i, x, l, l', r', rfl, hl, hs, hc⟩)
  | env e =>
    obtain ⟨r, hr, hc⟩ := next_env.mp h
    exact Or.inr (Or.inr ⟨e, r, rfl, hr, hc⟩)

/-! ## Reading the list of processes -/

/-- After a process has stepped, each process is either that one in its new state
or another one as it was. -/
theorem getElem?_set_cases {procs : List lam} {i j : ℕ} {l l' m : lam}
    (hi : procs[i]? = some l) (hj : (procs.set i l')[j]? = some m) :
    (j = i ∧ m = l') ∨ (j ≠ i ∧ procs[j]? = some m) := by
  by_cases hji : j = i
  · subst hji
    obtain ⟨hlt, -⟩ := List.getElem?_eq_some_iff.mp hi
    rw [List.getElem?_set_self hlt, Option.some.injEq] at hj
    exact Or.inl ⟨rfl, hj.symm⟩
  · rw [List.getElem?_set_ne (Ne.symm hji)] at hj
    exact Or.inr ⟨hji, hj⟩

theorem getElem?_snoc_cases {procs : List lam} {j : ℕ} {l m : lam}
    (hj : (procs ++ [l])[j]? = some m) :
    (j = procs.length ∧ m = l) ∨ procs[j]? = some m := by
  rcases lt_trichotomy j procs.length with hlt | heq | hgt
  · rw [List.getElem?_append_left hlt] at hj
    exact Or.inr hj
  · subst heq
    rw [List.getElem?_append_right (le_refl _), Nat.sub_self] at hj
    exact Or.inl ⟨rfl, (Option.some.inj hj).symm⟩
  · rw [List.getElem?_eq_none (by rw [List.length_append, List.length_singleton]; omega)] at hj
    exact absurd hj (by simp)

/-- A process that has no step left stays as it is. -/
theorem local_of_leads {init : ρ → Prop} {c c' : Config ρ lam} {i : ℕ} {l : lam}
    (hdone : ∀ r x, M.step i l r x = none) (hi : c.procs[i]? = some l)
    (h : (M.system init).Leads c c') : c'.procs[i]? = some l := by
  obtain ⟨acts, h⟩ := h
  induction acts generalizing c with
  | nil =>
    rw [System.run_nil, Option.some.injEq] at h
    rwa [← h]
  | cons a acts ih =>
    obtain ⟨m, hm, h⟩ := System.run_cons_eq_some _ |>.mp h
    refine ih ?_ h
    obtain ⟨hlt, -⟩ := List.getElem?_eq_some_iff.mp hi
    rcases next_cases hm with ⟨o, -, rfl⟩ | ⟨j, x, k, k', r', -, hj, hs, rfl⟩ | ⟨e, r, -, -, rfl⟩
    · rw [List.getElem?_append_left hlt]
      exact hi
    · by_cases hji : j = i
      · subst hji
        rw [hi, Option.some.injEq] at hj
        rw [← hj, hdone] at hs
        exact absurd hs (by simp)
      · rw [List.getElem?_set_ne hji]
        exact hi
    · exact hi

/-- What every process starts with and each of its steps keeps, whatever the others do. -/
theorem local_invariant {init : ρ → Prop} {P : lam → Prop} (hstart : ∀ o, P (M.start o))
    (hstep : ∀ i l r x l' r', P l → M.step i l r x = some (l', r') → P l')
    {c : Config ρ lam} (h : (M.system init).Reachable c) {i : ℕ} {l : lam}
    (hi : c.procs[i]? = some l) : P l := by
  refine h.invariant (P := fun m => ∀ (i : ℕ) l, m.procs[i]? = some l → P l)
    ?_ ?_ i l hi
  · intro r hr i l hi
    rw [hr.2] at hi
    exact absurd hi (by simp)
  · intro r a r' hr hs j m hj
    rcases next_cases hs with ⟨o, -, rfl⟩ | ⟨i, x, k, k', r', -, hk, hown, rfl⟩ |
      ⟨e, r', -, -, rfl⟩
    · rcases getElem?_snoc_cases hj with ⟨-, rfl⟩ | hj
      · exact hstart o
      · exact hr j m hj
    · rcases getElem?_set_cases hk hj with ⟨-, rfl⟩ | ⟨-, hj⟩
      · exact hstep i k _ x _ r' (hr i k hk) hown
      · exact hr j m hj
    · exact hr j m hj

/-- In the course of the run of `acts` from `c`, process `i` has taken a step from the local
state `l` with the input `x`. -/
def Took (S : System (Config ρ lam) (Act ω ι η)) (c : Config ρ lam) (acts : List (Act ω ι η))
    (i : ℕ) (l : lam) (x : ι) : Prop :=
  ∃ l₁ l₂ m, acts = l₁ ++ .run i x :: l₂ ∧ S.run c l₁ = some m ∧ m.procs[i]? = some l

theorem Took.snoc {S : System (Config ρ lam) (Act ω ι η)} {c : Config ρ lam}
    {acts : List (Act ω ι η)} {i : ℕ} {l : lam} {x : ι} (h : Took S c acts i l x)
    (a : Act ω ι η) : Took S c (acts ++ [a]) i l x := by
  obtain ⟨l₁, l₂, m, rfl, hm, hi⟩ := h
  exact ⟨l₁, l₂ ++ [a], m, by simp, hm, hi⟩

theorem took_last {S : System (Config ρ lam) (Act ω ι η)} {c m : Config ρ lam}
    {acts : List (Act ω ι η)} (h : S.run c acts = some m) {i : ℕ} {l : lam}
    (hi : m.procs[i]? = some l) (x : ι) : Took S c (acts ++ [.run i x]) i l x :=
  ⟨acts, [], m, rfl, h, hi⟩

/-- What holds of each process and the run so far, when a process starts with it, keeps it in
its own steps, and no later move takes it back. -/
theorem local_history {init : ρ → Prop} {H : List (Act ω ι η) → lam → Prop}
    (hsnoc : ∀ acts a l, H acts l → H (acts ++ [a]) l)
    (hstart : ∀ acts o, H (acts ++ [.spawn o]) (M.start o)) {c₀ : Config ρ lam}
    (hstep : ∀ acts m i x l l' r', (M.system init).run c₀ acts = some m →
      m.procs[i]? = some l → H acts l → M.step i l m.shared x = some (l', r') →
      H (acts ++ [.run i x]) l')
    (h : (M.system init).init c₀) {acts : List (Act ω ι η)} {c : Config ρ lam}
    (hrun : (M.system init).run c₀ acts = some c) {i : ℕ} {l : lam}
    (hi : c.procs[i]? = some l) : H acts l := by
  refine System.run_rule
    (P := fun acts c => ∀ (i : ℕ) (l : lam), c.procs[i]? = some l → H acts l) hrun ?_ ?_ i l hi
  · intro i l hi
    rw [h.2] at hi
    exact absurd hi (by simp)
  · intro acts m a m' hm ih hs j k hj
    rcases next_cases hs with ⟨o, rfl, rfl⟩ | ⟨i, x, l, l', r', rfl, hi, hown, rfl⟩ |
      ⟨e, r', rfl, -, rfl⟩
    · rcases getElem?_snoc_cases hj with ⟨-, rfl⟩ | hj
      · exact hstart acts o
      · exact hsnoc acts _ k (ih j k hj)
    · rcases getElem?_set_cases hi hj with ⟨-, rfl⟩ | ⟨-, hj⟩
      · exact hstep acts m i x l k r' hm hi (ih i l hi) hown
      · exact hsnoc acts _ k (ih j k hj)
    · exact hsnoc acts _ k (ih j k hj)

/-- A move of process `i`. -/
def isRunOf (i : ℕ) : Act ω ι η → Bool
  | .run j _ => j == i
  | _ => false

/-- **A variant bounds the steps of a process.**  Where each step of a process decreases
`μ`, a run holds at most `μ l` of its steps. -/
theorem countP_isRunOf_le {init : ρ → Prop} {μ : lam → ℕ}
    (hμ : ∀ (c : Config ρ lam) i l x l' r', (M.system init).Reachable c →
      c.procs[i]? = some l → M.step i l c.shared x = some (l', r') → μ l' < μ l)
    {c c' : Config ρ lam} (hr : (M.system init).Reachable c) {i : ℕ} {l : lam}
    (hi : c.procs[i]? = some l) {acts : List (Act ω ι η)}
    (h : (M.system init).run c acts = some c') :
    ∃ l', c'.procs[i]? = some l' ∧ acts.countP (isRunOf i) + μ l' ≤ μ l := by
  induction acts generalizing c l with
  | nil =>
    rw [System.run_nil, Option.some.injEq] at h
    subst h
    exact ⟨l, hi, by simp⟩
  | cons a acts ih =>
    obtain ⟨m, hm, h⟩ := System.run_cons_eq_some _ |>.mp h
    obtain ⟨hlt, -⟩ := List.getElem?_eq_some_iff.mp hi
    rcases next_cases hm with ⟨o, rfl, rfl⟩ | ⟨j, x, k, k', r', rfl, hj, hs, rfl⟩ |
      ⟨e, r, rfl, -, rfl⟩
    · have hi' : (c.procs ++ [M.start o])[i]? = some l := by
        rw [List.getElem?_append_left hlt]
        exact hi
      rw [List.countP_cons_of_neg (by simp [isRunOf])]
      exact ih (hr.step hm) hi' h
    · by_cases hji : j = i
      · subst hji
        rw [hi, Option.some.injEq] at hj
        subst hj
        obtain ⟨l', hl', hle⟩ := ih (hr.step hm) (List.getElem?_set_self hlt) h
        have hdec := hμ c j l x k' r' hr hi hs
        rw [List.countP_cons_of_pos (by simp [isRunOf])]
        exact ⟨l', hl', by omega⟩
      · have hi' : (c.procs.set j k')[i]? = some l := by
          rw [List.getElem?_set_ne hji]
          exact hi
        rw [List.countP_cons_of_neg (by simpa [isRunOf] using hji)]
        exact ih (hr.step hm) hi' h
    · rw [List.countP_cons_of_neg (by simp [isRunOf])]
      exact ih (hr.step hm) hi h

/-! ## Proof outlines -/

variable (M) in
/-- An assertion `G` on the number of processes and the shared state, and an assertion
`L` on each process, such that every move of the class `ok` keeps `G`, the assertion of
the process that moves, and the assertions of all others. -/
structure Outline (ok : Act ω ι η → Prop) (init : ρ → Prop) (G : ℕ → ρ → Prop)
    (L : ℕ → lam → ρ → Prop) : Prop where
  init : ∀ r, init r → G 0 r
  spawn : ∀ n o r, ok (.spawn o) → G n r → G (n + 1) r
  start : ∀ n o r, ok (.spawn o) → G n r → L n (M.start o) r
  shared : ∀ n i x l r l' r', ok (.run i x) → i < n → G n r → L i l r →
    M.step i l r x = some (l', r') → G n r'
  self : ∀ n i x l r l' r', ok (.run i x) → i < n → G n r → L i l r →
    M.step i l r x = some (l', r') → L i l' r'
  other : ∀ n i x l r l' r' j m, ok (.run i x) → i < n → j ≠ i → G n r → L i l r →
    L j m r → M.step i l r x = some (l', r') → L j m r'
  env_shared : ∀ n e r r', ok (.env e) → G n r → M.env r e = some r' → G n r'
  env_other : ∀ n e r r' j m, ok (.env e) → G n r → L j m r → M.env r e = some r' → L j m r'

/-- What an outline asserts of a configuration. -/
def Asserts (G : ℕ → ρ → Prop) (L : ℕ → lam → ρ → Prop) (c : Config ρ lam) : Prop :=
  G c.procs.length c.shared ∧ ∀ i l, c.procs[i]? = some l → L i l c.shared

variable {ok : Act ω ι η → Prop} {init : ρ → Prop} {G : ℕ → ρ → Prop}
  {L : ℕ → lam → ρ → Prop}

/-- A step keeps the assertions when it keeps its own and those of the others. -/
theorem Asserts.set {c : Config ρ lam} {i : ℕ} {l l' : lam} {r' : ρ} (hc : Asserts G L c)
    (hi : c.procs[i]? = some l) (hG : G c.procs.length r') (hself : L i l' r')
    (hother : ∀ j m, L j m c.shared → L j m r') : Asserts G L ⟨r', c.procs.set i l'⟩ := by
  refine ⟨?_, ?_⟩
  · rw [List.length_set]
    exact hG
  · intro j m hj
    rcases getElem?_set_cases hi hj with ⟨rfl, rfl⟩ | ⟨-, hj⟩
    · exact hself
    · exact hother j m (hc.2 j m hj)

/-- A new process needs its own assertion. -/
theorem Asserts.snoc {c : Config ρ lam} {l : lam} (hc : Asserts G L c)
    (hG : G (c.procs.length + 1) c.shared) (hself : L c.procs.length l c.shared) :
    Asserts G L ⟨c.shared, c.procs ++ [l]⟩ := by
  refine ⟨?_, ?_⟩
  · rw [List.length_append, List.length_singleton]
    exact hG
  · intro j m hj
    rcases getElem?_snoc_cases hj with ⟨rfl, rfl⟩ | hj
    · exact hself
    · exact hc.2 j m hj

/-- One move keeps what the outline asserts. -/
theorem Outline.next (O : M.Outline ok init G L) {c c' : Config ρ lam} {a : Act ω ι η}
    (ha : ok a) (hc : Asserts G L c) (h : M.next c a = some c') : Asserts G L c' := by
  obtain ⟨hG, hL⟩ := hc
  rcases next_cases h with ⟨o, rfl, rfl⟩ | ⟨i, x, l, l', r', rfl, hi, hs, rfl⟩ |
    ⟨e, r, rfl, hr, rfl⟩
  · exact Asserts.snoc ⟨hG, hL⟩ (O.spawn _ o _ ha hG) (O.start _ o _ ha hG)
  · obtain ⟨hlt, -⟩ := List.getElem?_eq_some_iff.mp hi
    refine ⟨?_, ?_⟩
    · rw [List.length_set]
      exact O.shared _ i x l _ l' r' ha hlt hG (hL i l hi) hs
    · intro j m hj
      rcases getElem?_set_cases hi hj with ⟨rfl, rfl⟩ | ⟨hne, hj⟩
      · exact O.self _ j x l _ m r' ha hlt hG (hL j l hi) hs
      · exact O.other _ i x l _ l' r' j m ha hlt hne hG (hL i l hi) (hL j m hj) hs
  · exact ⟨O.env_shared _ e _ r ha hG hr,
      fun j m hj => O.env_other _ e _ r j m ha hG (hL j m hj) hr⟩

/-- **Owicki--Gries.**  What the outline asserts holds in every configuration that
moves of the class reach. -/
theorem Outline.invariant (O : M.Outline ok init G L) {c : Config ρ lam}
    (h : (M.system init).ReachableBy ok c) : Asserts G L c := by
  refine h.invariant (fun r hr => ⟨?_, ?_⟩)
    (fun r a r' ha hr hs => O.next ha hr hs)
  · rw [hr.2]
    exact O.init _ hr.1
  · intro i l hi
    rw [hr.2] at hi
    exact absurd hi (by simp)

end Machine

end TransHub
