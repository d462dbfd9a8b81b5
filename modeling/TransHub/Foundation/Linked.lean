import TransHub.Foundation.System

/-!
# Two systems, linked

Two systems run side by side.  A step of the first feeds labels to the second, which takes them
at once; besides, the second takes the labels that the state of the first allows.

* `Link`, `System.link`: the composition.
* `link_cases`: what one of its steps can be.
* `link_left`: the run of the first system that is in a run of both.
* `Reachable.left`, `Reachable.right`: both parts go through states of their own.
-/

namespace TransHub

universe u v w z

/-- What the first system feeds to the second, and what else it allows. -/
structure Link (σ : Type u) (β : Type v) where
  feeds : σ → σ → List β
  allows : σ → β → Bool

namespace System

variable {σ : Type u} {τ : Type w} {α : Type z} {β : Type v}

/-- The two systems, linked. -/
def link (S : System σ α) (T : System τ β) (L : Link σ β) : System (σ × τ) (α ⊕ β) where
  init p := S.init p.1 ∧ T.init p.2
  step p
    | .inl a => (S.step p.1 a).bind fun s => (T.run p.2 (L.feeds p.1 s)).map fun t => (s, t)
    | .inr b => if L.allows p.1 b then (T.step p.2 b).map fun t => (p.1, t) else none

/-- The labels of the first system. -/
def lefts (l : List (α ⊕ β)) : List α := l.filterMap Sum.getLeft?

variable {S : System σ α} {T : System τ β} {L : Link σ β} {p q : σ × τ}

/-- **What a step can be.** -/
theorem link_cases {a : α ⊕ β} (h : (S.link T L).step p a = some q) :
    (∃ b, a = .inl b ∧ S.step p.1 b = some q.1 ∧ T.run p.2 (L.feeds p.1 q.1) = some q.2) ∨
    (∃ b, a = .inr b ∧ L.allows p.1 b = true ∧ T.step p.2 b = some q.2 ∧ q.1 = p.1) := by
  cases a with
  | inl b =>
    obtain ⟨s, hs, h⟩ := Option.bind_eq_some_iff.mp h
    obtain ⟨t, ht, rfl⟩ := Option.map_eq_some_iff.mp h
    exact Or.inl ⟨b, rfl, hs, ht⟩
  | inr b =>
    simp only [link] at h
    split at h
    · next hallows =>
      obtain ⟨t, ht, rfl⟩ := Option.map_eq_some_iff.mp h
      exact Or.inr ⟨b, rfl, hallows, ht, rfl⟩
    · exact absurd h (by simp)

/-- The first system runs by itself. -/
theorem link_left {l : List (α ⊕ β)} (h : (S.link T L).run p l = some q) :
    S.run p.1 (lefts l) = some q.1 := by
  induction l generalizing p with
  | nil =>
    rw [run_nil, Option.some.injEq] at h
    rw [h]
    rfl
  | cons a l ih =>
    obtain ⟨m, hm, hl⟩ := (S.link T L).run_cons_eq_some.mp h
    rcases link_cases hm with ⟨b, rfl, hb, -⟩ | ⟨b, rfl, -, -, hsame⟩
    · exact S.run_cons_eq_some.mpr ⟨m.1, hb, ih hl⟩
    · rw [← hsame]
      exact ih hl

theorem Reachable.left (h : (S.link T L).Reachable p) : S.Reachable p.1 := by
  obtain ⟨p₀, h₀, l, hl⟩ := h
  exact ⟨p₀.1, h₀.1, lefts l, link_left hl⟩

theorem Reachable.right (h : (S.link T L).Reachable p) : T.Reachable p.2 := by
  refine h.invariant (P := fun p => T.Reachable p.2) (fun r hr => .of_init hr.2) ?_
  intro r a r' hr hs
  rcases link_cases hs with ⟨b, -, -, hrun⟩ | ⟨b, -, -, hstep, -⟩
  · exact hr.run hrun
  · exact hr.step hstep

end System

end TransHub
