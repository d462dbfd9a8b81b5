import Mathlib.Data.List.Induction

/-!
# What has happened in a sequence of events

* `Since on off`: an event switched something on and none has switched it off after;
  `since_snoc` is its recursion over the last event.
* `gather`: what each event contributes, given the events before it.
-/

namespace TransHub

variable {α μ : Type*}

/-- Something was switched on, and has not been switched off since. -/
def Since (on off : α → Prop) (l : List α) : Prop :=
  ∃ l₁ a l₂, l = l₁ ++ a :: l₂ ∧ on a ∧ ∀ b ∈ l₂, ¬ off b

section Since

variable {on off : α → Prop} {l : List α} {a : α}

theorem not_since_nil : ¬ Since on off [] := by
  rintro ⟨l₁, a, l₂, h, -⟩
  exact absurd h (by simp)

theorem since_snoc : Since on off (l ++ [a]) ↔ on a ∨ Since on off l ∧ ¬ off a := by
  constructor
  · rintro ⟨l₁, b, l₂, heq, hon, hoff⟩
    rcases List.eq_nil_or_concat l₂ with rfl | ⟨l₃, d, rfl⟩
    · obtain ⟨-, hb⟩ := List.append_inj' heq rfl
      rw [List.singleton_inj] at hb
      rw [hb]
      exact Or.inl hon
    · rw [List.concat_eq_append] at heq hoff
      have heq' : l ++ [a] = (l₁ ++ b :: l₃) ++ [d] := by
        rw [heq, List.append_assoc, List.cons_append]
      obtain ⟨rfl, hd⟩ := List.append_inj' heq' rfl
      rw [List.cons_eq_cons] at hd
      obtain ⟨rfl, -⟩ := hd
      refine Or.inr ⟨⟨l₁, b, l₃, rfl, hon, ?_⟩, ?_⟩
      · exact fun e he => hoff e (List.mem_append_left _ he)
      · exact hoff a (List.mem_append_right _ (List.mem_singleton_self a))
  · rintro (hon | ⟨⟨l₁, b, l₂, rfl, hon, hoff⟩, ha⟩)
    · exact ⟨l, a, [], rfl, hon, fun b hb => absurd hb List.not_mem_nil⟩
    · refine ⟨l₁, b, l₂ ++ [a], by rw [List.append_assoc, List.cons_append], hon, ?_⟩
      intro e he
      rcases List.mem_append.mp he with he | he
      · exact hoff e he
      · rwa [List.mem_singleton.mp he]

end Since

/-! ## What the events contribute -/

/-- What events contribute after those of the past. -/
def gatherFrom (f : List α → α → List μ) (past : List α) : List α → List μ
  | [] => []
  | a :: l => f past a ++ gatherFrom f (past ++ [a]) l

/-- What each event contributes, given the events before it. -/
def gather (f : List α → α → List μ) (l : List α) : List μ := gatherFrom f [] l

variable {f : List α → α → List μ} {l : List α}

theorem gatherFrom_append (past l₁ l₂ : List α) :
    gatherFrom f past (l₁ ++ l₂) = gatherFrom f past l₁ ++ gatherFrom f (past ++ l₁) l₂ := by
  induction l₁ generalizing past with
  | nil => rw [List.nil_append, List.append_nil, gatherFrom, List.nil_append]
  | cons a l₁ ih =>
    rw [List.cons_append, gatherFrom, gatherFrom, ih, List.append_assoc, List.append_assoc,
      List.singleton_append]

@[simp] theorem gather_snoc (a : α) : gather f (l ++ [a]) = gather f l ++ f l a := by
  rw [gather, gatherFrom_append, List.nil_append, gatherFrom, gatherFrom, List.append_nil, gather]

end TransHub
