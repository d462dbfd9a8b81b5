import TransHub.Foundation.System

/-!
# Stored statuses that follow a graph

A record appears with a first status and its status then moves along the edges of a
graph, or stays.

* `Moves`: what one step may make of the stored status.
* `late_write_iff`: when a write that was checked against an earlier status still follows
  the graph.
* `AllSteps.status_stays`: a set of statuses that no edge leaves is never left; a status
  without edges stays, and a mark that is set in such a set stays in it.
-/

namespace TransHub

universe u v w

variable {S : Type w}

/-- What one step may make of a stored status; `none` stands for no record. -/
def Moves (edge : S → S → Prop) (first : S) : Option S → Option S → Prop
  | none, none => True
  | none, some t => t = first
  | some s, some t => t = s ∨ edge s t
  | some _, none => False

theorem Moves.refl (edge : S → S → Prop) (first : S) (s : Option S) : Moves edge first s s := by
  cases s with
  | none => trivial
  | some s => exact Or.inl rfl

/-- **A late write.**  An operation has read the status `s` and writes `t`, along an edge;
meanwhile `stored` is what is stored.  Where statuses other than `z` have one predecessor
only, the write is along an edge from `stored`, or changes nothing, exactly when `stored`
is still `s`, or is `t` already, or may go to `z` as well. -/
theorem late_write_iff {edge : S → S → Prop} {z : S}
    (hone : ∀ p q t, edge p t → edge q t → p = q ∨ t = z) {s t stored : S} (h : edge s t) :
    (stored = s ∨ stored = t ∨ (t = z ∧ edge stored z)) ↔ (t = stored ∨ edge stored t) := by
  constructor
  · rintro (rfl | rfl | ⟨rfl, hz⟩)
    · exact Or.inr h
    · exact Or.inl rfl
    · exact Or.inr hz
  · rintro (rfl | hedge)
    · exact Or.inr (Or.inl rfl)
    · rcases hone stored s t hedge h with rfl | rfl
      · exact Or.inl rfl
      · exact Or.inr (Or.inr ⟨rfl, hedge⟩)

namespace System

variable {σ : Type u} {α : Type v} {M : System σ α} {edge : S → S → Prop} {first : S}
  {status : σ → Option S}

/-- A status in a set that no edge leaves moves inside it. -/
theorem moves_closed {P : S → Prop} (hP : ∀ p q, edge p q → P p → P q) {s t : Option S}
    (h : Moves edge first s t) (hs : ∃ p, s = some p ∧ P p) : ∃ q, t = some q ∧ P q := by
  obtain ⟨p, rfl, hp⟩ := hs
  cases t with
  | none => exact absurd h not_false
  | some q =>
    rcases h with rfl | hedge
    · exact ⟨q, rfl, hp⟩
    · exact ⟨q, rfl, hP p q hedge hp⟩

/-- **A set of statuses that no edge leaves is never left.** -/
theorem AllSteps.status_stays {s t : σ} {l : List α}
    (h : M.AllSteps (fun r a => ∀ r', M.step r a = some r' →
      Moves edge first (status r) (status r')) s l)
    (hl : M.run s l = some t) {P : S → Prop} (hP : ∀ p q, edge p q → P p → P q)
    (hs : ∃ p, status s = some p ∧ P p) : ∃ q, status t = some q ∧ P q :=
  h.invariant (P := fun r => ∃ p, status r = some p ∧ P p) hl
    (fun _ _ r' hr hmove hstep => moves_closed hP (hmove r' hstep) hr) hs

/-- A status without edges stays. -/
theorem AllSteps.terminal_stays {s t : σ} {l : List α}
    (h : M.AllSteps (fun r a => ∀ r', M.step r a = some r' →
      Moves edge first (status r) (status r')) s l)
    (hl : M.run s l = some t) {p : S} (hp : ∀ q, ¬ edge p q) (hs : status s = some p) :
    status t = some p := by
  obtain ⟨q, hq, rfl⟩ := h.status_stays hl (P := fun q => q = p)
    (fun a b hedge ha => by
      rw [ha] at hedge
      exact absurd hedge (hp b)) ⟨p, hs, rfl⟩
  exact hq

/-- **A mark that is set in such a set of statuses stays in it.** -/
theorem AllSteps.marked {s m : σ} {l : List α}
    (h : M.AllSteps (fun r a => ∀ r', M.step r a = some r' →
      Moves edge first (status r) (status r')) s l)
    {P : S → Prop} (hP : ∀ p q, edge p q → P p → P q) {mark : σ → Prop}
    (hmark : ∀ r a r', M.step r a = some r' → mark r' → mark r ∨ ∃ q, status r' = some q ∧ P q)
    (hs : mark s → ∃ p, status s = some p ∧ P p) (hm : m ∈ M.trace s l) (hmm : mark m) :
    ∃ p, status m = some p ∧ P p := by
  refine h.invariant_trace (P := fun r => mark r → ∃ p, status r = some p ∧ P p)
    ?_ hs hm hmm
  intro r a r' hr hmove hstep hr'
  rcases hmark r a r' hstep hr' with hmr | hq
  · exact moves_closed hP (hmove r' hstep) (hr hmr)
  · exact hq

end System

end TransHub
