import Mathlib.Data.List.Basic

/-!
# Grants that may be redeemed once

Tokens are issued to owners, looked up by processes, and redeemed by the process that
has looked one up.  A log, newest event first, records all three.

* `Sound`: a token is redeemed at most once, and only while it is the newest of its
  owner.
* `Current`: when the process looked the token up, it was the newest of its owner and
  had not been redeemed; whatever happens, it stays so.
* `Undisturbed`: since the process's lookup the token has not been redeemed and its
  owner has not been issued another.
* `Sound.redeem`: a current token that is undisturbed may be redeemed.
-/

namespace TransHub
namespace Grants

variable {κ τ : Type}

/-- What happens to a token `t` of an owner `u`; processes are numbered. -/
inductive Event (κ τ : Type) where
  | issued (u : κ) (t : τ)
  | lookedUp (i : ℕ) (t : τ)
  | redeemed (i : ℕ) (u : κ) (t : τ)
  deriving DecidableEq

variable [DecidableEq κ] [DecidableEq τ]

/-- The token an event issues to `u`. -/
def Event.issuedTo (u : κ) : Event κ τ → Option τ
  | .issued v t => if v = u then some t else none
  | _ => none

def Event.redeems (t : τ) : Event κ τ → Bool
  | .redeemed _ _ s => s == t
  | _ => false

def Event.lookupOf (i : ℕ) : Event κ τ → Bool
  | .lookedUp j _ => j == i
  | _ => false

/-- The newest token of an owner. -/
def newest (u : κ) (log : List (Event κ τ)) : Option τ := (log.filterMap (Event.issuedTo u)).head?

/-- How often a token has been redeemed. -/
def redemptions (t : τ) (log : List (Event κ τ)) : ℕ := log.countP (Event.redeems t)

/-- What has happened since the lookup of process `i`. -/
def since (i : ℕ) (log : List (Event κ τ)) : List (Event κ τ) :=
  log.takeWhile fun e => !e.lookupOf i

/-- An event that disturbs a redemption of `t` by `u`. -/
def Event.disturbs (u : κ) (t : τ) (e : Event κ τ) : Bool := e.redeems t || (e.issuedTo u).isSome

/-- Nothing has disturbed the redemption that process `i` is about to make. -/
def undisturbed (i : ℕ) (u : κ) (t : τ) (log : List (Event κ τ)) : Bool :=
  (since i log).all fun e => !e.disturbs u t

/-- Every token has been redeemed at most once, as the newest of its owner. -/
structure Sound (log : List (Event κ τ)) : Prop where
  once : ∀ t, redemptions t log ≤ 1
  newest : ∀ i u t earlier, (.redeemed i u t :: earlier) <:+ log → newest u earlier = some t

/-- When process `i` looked `t` up, it was the newest token of `u`, not yet redeemed. -/
def Current (i : ℕ) (u : κ) (t : τ) (log : List (Event κ τ)) : Prop :=
  ∃ later earlier, log = later ++ .lookedUp i t :: earlier ∧
    (∀ e ∈ later, e.lookupOf i = false) ∧ newest u earlier = some t ∧ redemptions t earlier = 0

/-! ## One more event -/

variable {i : ℕ} {u : κ} {t : τ} {log : List (Event κ τ)} {e : Event κ τ}

omit [DecidableEq τ] in
theorem newest_cons_issued (u : κ) (t : τ) (log : List (Event κ τ)) :
    newest u (.issued u t :: log) = some t := by
  simp [newest, Event.issuedTo]

omit [DecidableEq τ] in
theorem newest_cons_of_none (h : e.issuedTo u = none) : newest u (e :: log) = newest u log := by
  rw [newest, List.filterMap_cons_none h, newest]

omit [DecidableEq κ] in
theorem redemptions_cons_of_not (h : e.redeems t = false) :
    redemptions t (e :: log) = redemptions t log := by
  rw [redemptions, List.countP_cons_of_neg (by simp [h]), redemptions]

omit [DecidableEq τ] in
theorem newest_append_of_none {later : List (Event κ τ)} (h : ∀ e ∈ later, e.issuedTo u = none) :
    newest u (later ++ log) = newest u log := by
  induction later with
  | nil => rfl
  | cons e later ih =>
    rw [List.cons_append, newest_cons_of_none (h e List.mem_cons_self)]
    exact ih fun e he => h e (List.mem_cons_of_mem _ he)

omit [DecidableEq κ] in
theorem redemptions_append_of_not {later : List (Event κ τ)}
    (h : ∀ e ∈ later, e.redeems t = false) :
    redemptions t (later ++ log) = redemptions t log := by
  have hzero : later.countP (Event.redeems t) = 0 := by
    rw [List.countP_eq_zero]
    intro e he
    rw [h e he]
    exact Bool.false_ne_true
  rw [redemptions, List.countP_append, hzero, Nat.zero_add, redemptions]

/-- An event that redeems nothing keeps the log sound. -/
theorem Sound.cons (h : Sound log) (he : ∀ i u t, e ≠ .redeemed i u t) : Sound (e :: log) where
  once t := by
    have hnot : e.redeems t = false := by
      cases e with
      | redeemed i u s => exact absurd rfl (he i u s)
      | issued u s => rfl
      | lookedUp i s => rfl
    rw [redemptions_cons_of_not hnot]
    exact h.once t
  newest i u t earlier hsuf := by
    rcases List.suffix_cons_iff.mp hsuf with heq | hsuf
    · exact absurd (List.cons.inj heq).1.symm (he i u t)
    · exact h.newest i u t earlier hsuf

theorem Current.cons (h : Current i u t log) (he : e.lookupOf i = false) :
    Current i u t (e :: log) := by
  obtain ⟨later, earlier, rfl, hlater, hrest⟩ := h
  refine ⟨e :: later, earlier, rfl, ?_, hrest⟩
  intro e' he'
  rcases List.mem_cons.mp he' with rfl | he'
  · exact he
  · exact hlater e' he'

/-- A lookup of the newest token, not yet redeemed. -/
theorem Current.of_lookup (i : ℕ) (hnew : newest u log = some t) (hzero : redemptions t log = 0) :
    Current i u t (.lookedUp i t :: log) :=
  ⟨[], log, rfl, fun e he => absurd he (by simp), hnew, hzero⟩

/-- What a current token that is undisturbed is now. -/
theorem Current.now (h : Current i u t log) (hun : undisturbed i u t log = true) :
    newest u log = some t ∧ redemptions t log = 0 := by
  obtain ⟨later, earlier, rfl, hlater, hnew, hzero⟩ := h
  have hsince : since i (later ++ .lookedUp i t :: earlier) = later := by
    rw [since, List.takeWhile_append_of_pos (by simpa using hlater)]
    simp [Event.lookupOf]
  rw [undisturbed, hsince, List.all_eq_true] at hun
  have hnone : ∀ e ∈ later, e.redeems t = false ∧ e.issuedTo u = none := by
    intro e he
    have hdist := hun e he
    rw [Event.disturbs, Bool.not_eq_true', Bool.or_eq_false_iff] at hdist
    exact ⟨hdist.1, by simpa using hdist.2⟩
  constructor
  · rw [newest_append_of_none fun e he => (hnone e he).2, newest_cons_of_none rfl]
    exact hnew
  · rw [redemptions_append_of_not fun e he => (hnone e he).1, redemptions_cons_of_not rfl]
    exact hzero

/-- **A current token that is undisturbed may be redeemed.** -/
theorem Sound.redeem (h : Sound log) (hcur : Current i u t log)
    (hun : undisturbed i u t log = true) : Sound (.redeemed i u t :: log) := by
  obtain ⟨hnew, hzero⟩ := hcur.now hun
  refine ⟨?_, ?_⟩
  · intro s
    by_cases hs : t = s
    · subst hs
      have hone : redemptions t (.redeemed i u t :: log) = redemptions t log + 1 :=
        List.countP_cons_of_pos (by simp [Event.redeems])
      omega
    · rw [redemptions_cons_of_not (by simpa [Event.redeems] using hs)]
      exact h.once s
  · intro j v s earlier hsuf
    rcases List.suffix_cons_iff.mp hsuf with heq | hsuf
    · obtain ⟨hev, rfl⟩ := List.cons.inj heq
      cases hev
      exact hnew
    · exact h.newest j v s earlier hsuf

end Grants
end TransHub
