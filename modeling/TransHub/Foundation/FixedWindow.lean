import Mathlib.Data.List.Induction
import Mathlib.Order.Basic
import Mathlib.Tactic.Common

/-!
# Fixed-window counters

A counter opens a window of length `W` with its first hit after the last window has closed, and
numbers the hits of each window from one.  A hit is let through when its number is at most `m`.

* `Hit`, `WellCounted`: a history of hits with the window and the number of each.
* `WellCounted.snoc`: what the next hit has to meet.
* `countP_window_le`: at most `m` hits of a window are let through.
* `countP_interval_le`: at most `2 * m` in any interval of length `W`.
* `le_countP_of_refused`: a hit is refused when `m` hits came before it in its window.
-/

namespace TransHub
namespace FixedWindow

/-- A hit on the counter of `key`, in the window that closes at `closes`, the `number`-th there. -/
structure Hit (κ : Type) where
  key : κ
  time : ℕ
  closes : ℕ
  number : ℕ
  deriving DecidableEq

/-- Two tests count no less than one that implies either. -/
theorem countP_le_add {α : Type} {log : List α} {p q r : α → Bool}
    (h : ∀ e ∈ log, p e = true → q e = true ∨ r e = true) :
    log.countP p ≤ log.countP q + log.countP r := by
  induction log with
  | nil => simp
  | cons e log ih =>
    have hle := ih fun d hd => h d (List.mem_cons_of_mem _ hd)
    have he := h e List.mem_cons_self
    rw [List.countP_cons, List.countP_cons, List.countP_cons]
    by_cases hp : p e = true
    · rcases he hp with hq | hr
      · rw [if_pos hp, if_pos hq]
        omega
      · rw [if_pos hp, if_pos hr]
        omega
    · rw [if_neg hp]
      omega

variable {κ : Type} [DecidableEq κ] {W : κ → ℕ} {log : List (Hit κ)} {e : Hit κ}

/-- Two hits of one window. -/
def sameWindow (a b : Hit κ) : Bool := b.key == a.key && b.closes == a.closes

theorem sameWindow_iff {a b : Hit κ} :
    sameWindow a b = true ↔ b.key = a.key ∧ b.closes = a.closes := by
  rw [sameWindow, Bool.and_eq_true, beq_iff_eq, beq_iff_eq]

/-- A history of counters with windows of length `W`. -/
structure WellCounted (W : κ → ℕ) (log : List (Hit κ)) : Prop where
  number : ∀ before e after, log = before ++ e :: after →
    before.countP (sameWindow e) + 1 = e.number
  inside : ∀ e ∈ log, e.time ≤ e.closes ∧ e.closes ≤ e.time + W e.key
  apart : ∀ a ∈ log, ∀ b ∈ log, a.key = b.key → a.closes < b.closes →
    a.closes + W a.key < b.closes

namespace WellCounted

theorem nil : WellCounted W ([] : List (Hit κ)) where
  number before e after h := by cases before <;> cases h
  inside e he := absurd he (by simp)
  apart a ha := absurd ha (by simp)

/-- **The next hit.**  It is in the window that is open, with the next number, or opens one after
the last window has closed. -/
theorem snoc (h : WellCounted W log) (hnumber : log.countP (sameWindow e) + 1 = e.number)
    (hinside : e.time ≤ e.closes ∧ e.closes ≤ e.time + W e.key)
    (hapart : ∀ a ∈ log, a.key = e.key → a.closes = e.closes ∨ a.closes + W a.key < e.closes) :
    WellCounted W (log ++ [e]) where
  number before d after hsplit := by
    rcases List.eq_nil_or_concat after with rfl | ⟨after, z, rfl⟩
    · obtain ⟨rfl, hd⟩ := List.append_inj' hsplit rfl
      cases hd
      exact hnumber
    · have hlog : log = before ++ d :: after := by
        have hassoc : log ++ [e] = (before ++ d :: after) ++ [z] := by
          rw [hsplit, List.concat_eq_append, List.append_assoc, List.cons_append]
        exact (List.append_inj' hassoc rfl).1
      exact h.number before d after hlog
  inside d hd := by
    rcases List.mem_append.mp hd with hd | hd
    · exact h.inside d hd
    · rw [List.mem_singleton.mp hd]
      exact hinside
  apart a ha b hb hkey hlt := by
    rcases List.mem_append.mp ha with haold | hanew <;>
      rcases List.mem_append.mp hb with hbold | hbnew
    · exact h.apart a haold b hbold hkey hlt
    · rw [List.mem_singleton.mp hbnew] at hkey hlt ⊢
      rcases hapart a haold hkey with heq | hgap
      · omega
      · exact hgap
    · rw [List.mem_singleton.mp hanew] at hkey hlt
      have hgap := hapart b hbold hkey.symm
      omega
    · rw [List.mem_singleton.mp hanew, List.mem_singleton.mp hbnew] at hlt
      omega

/-- The history up to a hit. -/
theorem init (h : WellCounted W (log ++ [e])) : WellCounted W log where
  number before d after hsplit := by
    refine h.number before d (after ++ [e]) ?_
    rw [hsplit, List.append_assoc, List.cons_append]
  inside d hd := h.inside d (List.mem_append_left _ hd)
  apart a ha b hb := h.apart a (List.mem_append_left _ ha) b (List.mem_append_left _ hb)

end WellCounted

/-! ## The bounds -/

/-- Let through on `k` in the window that closes at `closes`. -/
def passedInWindow (k : κ) (m closes : ℕ) (e : Hit κ) : Bool :=
  e.key == k && decide (e.number ≤ m) && e.closes == closes

/-- Let through on `k` from `start` to `stop`. -/
def passedBetween (k : κ) (m start stop : ℕ) (e : Hit κ) : Bool :=
  e.key == k && decide (e.number ≤ m) && decide (start ≤ e.time) && decide (e.time ≤ stop)

theorem passedInWindow_iff {k : κ} {m closes : ℕ} :
    passedInWindow k m closes e = true ↔ e.key = k ∧ e.number ≤ m ∧ e.closes = closes := by
  simp [passedInWindow, and_assoc]

theorem passedBetween_iff {k : κ} {m start stop : ℕ} :
    passedBetween k m start stop e = true ↔
      e.key = k ∧ e.number ≤ m ∧ start ≤ e.time ∧ e.time ≤ stop := by
  simp [passedBetween, and_assoc]

/-- **One window.**  It lets at most `m` hits through. -/
theorem countP_window_le (h : WellCounted W log) (k : κ) (m closes : ℕ) :
    log.countP (passedInWindow k m closes) ≤ m := by
  induction log using List.reverseRecOn with
  | nil => simp
  | append_singleton log e ih =>
    have hle := ih h.init
    rw [List.countP_append, List.countP_singleton]
    split
    · next hpass =>
      obtain ⟨hk, hm, hcloses⟩ := passedInWindow_iff.mp hpass
      -- the hits let through are among those that the number of `e` counts
      have hnumber := h.number log e [] rfl
      have hsub : log.countP (passedInWindow k m closes) ≤ log.countP (sameWindow e) := by
        refine List.countP_mono_left ?_
        intro d _ hd
        obtain ⟨hdk, -, hdcloses⟩ := passedInWindow_iff.mp hd
        exact sameWindow_iff.mpr ⟨hdk.trans hk.symm, hdcloses.trans hcloses.symm⟩
      omega
    · omega

/-- **A refused hit.**  As many hits as are let through came before it in its window. -/
theorem le_countP_of_refused (h : WellCounted W log) {before after : List (Hit κ)} {m : ℕ}
    (hlog : log = before ++ e :: after) (hm : m < e.number) :
    m ≤ before.countP (sameWindow e) := by
  have hnumber := h.number before e after hlog
  omega

/-- Windows that meet an interval of their length: a third one would close too late. -/
theorem window_of_interval (h : WellCounted W log) {a b d : Hit κ} (ha : a ∈ log) (hb : b ∈ log)
    (hd : d ∈ log) {k : κ} (hak : a.key = k) (hbk : b.key = k) (hdk : d.key = k) {start : ℕ}
    (hat : start ≤ a.time ∧ a.time ≤ start + W k) (hbt : start ≤ b.time ∧ b.time ≤ start + W k)
    (hdt : start ≤ d.time ∧ d.time ≤ start + W k) (hne : a.closes ≠ b.closes) :
    d.closes = a.closes ∨ d.closes = b.closes := by
  have hain := h.inside a ha
  have hbin := h.inside b hb
  have hdin := h.inside d hd
  have hab := h.apart a ha b hb (hak.trans hbk.symm)
  have hba := h.apart b hb a ha (hbk.trans hak.symm)
  have had := h.apart a ha d hd (hak.trans hdk.symm)
  have hda := h.apart d hd a ha (hdk.trans hak.symm)
  have hbd := h.apart b hb d hd (hbk.trans hdk.symm)
  have hdb := h.apart d hd b hb (hdk.trans hbk.symm)
  rw [hak] at hain hab had
  rw [hbk] at hbin hba hbd
  rw [hdk] at hdin hda hdb
  omega

/-- **Any interval.**  One of the length of a window lets at most `2 * m` hits through. -/
theorem countP_interval_le (h : WellCounted W log) (k : κ) (m start : ℕ) :
    log.countP (passedBetween k m start (start + W k)) ≤ 2 * m := by
  by_cases hsome : ∃ a ∈ log, passedBetween k m start (start + W k) a = true
  · obtain ⟨a, ha, hpa⟩ := hsome
    obtain ⟨hak, -, hat⟩ := passedBetween_iff.mp hpa
    have hwa := countP_window_le h k m a.closes
    by_cases htwo : ∃ b ∈ log, passedBetween k m start (start + W k) b = true ∧
        a.closes ≠ b.closes
    · obtain ⟨b, hb, hpb, hne⟩ := htwo
      obtain ⟨hbk, -, hbt⟩ := passedBetween_iff.mp hpb
      have hwb := countP_window_le h k m b.closes
      have hsplit : log.countP (passedBetween k m start (start + W k)) ≤
          log.countP (passedInWindow k m a.closes) + log.countP (passedInWindow k m b.closes) := by
        refine countP_le_add ?_
        intro d hd hpd
        obtain ⟨hdk, hdm, hdt⟩ := passedBetween_iff.mp hpd
        rcases window_of_interval h ha hb hd hak hbk hdk hat hbt hdt hne with hc | hc
        · exact Or.inl (passedInWindow_iff.mpr ⟨hdk, hdm, hc⟩)
        · exact Or.inr (passedInWindow_iff.mpr ⟨hdk, hdm, hc⟩)
      omega
    · have hsub : log.countP (passedBetween k m start (start + W k)) ≤
          log.countP (passedInWindow k m a.closes) := by
        refine List.countP_mono_left ?_
        intro d hd hpd
        obtain ⟨hdk, hdm, -⟩ := passedBetween_iff.mp hpd
        refine passedInWindow_iff.mpr ⟨hdk, hdm, ?_⟩
        by_contra hne
        exact htwo ⟨d, hd, hpd, fun hc => hne hc.symm⟩
      omega
  · have hzero : log.countP (passedBetween k m start (start + W k)) = 0 :=
      List.countP_eq_zero.mpr fun e he hp => hsome ⟨e, he, hp⟩
    omega

end FixedWindow
end TransHub
