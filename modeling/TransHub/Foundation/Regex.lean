import Mathlib.Data.List.Basic
import Mathlib.Tactic.Common

/-!
# Regular expressions of a backtracking matcher

A matcher gives the ends of all matches that start at a position, the preferred one first; a
search takes the first position that has any.

* `Regex`, `ends`, `exec`, `test`, `replace`: the first match of a text, and its replacement.
* `separates`, `ends_frame`: a character that no match crosses.
* `exec_append_cons`: a search in a text that such a character divides.
* `cut`, `join`: replacing the first match by a marker cuts one piece in two
  (`replace_join`), and what the whole text matches, a piece does (`test_join`);
  `test_replaceEach` is the same for several expressions in turn.
* `literal`, `seqs`, `alts`, `opt`, `ignoreCase`: writing expressions.
-/

namespace TransHub

/-- Regular expressions; `many p k` is greedy and takes `k` characters or more. -/
inductive Regex where
  | empty
  | boundary
  | start
  | stop
  | set (p : Char → Bool)
  | many (p : Char → Bool) (k : ℕ)
  | seq (r s : Regex)
  | alt (r s : Regex)

/-- A position in a text: what is before it, from right to left, and what is after it. -/
structure Cursor where
  before : List Char
  after : List Char
  deriving DecidableEq

/-- A position in a longer text. -/
def Cursor.frame (l t : List Char) (x : Cursor) : Cursor := ⟨x.before ++ l, x.after ++ t⟩

namespace Regex

/-- `\w`. -/
def isWord (c : Char) : Bool := c.isAlphanum || c == '_'

/-- The first character of a text is a word character. -/
def wordAt (l : List Char) : Bool := l.head?.any isWord

/-! ## Matching -/

/-- The ends of `many p k`, the longest first. -/
def manyEnds (p : Char → Bool) : ℕ → List Char → List Char → List Cursor
  | k, b, [] => if k = 0 then [⟨b, []⟩] else []
  | k, b, c :: a =>
      (if p c then manyEnds p (k - 1) (c :: b) a else []) ++
        (if k = 0 then [⟨b, c :: a⟩] else [])

/-- The ends of the matches at a position, the preferred one first. -/
def ends : Regex → Cursor → List Cursor
  | .empty, x => [x]
  | .boundary, x => if wordAt x.before = wordAt x.after then [] else [x]
  | .start, x => if x.before = [] then [x] else []
  | .stop, x => if x.after = [] then [x] else []
  | .set _, ⟨_, []⟩ => []
  | .set p, ⟨b, c :: a⟩ => if p c then [⟨c :: b, a⟩] else []
  | .many p k, ⟨b, a⟩ => manyEnds p k b a
  | .seq r s, x => (r.ends x).flatMap s.ends
  | .alt r s, x => r.ends x ++ s.ends x

/-- The first match at or after a position: what is before it, from right to left, and what is
after it. -/
def search (r : Regex) : List Char → List Char → Option (List Char × List Char)
  | b, [] => (r.ends ⟨b, []⟩).head?.map fun y => (b, y.after)
  | b, c :: a => match (r.ends ⟨b, c :: a⟩).head? with
    | some y => some (b, y.after)
    | none => search r (c :: b) a

/-- `re.exec`: the text before the first match and the text after it. -/
def exec (r : Regex) (s : List Char) : Option (List Char × List Char) :=
  (r.search [] s).map fun m => (m.1.reverse, m.2)

/-- `re.test`. -/
def test (r : Regex) (s : List Char) : Bool := (r.exec s).isSome

/-- `s.replace(re, m)`, for an expression that is not global. -/
def replace (r : Regex) (m s : List Char) : List Char :=
  match r.exec s with
  | none => s
  | some (before, after) => before ++ m ++ after

/-! ## Characters that no match crosses -/

/-- An expression without anchors, none of whose sets has `c`. -/
def rejects (c : Char) : Regex → Bool
  | .empty | .boundary => true
  | .start | .stop => false
  | .set p | .many p _ => !p c
  | .seq r s | .alt r s => r.rejects c && s.rejects c

/-- No match of `r` crosses `c`, nor does `c` look different to it from an end of the text. -/
def separates (r : Regex) (c : Char) : Bool := !isWord c && r.rejects c

/-- A text that is empty or starts with `c`. -/
def StartsWith (c : Char) (l : List Char) : Prop := l = [] ∨ ∃ t, l = c :: t

variable {c : Char} {l t : List Char}

theorem wordAt_append (hc : isWord c = false) (hl : StartsWith c l) (b : List Char) :
    wordAt (b ++ l) = wordAt b := by
  cases b with
  | cons d b => rfl
  | nil =>
    rcases hl with rfl | ⟨u, rfl⟩
    · rfl
    · exact hc

theorem manyEnds_frame {p : Char → Bool} (hp : p c = false) (ht : StartsWith c t) (k : ℕ)
    (b a : List Char) :
    manyEnds p k (b ++ l) (a ++ t) = (manyEnds p k b a).map (Cursor.frame l t) := by
  induction a generalizing k b with
  | nil =>
    rcases ht with rfl | ⟨u, rfl⟩
    · rw [List.append_nil, manyEnds, manyEnds]
      split <;> rfl
    · rw [List.nil_append, manyEnds, manyEnds, if_neg (by rw [hp]; decide), List.nil_append]
      split <;> rfl
  | cons d a ih =>
    rw [List.cons_append, manyEnds, manyEnds, List.map_append]
    congr 1
    · split
      · exact ih (k - 1) (d :: b)
      · rfl
    · split <;> rfl

/-- **Frame.**  The matches in a text are those in a longer one that `c` divides from it. -/
theorem ends_frame {r : Regex} (hc : isWord c = false) (hr : r.rejects c = true)
    (hl : StartsWith c l) (ht : StartsWith c t) (x : Cursor) :
    r.ends (x.frame l t) = (r.ends x).map (Cursor.frame l t) := by
  induction r generalizing x with
  | empty => rfl
  | boundary =>
    rw [ends, ends, Cursor.frame]
    dsimp only
    rw [wordAt_append hc hl, wordAt_append hc ht]
    split <;> rfl
  | start => cases hr
  | stop => cases hr
  | set p =>
    have hp : p c = false := by simpa [rejects] using hr
    obtain ⟨b, a⟩ := x
    cases a with
    | cons d a =>
      rw [Cursor.frame, List.cons_append, ends, ends]
      split <;> rfl
    | nil =>
      rcases ht with rfl | ⟨u, rfl⟩
      · rfl
      · rw [Cursor.frame, List.nil_append, ends, ends, if_neg (by rw [hp]; decide)]
        rfl
  | many p k =>
    have hp : p c = false := by simpa [rejects] using hr
    exact manyEnds_frame hp ht k x.before x.after
  | seq r s ihr ihs =>
    rw [rejects, Bool.and_eq_true] at hr
    rw [ends, ends, ihr hr.1, List.flatMap_map, List.map_flatMap]
    exact List.flatMap_congr fun y _ => ihs hr.2 y
  | alt r s ihr ihs =>
    rw [rejects, Bool.and_eq_true] at hr
    rw [ends, ends, ihr hr.1, ihs hr.2, List.map_append]

/-! ## Searching a divided text -/

/-- What comes before the position is not looked at beyond a separating character. -/
theorem search_frame {r : Regex} (hr : r.separates c = true) (hl : StartsWith c l)
    (b a : List Char) :
    r.search (b ++ l) a = (r.search b a).map fun m => (m.1 ++ l, m.2) := by
  rw [separates, Bool.and_eq_true, Bool.not_eq_true'] at hr
  have hends : ∀ b a, (r.ends ⟨b ++ l, a⟩).head? =
      ((r.ends ⟨b, a⟩).head?).map (Cursor.frame l []) := by
    intro b a
    have hframe := ends_frame hr.1 hr.2 hl (Or.inl rfl) ⟨b, a⟩
    rw [Cursor.frame, List.append_nil] at hframe
    rw [hframe, List.head?_map]
  induction a generalizing b with
  | nil =>
    rw [search, search, hends, Option.map_map, Option.map_map]
    congr 1
    ext1 y
    simp [Cursor.frame]
  | cons d a ih =>
    rw [search, search, hends]
    cases (r.ends ⟨b, d :: a⟩).head? with
    | none => exact ih (d :: b)
    | some y => simp [Cursor.frame]

/-- **A divided text.**  The first match is that of the first part, or else that of the second. -/
theorem search_append_cons {r : Regex} (hr : r.separates c = true) (b a : List Char) :
    r.search b (a ++ c :: t) = match r.search b a with
      | some m => some (m.1, m.2 ++ c :: t)
      | none => (r.search [] t).map fun m => (m.1 ++ c :: (a.reverse ++ b), m.2) := by
  have hsep := hr
  rw [separates, Bool.and_eq_true, Bool.not_eq_true'] at hsep
  have hends : ∀ b a, (r.ends ⟨b, a ++ c :: t⟩).head? =
      ((r.ends ⟨b, a⟩).head?).map (Cursor.frame [] (c :: t)) := by
    intro b a
    have hframe := ends_frame hsep.1 hsep.2 (Or.inl rfl) (Or.inr ⟨t, rfl⟩) ⟨b, a⟩
    rw [Cursor.frame, List.append_nil] at hframe
    rw [hframe, List.head?_map]
  induction a generalizing b with
  | nil =>
    have hnil := hends b []
    rw [List.nil_append] at hnil
    rw [List.nil_append, search, search, hnil]
    cases (r.ends ⟨b, []⟩).head? with
    | some y => rfl
    | none => exact search_frame hr (Or.inr ⟨b, rfl⟩) [] t
  | cons d a ih =>
    have hcons := hends b (d :: a)
    rw [List.cons_append] at hcons
    rw [List.cons_append, search, search, hcons]
    cases (r.ends ⟨b, d :: a⟩).head? with
    | some y => rfl
    | none =>
      dsimp only [Option.map_none]
      rw [ih (d :: b), List.reverse_cons, List.append_assoc, List.singleton_append]

theorem exec_append_cons {r : Regex} (hr : r.separates c = true) (a : List Char) :
    r.exec (a ++ c :: t) = match r.exec a with
      | some m => some (m.1, m.2 ++ c :: t)
      | none => (r.exec t).map fun m => (a ++ c :: m.1, m.2) := by
  rw [exec, exec, exec, search_append_cons hr]
  cases r.search [] a with
  | some m => rfl
  | none =>
    dsimp only [Option.map_none]
    rw [Option.map_map, Option.map_map]
    congr 1
    ext1 m
    simp

/-! ## Markers -/

/-- A marker that has no match and that no match crosses. -/
structure Inert (r : Regex) (m : List Char) : Prop where
  split : ∃ c mid d, m = c :: (mid ++ [d]) ∧ r.separates c = true ∧ r.separates d = true ∧
    r.exec mid = none

/-- A text that a marker divides. -/
theorem exec_marker {r : Regex} {m : List Char} (hm : r.Inert m) (a b : List Char) :
    r.exec (a ++ m ++ b) = match r.exec a with
      | some x => some (x.1, x.2 ++ m ++ b)
      | none => (r.exec b).map fun x => (a ++ m ++ x.1, x.2) := by
  obtain ⟨c, mid, d, rfl, hc, hd, hmid⟩ := hm.split
  have hassoc : a ++ (c :: (mid ++ [d])) ++ b = a ++ c :: (mid ++ d :: b) := by simp
  rw [hassoc, exec_append_cons hc, exec_append_cons hd, hmid]
  cases r.exec a with
  | some x => simp
  | none =>
    dsimp only
    rw [Option.map_map]
    congr 1
    ext1 x
    simp

/-- Pieces with a marker between each and the next. -/
def join (m : List Char) : List (List Char) → List Char
  | [] => []
  | p :: ps => p ++ ps.flatMap fun q => m ++ q

/-- The first match cut out of the first piece that has one. -/
def cut (r : Regex) : List (List Char) → List (List Char)
  | [] => []
  | p :: ps => match r.exec p with
    | some (before, after) => before :: after :: ps
    | none => p :: cut r ps

theorem join_cons_cons (m p q : List Char) (ps : List (List Char)) :
    join m (p :: q :: ps) = p ++ m ++ join m (q :: ps) := by
  simp [join]

theorem cut_ne_nil (r : Regex) (p : List Char) (ps : List (List Char)) : cut r (p :: ps) ≠ [] := by
  rw [cut]
  split <;> exact List.cons_ne_nil _ _

/-- **Replacing is cutting.** -/
theorem replace_join {r : Regex} {m : List Char} (hm : r.Inert m) (p : List Char)
    (ps : List (List Char)) : r.replace m (join m (p :: ps)) = join m (cut r (p :: ps)) := by
  induction ps generalizing p with
  | nil =>
    rw [cut, replace, show join m [p] = p from List.append_nil p]
    cases r.exec p with
    | none => exact (List.append_nil p).symm
    | some x => simp [join]
  | cons q ps ih =>
    have hq := ih q
    rw [replace] at hq
    rw [join_cons_cons, cut, replace, exec_marker hm]
    cases r.exec p with
    | some x => simp [join]
    | none =>
      dsimp only
      cases hrest : r.exec (join m (q :: ps)) with
      | none =>
        rw [hrest] at hq
        obtain ⟨s, ss, hss⟩ := List.exists_cons_of_ne_nil (cut_ne_nil r q ps)
        rw [hss] at hq ⊢
        rw [join_cons_cons, ← hq]
        rfl
      | some x =>
        rw [hrest] at hq
        obtain ⟨s, ss, hss⟩ := List.exists_cons_of_ne_nil (cut_ne_nil r q ps)
        rw [hss] at hq ⊢
        rw [join_cons_cons, ← hq]
        simp

/-- **A joined text matches where a piece does.** -/
theorem test_join {r : Regex} {m : List Char} (hm : r.Inert m) (p : List Char)
    (ps : List (List Char)) : r.test (join m (p :: ps)) = (p :: ps).any r.test := by
  induction ps generalizing p with
  | nil => rw [show join m [p] = p from List.append_nil p, List.any_cons, List.any_nil, Bool.or_false]
  | cons q ps ih =>
    rw [List.any_cons, ← ih q, join_cons_cons, test, test, test, exec_marker hm]
    cases r.exec p with
    | some x => rfl
    | none => simp

/-- The pieces that are left when the first match of each expression in turn is cut out. -/
def pieces (rs : List Regex) (ps : List (List Char)) : List (List Char) :=
  rs.foldl (fun ps r => cut r ps) ps

/-- The first match of each expression in turn, replaced by a marker. -/
def replaceEach (rs : List Regex) (m s : List Char) : List Char :=
  rs.foldl (fun s r => r.replace m s) s

theorem replaceEach_join {rs : List Regex} {m : List Char} (hm : ∀ r ∈ rs, r.Inert m)
    {ps : List (List Char)} (hps : ps ≠ []) :
    pieces rs ps ≠ [] ∧ replaceEach rs m (join m ps) = join m (pieces rs ps) := by
  induction rs generalizing ps with
  | nil => exact ⟨hps, rfl⟩
  | cons r rs ih =>
    obtain ⟨p, ps, rfl⟩ := List.exists_cons_of_ne_nil hps
    have hrest := ih (fun q hq => hm q (List.mem_cons_of_mem r hq)) (cut_ne_nil r p ps)
    rw [← replace_join (hm r List.mem_cons_self)] at hrest
    exact hrest

/-- **What is left.**  An expression matches after the replacements where it matches a piece. -/
theorem test_replaceEach {rs : List Regex} {m : List Char} (hm : ∀ r ∈ rs, r.Inert m) {r : Regex}
    (hr : r.Inert m) (s : List Char) :
    r.test (replaceEach rs m s) = (pieces rs [s]).any r.test := by
  obtain ⟨hne, heq⟩ := replaceEach_join hm (List.cons_ne_nil s [])
  rw [show join m [s] = s from List.append_nil s] at heq
  obtain ⟨p, ps, hps⟩ := List.exists_cons_of_ne_nil hne
  rw [heq, hps, test_join hr]

/-! ## Writing expressions -/

/-- The characters of a text, one after the other. -/
def literal (s : String) : Regex := s.toList.foldr (fun c r => .seq (.set fun d => d == c) r) .empty

/-- One expression after the other. -/
def seqs (rs : List Regex) : Regex := rs.foldr .seq .empty

/-- One of several expressions, the first that matches. -/
def alts (rs : List Regex) : Regex := rs.foldr .alt (.set fun _ => false)

/-- `r?`. -/
def opt (r : Regex) : Regex := .alt r .empty

/-- The flag `i`: a set has a letter when it has it in one of its cases. -/
def ignoreCase : Regex → Regex
  | .set p => .set fun c => p c || p c.toLower || p c.toUpper
  | .many p k => .many (fun c => p c || p c.toLower || p c.toUpper) k
  | .seq r s => .seq r.ignoreCase s.ignoreCase
  | .alt r s => .alt r.ignoreCase s.ignoreCase
  | .empty => .empty
  | .boundary => .boundary
  | .start => .start
  | .stop => .stop

/-- `\s`. -/
def isSpace (c : Char) : Bool :=
  (9 ≤ c.toNat && c.toNat ≤ 13) || c == ' ' || c.toNat == 0xa0 || c.toNat == 0x1680 ||
    (0x2000 ≤ c.toNat && c.toNat ≤ 0x200a) || c.toNat == 0x2028 || c.toNat == 0x2029 ||
    c.toNat == 0x202f || c.toNat == 0x205f || c.toNat == 0x3000 || c.toNat == 0xfeff

end Regex
end TransHub
