import Mathlib.Data.List.Chain
import Mathlib.Data.List.Infix
import Mathlib.Data.List.DropRight
import Mathlib.Tactic.Common

/-!
# Words and separators

Texts over any alphabet with a class of separators.

* `words`: the maximal runs of letters; `join`: words with one separator between each two.
* `words_join`, `length_eq_of_join`: `join` is injective on lists of words.
* `trim`, `trimLeft`, `collapse`: dropping the outer separators and shrinking the inner runs to
  one separator; `collapse_trim` says what they make of a text.
-/

namespace TransHub
namespace Words

variable {α : Type} (p : α → Bool)

/-- A word in front of others, when there is one. -/
def flush (w : List α) (ws : List (List α)) : List (List α) :=
  if w.isEmpty then ws else w :: ws

/-- The letters before the first separator, and the words after it. -/
def chunk : List α → List α × List (List α)
  | [] => ([], [])
  | c :: s => if p c then ([], flush (chunk s).1 (chunk s).2) else (c :: (chunk s).1, (chunk s).2)

/-- The maximal runs of letters. -/
def words (s : List α) : List (List α) := flush (chunk p s).1 (chunk p s).2

/-- Words, each after a separator. -/
def spaced (sep : α) (ws : List (List α)) : List α := ws.flatMap fun w => sep :: w

/-- Words with a separator between each two. -/
def join (sep : α) (ws : List (List α)) : List α := (spaced sep ws).drop 1

/-- A text without the separators that it begins with. -/
def trimLeft (s : List α) : List α := s.dropWhile p

/-- A text without the separators that it begins or ends with. -/
def trim (s : List α) : List α := (trimLeft p s).rdropWhile p

/-- Each run of separators as the one separator `sep`; `inRun` after another separator. -/
def collapse (sep : α) : Bool → List α → List α
  | _, [] => []
  | inRun, c :: s =>
    if p c then (if inRun then collapse sep true s else sep :: collapse sep true s)
    else c :: collapse sep false s

variable {p} {sep : α}

@[simp] theorem flush_nil (ws : List (List α)) : flush [] ws = ws := rfl

@[simp] theorem flush_cons (c : α) (w : List α) (ws : List (List α)) :
    flush (c :: w) ws = (c :: w) :: ws := rfl

theorem chunk_cons_of_sep {c : α} (hc : p c = true) (s : List α) :
    chunk p (c :: s) = ([], words p s) := by
  rw [chunk, if_pos hc, words]

theorem chunk_cons_of_letter {c : α} (hc : p c = false) (s : List α) :
    chunk p (c :: s) = (c :: (chunk p s).1, (chunk p s).2) := by
  rw [chunk, hc]
  rfl

@[simp] theorem words_nil : words p [] = [] := rfl

theorem words_cons_of_sep {c : α} (hc : p c = true) (s : List α) :
    words p (c :: s) = words p s := by
  rw [words, chunk_cons_of_sep hc, flush_nil]

theorem words_cons_of_letter {c : α} (hc : p c = false) (s : List α) :
    words p (c :: s) = (c :: (chunk p s).1) :: (chunk p s).2 := by
  rw [words, chunk_cons_of_letter hc, flush_cons]

@[simp] theorem spaced_nil : spaced sep [] = [] := rfl

@[simp] theorem spaced_cons (w : List α) (ws : List (List α)) :
    spaced sep (w :: ws) = sep :: (w ++ spaced sep ws) := rfl

@[simp] theorem join_nil : join sep [] = [] := rfl

@[simp] theorem join_cons (w : List α) (ws : List (List α)) :
    join sep (w :: ws) = w ++ spaced sep ws := rfl

/-! ## Words of a text -/

/-- A word: letters, and at least one. -/
def IsWord (p : α → Bool) (w : List α) : Prop := w ≠ [] ∧ ∀ c ∈ w, p c = false

/-- A text is letters and then words. -/
theorem isWord_of_mem_chunk (s : List α) :
    (∀ c ∈ (chunk p s).1, p c = false) ∧ ∀ w ∈ (chunk p s).2, IsWord p w := by
  induction s with
  | nil => exact ⟨fun _ h => absurd h List.not_mem_nil, fun _ h => absurd h List.not_mem_nil⟩
  | cons c s ih =>
    obtain ⟨hletters, hwords⟩ := ih
    by_cases hc : p c = true
    · rw [chunk_cons_of_sep hc]
      refine ⟨fun _ h => absurd h List.not_mem_nil, fun w hw => ?_⟩
      cases hchunk : (chunk p s).1 with
      | nil =>
        rw [words, hchunk, flush_nil] at hw
        exact hwords w hw
      | cons d w' =>
        rw [words, hchunk, flush_cons] at hw
        rcases List.mem_cons.mp hw with rfl | hw
        · exact ⟨List.cons_ne_nil _ _, hchunk ▸ hletters⟩
        · exact hwords w hw
    · have hletter : p c = false := Bool.eq_false_iff.mpr hc
      rw [chunk_cons_of_letter hletter]
      refine ⟨fun d hd => ?_, hwords⟩
      rcases List.mem_cons.mp hd with rfl | hd
      · exact hletter
      · exact hletters d hd

theorem isWord_of_mem_words {s w : List α} (h : w ∈ words p s) : IsWord p w := by
  induction s with
  | nil => cases h
  | cons c s ih =>
    by_cases hc : p c = true
    · exact ih (words_cons_of_sep hc s ▸ h)
    · have hletter : p c = false := Bool.eq_false_iff.mpr hc
      obtain ⟨hletters, hwords⟩ := isWord_of_mem_chunk (p := p) (c :: s)
      rw [words_cons_of_letter hletter] at h
      rw [chunk_cons_of_letter hletter] at hletters hwords
      rcases List.mem_cons.mp h with rfl | h
      · exact ⟨List.cons_ne_nil _ _, hletters⟩
      · exact hwords w h

/-- Letters in front of a text go to its first run. -/
theorem chunk_append {w : List α} (hw : ∀ c ∈ w, p c = false) (s : List α) :
    chunk p (w ++ s) = (w ++ (chunk p s).1, (chunk p s).2) := by
  induction w with
  | nil => rfl
  | cons c w ih =>
    have htail := ih fun d hd => hw d (List.mem_cons_of_mem _ hd)
    rw [List.cons_append, chunk_cons_of_letter (hw c List.mem_cons_self), htail]
    rfl

/-- Words after separators are found again. -/
theorem chunk_spaced (hsep : p sep = true) {ws : List (List α)} (h : ∀ w ∈ ws, IsWord p w) :
    chunk p (spaced sep ws) = ([], ws) := by
  induction ws with
  | nil => rfl
  | cons w ws ih =>
    obtain ⟨hne, hletters⟩ := h w List.mem_cons_self
    have htail := ih fun v hv => h v (List.mem_cons_of_mem _ hv)
    have hchunk : chunk p (w ++ spaced sep ws) = (w, ws) := by
      rw [chunk_append hletters, htail, List.append_nil]
    have hflush : flush w ws = w :: ws := by
      rw [flush, if_neg (by simpa using hne)]
    rw [spaced_cons, chunk_cons_of_sep hsep, words, hchunk, hflush]

theorem words_join (hsep : p sep = true) {ws : List (List α)} (h : ∀ w ∈ ws, IsWord p w) :
    words p (join sep ws) = ws := by
  cases ws with
  | nil => rfl
  | cons w ws =>
    obtain ⟨hne, hletters⟩ := h w List.mem_cons_self
    have htail := chunk_spaced hsep fun v hv => h v (List.mem_cons_of_mem _ hv)
    rw [join_cons, words, chunk_append hletters, htail, List.append_nil, flush,
      if_neg (by simpa using hne)]

/-- A text without words has no letters. -/
theorem words_eq_nil_iff {s : List α} : words p s = [] ↔ ∀ c ∈ s, p c = true := by
  induction s with
  | nil => simp
  | cons c s ih =>
    by_cases hc : p c = true
    · rw [words_cons_of_sep hc, ih, List.forall_mem_cons]
      exact (and_iff_right hc).symm
    · rw [words_cons_of_letter (Bool.eq_false_iff.mpr hc), List.forall_mem_cons]
      exact iff_of_false (List.cons_ne_nil _ _) fun h => hc h.1

/-- Words make a text. -/
theorem join_eq_nil_iff {ws : List (List α)} (h : ∀ w ∈ ws, IsWord p w) :
    join sep ws = [] ↔ ws = [] := by
  cases ws with
  | nil => exact iff_of_true rfl rfl
  | cons w ws =>
    refine iff_of_false ?_ (List.cons_ne_nil _ _)
    rw [join_cons]
    exact List.append_ne_nil_of_left_ne_nil (h w List.mem_cons_self).1 _

/-- Different words make different texts. -/
theorem join_inj (hsep : p sep = true) {ws vs : List (List α)} (hws : ∀ w ∈ ws, IsWord p w)
    (hvs : ∀ v ∈ vs, IsWord p v) : join sep ws = join sep vs ↔ ws = vs := by
  constructor
  · intro h
    rw [← words_join hsep hws, h, words_join hsep hvs]
  · exact fun h => h ▸ rfl

/-! ## Trimming and collapsing -/

theorem words_trimLeft (s : List α) : words p (trimLeft p s) = words p s := by
  induction s with
  | nil => rfl
  | cons c s ih =>
    by_cases hc : p c = true
    · rw [trimLeft, List.dropWhile_cons_of_pos hc, words_cons_of_sep hc]
      exact ih
    · rw [trimLeft, List.dropWhile_cons_of_neg hc]

theorem chunk_concat_of_sep {c : α} (hc : p c = true) (s : List α) :
    chunk p (s ++ [c]) = chunk p s := by
  induction s with
  | nil => exact chunk_cons_of_sep hc []
  | cons d s ih => rw [List.cons_append, chunk, chunk, ih]

theorem words_trim (s : List α) : words p (trim p s) = words p s := by
  rw [← words_trimLeft s, trim]
  induction trimLeft p s using List.reverseRecOn with
  | nil => rfl
  | append_singleton s c ih =>
    by_cases hc : p c = true
    · rw [List.rdropWhile_concat_pos _ _ _ hc, ih, words, words, chunk_concat_of_sep hc]
    · rw [List.rdropWhile_concat_neg _ _ _ hc]

/-- A text that ends in a letter, or is empty. -/
def EndsInLetter (p : α → Bool) (s : List α) : Prop := ∀ c ∈ s.getLast?, p c = false

/-- A text that begins with a letter, or is empty. -/
def BeginsWithLetter (p : α → Bool) (s : List α) : Prop := ∀ c ∈ s.head?, p c = false

theorem beginsWithLetter_trimLeft (s : List α) : BeginsWithLetter p (trimLeft p s) := by
  intro c hc
  have hne : trimLeft p s ≠ [] := by
    rintro h
    rw [h] at hc
    cases hc
  have hhead : (trimLeft p s).head hne = c := by
    rw [List.head?_eq_some_head hne] at hc
    exact Option.mem_some_iff.mp hc
  exact hhead ▸ List.head_dropWhile_not p hne

theorem endsInLetter_trim (s : List α) : EndsInLetter p (trim p s) := by
  intro c hc
  have hne : trim p s ≠ [] := by
    rintro h
    rw [h] at hc
    cases hc
  have hlast : (trim p s).getLast hne = c := by
    rw [List.getLast?_eq_some_getLast hne] at hc
    exact Option.mem_some_iff.mp hc
  exact hlast ▸ Bool.eq_false_iff.mpr (List.rdropWhile_last_not p _ hne)

/-- A prefix begins as the text does. -/
theorem BeginsWithLetter.front {s t : List α} (h : BeginsWithLetter p t) (hst : s <+: t) :
    BeginsWithLetter p s := by
  obtain ⟨r, rfl⟩ := hst
  intro c hc
  exact h c (List.mem_head?_append_of_mem_head? hc)

theorem beginsWithLetter_trim (s : List α) : BeginsWithLetter p (trim p s) :=
  (beginsWithLetter_trimLeft s).front (List.rdropWhile_prefix p _)

/-- A text is what trimming leaves of it, between separators. -/
theorem exists_eq_append_trim (s : List α) : ∃ a b, s = a ++ trim p s ++ b ∧
    (∀ c ∈ a, p c = true) ∧ ∀ c ∈ b, p c = true := by
  refine ⟨s.takeWhile p, (trimLeft p s).rtakeWhile p, ?_, fun c => List.mem_takeWhile_imp,
    fun c => List.mem_rtakeWhile_imp⟩
  rw [List.append_assoc, trim, List.rdropWhile_append_rtakeWhile, trimLeft,
    List.takeWhile_append_dropWhile]

/-- Separators around a text with letters at both ends are all that is trimmed. -/
theorem trim_append {a y b : List α} (ha : ∀ c ∈ a, p c = true) (hb : ∀ c ∈ b, p c = true)
    (hbegin : BeginsWithLetter p y) (hend : EndsInLetter p y) : trim p (a ++ y ++ b) = y := by
  have hright : (y ++ b).rdropWhile p = y := by
    induction b using List.reverseRecOn with
    | nil =>
      rw [List.append_nil, List.rdropWhile_eq_self_iff]
      intro hne
      exact Bool.eq_false_iff.mp (hend _ (List.getLast?_eq_some_getLast hne))
    | append_singleton b c ih =>
      have hc : p c = true := hb c (by simp)
      rw [← List.append_assoc, List.rdropWhile_concat_pos _ _ _ hc]
      exact ih fun d hd => hb d (List.mem_append_left _ hd)
  have hleft : trimLeft p (a ++ y ++ b) = trimLeft p (y ++ b) := by
    rw [List.append_assoc, trimLeft, List.dropWhile_append_of_pos ha, trimLeft]
  rw [trim, hleft, trimLeft]
  cases y with
  | nil =>
    have hnil : b.dropWhile p = [] := List.dropWhile_eq_nil_iff.mpr hb
    rw [List.nil_append, hnil, List.rdropWhile_nil]
  | cons c y =>
    have hc : p c = false := hbegin c rfl
    rw [List.cons_append, List.dropWhile_cons_of_neg (Bool.eq_false_iff.mp hc), ← List.cons_append]
    exact hright

/-- What collapsing makes of a text that ends in a letter, within a run and outside of one. -/
theorem collapse_eq_of_endsInLetter {s : List α} (h : EndsInLetter p s) :
    (s ≠ [] → sep :: collapse p sep true s = spaced sep (words p s)) ∧
      collapse p sep false s = (chunk p s).1 ++ spaced sep (chunk p s).2 := by
  induction s with
  | nil => exact ⟨fun hne => absurd rfl hne, rfl⟩
  | cons c s ih =>
    have htail : EndsInLetter p s := by
      intro d hd
      cases s with
      | nil => cases hd
      | cons e s => exact h d (by simpa using hd)
    obtain ⟨hrun, hletter⟩ := ih htail
    by_cases hc : p c = true
    · have hne : s ≠ [] := by
        rintro rfl
        exact Bool.false_ne_true ((h c rfl).symm.trans hc)
      rw [words_cons_of_sep hc, chunk_cons_of_sep hc, ← hrun hne]
      simp [collapse, hc]
    · have hletter' : p c = false := Bool.eq_false_iff.mpr hc
      rw [words_cons_of_letter hletter', chunk_cons_of_letter hletter']
      simp [collapse, hletter', hletter]

/-- Trimming and collapsing put one separator between the words. -/
theorem collapse_trim (s : List α) : collapse p sep false (trim p s) = join sep (words p s) := by
  rw [(collapse_eq_of_endsInLetter (endsInLetter_trim s)).2, ← words_trim s]
  have hbegin := beginsWithLetter_trim (p := p) s
  cases htrim : trim p s with
  | nil => rfl
  | cons c t =>
    rw [htrim] at hbegin
    have hc : p c = false := hbegin c rfl
    rw [words_cons_of_letter hc, chunk_cons_of_letter hc, join_cons]

/-! ## Respelling and adjacent letters -/

section Respelling

variable {f : α → α}

/-- Respelling the letters respells the words. -/
theorem words_map (hf : ∀ c, p (f c) = p c) (s : List α) :
    words p (s.map f) = (words p s).map (List.map f) := by
  have hflush : ∀ (w : List α) (ws : List (List α)),
      flush (w.map f) (ws.map (List.map f)) = (flush w ws).map (List.map f) := by
    intro w ws
    cases w <;> rfl
  have hchunk : chunk p (s.map f) = ((chunk p s).1.map f, (chunk p s).2.map (List.map f)) := by
    induction s with
    | nil => rfl
    | cons c s ih =>
      by_cases hc : p c = true
      · rw [List.map_cons, chunk_cons_of_sep ((hf c).trans hc), chunk_cons_of_sep hc, words, words,
          ih, hflush]
        rfl
      · have hletter : p c = false := Bool.eq_false_iff.mpr hc
        rw [List.map_cons, chunk_cons_of_letter ((hf c).trans hletter),
          chunk_cons_of_letter hletter, ih]
        rfl
  rw [words, hchunk, hflush, words]

theorem beginsWithLetter_map (hf : ∀ c, p (f c) = p c) {s : List α} :
    BeginsWithLetter p (s.map f) ↔ BeginsWithLetter p s := by
  cases s with
  | nil => rfl
  | cons c s => simp [BeginsWithLetter, hf]

theorem endsInLetter_map (hf : ∀ c, p (f c) = p c) {s : List α} :
    EndsInLetter p (s.map f) ↔ EndsInLetter p s := by
  rw [EndsInLetter, EndsInLetter, List.getLast?_map]
  cases s.getLast? <;> simp [hf]

end Respelling

/-- Collapsing shrinks a last run, and drops it within a run. -/
theorem collapse_concat_of_sep (sep : α) {c : α} (hc : p c = true) (s : List α) :
    (∃ r, collapse p sep false (s ++ [c]) = r ++ [sep]) ∧
      (collapse p sep true (s ++ [c]) = [] ∨ ∃ r, collapse p sep true (s ++ [c]) = r ++ [sep]) := by
  induction s with
  | nil => exact ⟨⟨[], by simp [collapse, hc]⟩, Or.inl (by simp [collapse, hc])⟩
  | cons d s ih =>
    obtain ⟨⟨r, hr⟩, hrun⟩ := ih
    by_cases hd : p d = true
    · have hskip : collapse p sep true (d :: s ++ [c]) = collapse p sep true (s ++ [c]) := by
        simp [collapse, hd]
      have hkeep : collapse p sep false (d :: s ++ [c]) =
          sep :: collapse p sep true (s ++ [c]) := by
        simp [collapse, hd]
      rw [hskip, hkeep]
      refine ⟨?_, hrun⟩
      rcases hrun with hnil | ⟨r', hr'⟩
      · exact ⟨[], by rw [hnil, List.nil_append]⟩
      · exact ⟨sep :: r', by rw [hr', List.cons_append]⟩
    · have hletter : ∀ b, collapse p sep b (d :: s ++ [c]) = d :: r ++ [sep] := by
        intro b
        simp [collapse, hd, hr]
      exact ⟨⟨_, hletter false⟩, Or.inr ⟨_, hletter true⟩⟩

/-- A text ends in a letter when its collapsed form does. -/
theorem endsInLetter_of_collapse (hsep : p sep = true) {s : List α}
    (h : EndsInLetter p (collapse p sep false s)) : EndsInLetter p s := by
  cases s using List.reverseRecOn with
  | nil => exact fun _ hc => absurd hc (Option.not_mem_none _)
  | append_singleton s c =>
    by_cases hc : p c = true
    · obtain ⟨⟨r, hr⟩, -⟩ := collapse_concat_of_sep sep hc s
      rw [hr] at h
      exact absurd (h sep (by simp)) (by simp [hsep])
    · intro d hd
      rw [List.getLast?_concat, Option.mem_some_iff] at hd
      exact hd ▸ Bool.eq_false_iff.mpr hc

/-- Collapsing leaves a last letter. -/
theorem collapse_concat_of_letter (sep : α) {c : α} (hc : p c = false) (b : Bool) (s : List α) :
    ∃ r, collapse p sep b (s ++ [c]) = r ++ [c] := by
  induction s generalizing b with
  | nil => exact ⟨[], by simp [collapse, hc]⟩
  | cons d s ih =>
    by_cases hd : p d = true
    · obtain ⟨r, hr⟩ := ih true
      cases b with
      | true => exact ⟨r, by simp [collapse, hd, hr]⟩
      | false => exact ⟨sep :: r, by simp [collapse, hd, hr]⟩
    · obtain ⟨r, hr⟩ := ih false
      exact ⟨d :: r, by simp [collapse, hd, hr]⟩

/-- Collapsing keeps letters at both ends. -/
theorem EndsInLetter.collapse {s : List α} (h : EndsInLetter p s) (b : Bool) :
    EndsInLetter p (collapse p sep b s) := by
  cases s using List.reverseRecOn with
  | nil => exact fun _ hc => absurd hc (Option.not_mem_none _)
  | append_singleton s c =>
    have hc : p c = false := h c (by simp)
    obtain ⟨r, hr⟩ := collapse_concat_of_letter sep hc b s
    intro d hd
    rw [hr, List.getLast?_concat, Option.mem_some_iff] at hd
    exact hd ▸ hc

theorem BeginsWithLetter.collapse {s : List α} (h : BeginsWithLetter p s) (b : Bool) :
    BeginsWithLetter p (collapse p sep b s) := by
  cases s with
  | nil => exact fun _ hc => absurd hc (Option.not_mem_none _)
  | cons c s =>
    have hc : p c = false := h c rfl
    intro d hd
    rw [Words.collapse, hc] at hd
    exact Option.mem_some_iff.mp hd ▸ hc

/-- Collapsing brings in nothing but the one separator. -/
theorem mem_of_mem_collapse {c : α} {b : Bool} {s : List α} (h : c ∈ collapse p sep b s) :
    c = sep ∨ c ∈ s := by
  induction s generalizing b with
  | nil => cases h
  | cons d s ih =>
    by_cases hd : p d = true
    · cases b with
      | true =>
        have hskip : collapse p sep true (d :: s) = collapse p sep true s := by simp [collapse, hd]
        exact (ih (hskip ▸ h)).imp_right (List.mem_cons_of_mem d)
      | false =>
        have hkeep : collapse p sep false (d :: s) = sep :: collapse p sep true s := by
          simp [collapse, hd]
        rcases List.mem_cons.mp (hkeep ▸ h) with hc | hc
        · exact Or.inl hc
        · exact (ih hc).imp_right (List.mem_cons_of_mem d)
    · have hkeep : collapse p sep b (d :: s) = d :: collapse p sep false s := by
        simp [collapse, hd]
      rcases List.mem_cons.mp (hkeep ▸ h) with rfl | hc
      · exact Or.inr List.mem_cons_self
      · exact (ih hc).imp_right (List.mem_cons_of_mem d)

/-- A text begins with a letter when its collapsed form does. -/
theorem beginsWithLetter_of_collapse (hsep : p sep = true) {s : List α}
    (h : BeginsWithLetter p (collapse p sep false s)) : BeginsWithLetter p s := by
  cases s with
  | nil => exact fun _ hc => absurd hc (Option.not_mem_none _)
  | cons c s =>
    by_cases hc : p c = true
    · have hkeep : collapse p sep false (c :: s) = sep :: collapse p sep true s := by
        simp [collapse, hc]
      rw [hkeep] at h
      exact absurd (h sep rfl) (by simp [hsep])
    · intro d hd
      rw [List.head?_cons, Option.mem_some_iff] at hd
      exact hd ▸ Bool.eq_false_iff.mpr hc

/-- Separators are told apart the same way in the same text. -/
theorem collapse_congr {q : α → Bool} {s : List α} (h : ∀ c ∈ s, p c = q c) (b : Bool) :
    collapse p sep b s = collapse q sep b s := by
  induction s generalizing b with
  | nil => rfl
  | cons c s ih =>
    have htail : ∀ b, collapse p sep b s = collapse q sep b s :=
      fun b => ih (fun d hd => h d (List.mem_cons_of_mem _ hd)) b
    rw [collapse, collapse, h c List.mem_cons_self, htail, htail]

section Adjacent

variable {R : α → α → Prop} (hleft : ∀ c d, p c = true → R c d) (hright : ∀ c d, p d = true → R c d)
include hleft hright

/-- Collapsing leaves the letters that stand next to each other. -/
theorem isChain_collapse (hsep : p sep = true) (s : List α) (b : Bool) :
    (collapse p sep b s).IsChain R ↔ s.IsChain R := by
  induction s generalizing b with
  | nil => rfl
  | cons c s ih =>
    by_cases hc : p c = true
    · have hany : (c :: s).IsChain R ↔ s.IsChain R := by
        rw [List.isChain_cons]
        exact and_iff_right fun d _ => hleft c d hc
      rw [hany]
      cases b with
      | true =>
        have hskip : collapse p sep true (c :: s) = collapse p sep true s := by simp [collapse, hc]
        rw [hskip, ih]
      | false =>
        have hkeep : collapse p sep false (c :: s) = sep :: collapse p sep true s := by
          simp [collapse, hc]
        rw [hkeep, List.isChain_cons, ih]
        exact and_iff_right fun d _ => hleft sep d hsep
    · have hkeep : collapse p sep b (c :: s) = c :: collapse p sep false s := by
        simp [collapse, hc]
      rw [hkeep, List.isChain_cons, List.isChain_cons, ih]
      refine and_congr_left' ?_
      cases s with
      | nil => rfl
      | cons d s =>
        by_cases hd : p d = true
        · simp [collapse, hd, hright c sep hsep, hright c d hd]
        · simp [collapse, hd]

/-- Separators around a text stand next to no letters. -/
theorem isChain_append {a y b : List α} (ha : ∀ c ∈ a, p c = true) (hb : ∀ c ∈ b, p c = true) :
    (a ++ y ++ b).IsChain R ↔ y.IsChain R := by
  have hseps : ∀ {t : List α}, (∀ c ∈ t, p c = true) → t.IsChain R := by
    intro t ht
    refine List.Pairwise.isChain (List.pairwise_of_forall_mem_list ?_)
    exact fun c hc d _ => hleft c d (ht c hc)
  rw [List.isChain_append, List.isChain_append]
  constructor
  · exact fun h => h.1.2.1
  · intro hy
    refine ⟨⟨hseps ha, hy, fun c hc d _ => hleft c d (ha c (List.mem_of_mem_getLast? hc))⟩,
      hseps hb, fun c _ d hd => hright c d (hb d (List.mem_of_mem_head? hd))⟩

end Adjacent

end Words
end TransHub
