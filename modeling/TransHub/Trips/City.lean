import TransHub.Trips.Search
import TransHub.Foundation.Words
import Mathlib

/-!
# City names

`normalizeCity` of `trips.schema`, which the write path and the search apply, and the
expression with which a migration rewrote the names stored before.

* `LowerCase`: `toLowerCase`, which on ASCII is `Char.toLower`.
* `normalizeCity_eq_iff`: equal normal forms are equal words up to case.
* `backfillCity_eq_iff`: the names that the migration leaves as the write path would.
-/

namespace TransHub
namespace Trips

open Words

/-! ## JavaScript texts -/

/-- What `trim` drops and `\\s` matches. -/
def isWhiteSpace (c : Char) : Bool :=
  (9 ≤ c.toNat && c.toNat ≤ 13) || [0x20, 0xa0, 0x1680, 0x2028, 0x2029, 0x202f, 0x205f, 0x3000,
    0xfeff].contains c.toNat || (0x2000 ≤ c.toNat && c.toNat ≤ 0x200a)

/-- What `\\w` matches. -/
def isWordChar (c : Char) : Bool := c.isAlphanum || c == '_'

/-- `String.prototype.toLowerCase`.  A letter may become several, and a sigma reads the letters
next to it; the ASCII letters are each their own. -/
structure LowerCase where
  apply : List Char → List Char
  ascii : ∀ s, (∀ c ∈ s, c.toNat < 128) → apply s = s.map Char.toLower
  ignoresCase : ∀ s, apply (s.map Char.toLower) = apply s
  apply_apply : ∀ s, apply (apply s) = apply s
  space : ∀ s t, apply (s ++ ' ' :: t) = apply s ++ ' ' :: apply t
  isWord : ∀ w, IsWord isWhiteSpace w → IsWord isWhiteSpace (apply w)

/-- `.replace(/\\b\\w/g, (c) => c.toUpperCase())`; `afterWord` behind a word character. -/
def capitalize : Bool → List Char → List Char
  | _, [] => []
  | afterWord, c :: s =>
    (if isWordChar c && !afterWord then c.toUpper else c) :: capitalize (isWordChar c) s

def normalizeCity (lower : LowerCase) (value : List Char) : List Char :=
  capitalize false (lower.apply (collapse isWhiteSpace ' ' false (trim isWhiteSpace value)))

/-- The words of a name, in lower case. -/
def cityWords (lower : LowerCase) (value : List Char) : List (List Char) :=
  (words isWhiteSpace value).map lower.apply

/-! ## Letters -/

/-- What holds of each ASCII character. -/
theorem ascii_induction {P : Char → Prop} (h : ∀ n : Fin 128, P (Char.ofNat n)) {c : Char}
    (hc : c.toNat < 128) : P c := Char.ofNat_toNat c ▸ h ⟨c.toNat, hc⟩

theorem toLower_of_not_alpha {c : Char} (h : c.isAlpha = false) : c.toLower = c := by
  rw [Char.isAlpha, Bool.or_eq_false_iff] at h
  exact Char.toLower_eq_of_not_isUpper (Bool.eq_false_iff.mp h.1)

theorem isAscii_of_alpha {c : Char} (h : c.isAlpha = true) : c.toNat < 128 := by
  simp only [Char.isAlpha, Char.isUpper, Char.isLower, Bool.or_eq_true, Bool.and_eq_true,
    decide_eq_true_eq, ge_iff_le, UInt32.le_iff_toNat_le] at h
  have hval : c.toNat = c.val.toNat := rfl
  have hz : 'z'.val.toNat = 122 := rfl
  have hZ : 'Z'.val.toNat = 90 := rfl
  omega

/-- What holds of the ASCII letters and of what has no case. -/
theorem forall_char {P : Char → Prop} (hletter : ∀ n : Fin 128, P (Char.ofNat n))
    (hother : ∀ c : Char, c.isAlpha = false → P c) (c : Char) : P c := by
  by_cases h : c.isAlpha = true
  · exact ascii_induction hletter (isAscii_of_alpha h)
  · exact hother c (Bool.eq_false_iff.mpr h)

theorem isWhiteSpace_toLower : ∀ c : Char, isWhiteSpace c.toLower = isWhiteSpace c :=
  forall_char (by decide) fun c h => by rw [toLower_of_not_alpha h]

/-- Lower case as far as ASCII goes. -/
def LowerCase.onAscii : LowerCase where
  apply := List.map Char.toLower
  ascii := fun _ _ => rfl
  ignoresCase := by
    intro s
    rw [List.map_map]
    exact List.map_congr_left fun c _ => c.toLower_toLower_eq_toLower
  apply_apply := by
    intro s
    rw [List.map_map]
    exact List.map_congr_left fun c _ => c.toLower_toLower_eq_toLower
  space := fun s t => List.map_append
  isWord := by
    rintro w ⟨hne, hletters⟩
    refine ⟨by simpa using hne, fun c hc => ?_⟩
    obtain ⟨d, hd, rfl⟩ := List.mem_map.mp hc
    rw [isWhiteSpace_toLower, hletters d hd]

/-! ## The canonical form -/

section
variable (lower : LowerCase)

/-- Capitals are letters in another case. -/
theorem map_toLower_capitalize (afterWord : Bool) (s : List Char) :
    (capitalize afterWord s).map Char.toLower = s.map Char.toLower := by
  induction s generalizing afterWord with
  | nil => rfl
  | cons c s ih =>
    rw [capitalize, List.map_cons, List.map_cons, ih]
    split
    · rw [Char.toLower_toUpper_eq_toLower]
    · rfl

/-- Lower case goes word by word. -/
theorem apply_join (ws : List (List Char)) :
    lower.apply (join ' ' ws) = join ' ' (ws.map lower.apply) := by
  induction ws with
  | nil => exact lower.ascii [] fun c hc => absurd hc List.not_mem_nil
  | cons w ws ih =>
    cases ws with
    | nil => simp
    | cons v ws =>
      have hspace : ∀ (u v : List Char) (us : List (List Char)),
          join ' ' (u :: v :: us) = u ++ ' ' :: join ' ' (v :: us) := fun _ _ _ => rfl
      rw [hspace, lower.space, ih]
      rfl

theorem isWord_of_mem_cityWords {x w : List Char} (h : w ∈ cityWords lower x) :
    IsWord isWhiteSpace w := by
  obtain ⟨v, hv, rfl⟩ := List.mem_map.mp h
  exact lower.isWord v (isWord_of_mem_words hv)

theorem normalizeCity_eq (x : List Char) :
    normalizeCity lower x = capitalize false (join ' ' (cityWords lower x)) := by
  rw [normalizeCity, collapse_trim, apply_join, cityWords]

/-- Lower case undoes the capitals. -/
theorem apply_normalizeCity (x : List Char) :
    lower.apply (normalizeCity lower x) = join ' ' (cityWords lower x) := by
  have hlowered : lower.apply (join ' ' (cityWords lower x)) = join ' ' (cityWords lower x) := by
    rw [cityWords, ← apply_join, lower.apply_apply]
  rw [normalizeCity_eq, ← lower.ignoresCase, map_toLower_capitalize, lower.ignoresCase, hlowered]

/-- Two names have one normal form when they have the same words up to case. -/
theorem normalizeCity_eq_iff (x y : List Char) :
    normalizeCity lower x = normalizeCity lower y ↔ cityWords lower x = cityWords lower y := by
  constructor
  · intro h
    have hjoin : join ' ' (cityWords lower x) = join ' ' (cityWords lower y) := by
      rw [← apply_normalizeCity, h, apply_normalizeCity]
    exact (join_inj (p := isWhiteSpace) rfl (fun _ => isWord_of_mem_cityWords lower)
      fun _ => isWord_of_mem_cityWords lower).mp hjoin
  · intro h
    rw [normalizeCity_eq, normalizeCity_eq, h]

/-- Lower case of the words does not see the case of the text. -/
theorem map_apply_words_congr {s t : List Char} (h : s.map Char.toLower = t.map Char.toLower) :
    (words isWhiteSpace s).map lower.apply = (words isWhiteSpace t).map lower.apply := by
  have hlower : ∀ u : List Char, (words isWhiteSpace u).map lower.apply =
      (words isWhiteSpace (u.map Char.toLower)).map lower.apply := by
    intro u
    rw [words_map isWhiteSpace_toLower, List.map_map]
    exact List.map_congr_left fun w _ => (lower.ignoresCase w).symm
  rw [hlower s, hlower t, h]

/-- The normal form has the words of the name. -/
theorem cityWords_normalizeCity (x : List Char) :
    cityWords lower (normalizeCity lower x) = cityWords lower x := by
  have hcapitals := map_apply_words_congr lower
    (map_toLower_capitalize false (join ' ' (cityWords lower x)))
  rw [cityWords, normalizeCity_eq, hcapitals,
    words_join rfl fun _ => isWord_of_mem_cityWords lower, cityWords, List.map_map]
  exact List.map_congr_left fun w _ => lower.apply_apply w

end

/-! ## Search by normal forms -/

/-- The trip between two cities, as `createTripSchema` leaves what was typed. -/
def storedBetween (lower : LowerCase) (fromCity toCity : List Char) (t : Trip) : Trip :=
  { t with
    fromCity := String.ofList (normalizeCity lower fromCity)
    toCity := String.ofList (normalizeCity lower toCity) }

/-- The query between two cities, as `searchTripsQuerySchema` leaves what was typed. -/
def askedBetween (lower : LowerCase) (fromCity toCity : List Char) (q : SearchTripsQuery) :
    SearchTripsQuery :=
  { q with
    fromCity := String.ofList (normalizeCity lower fromCity)
    toCity := String.ofList (normalizeCity lower toCity) }

/-- Equality of stored texts is equality of the words up to case. -/
theorem ofList_normalizeCity_inj (lower : LowerCase) (x y : List Char) :
    String.ofList (normalizeCity lower x) = String.ofList (normalizeCity lower y) ↔
      cityWords lower x = cityWords lower y := by
  rw [String.ofList_inj, normalizeCity_eq_iff]

/-- `normalizeCity` is a canonical form: names agree after it when they have the same words up to
case and spacing, it changes no name twice, and a search between normal forms selects the trips
whose cities are the query's up to case and spacing and that pass its other conditions. -/
theorem normalizeCity_canonical (lower : LowerCase) :
    (∀ x y, normalizeCity lower x = normalizeCity lower y ↔
      cityWords lower x = cityWords lower y) ∧
    (∀ x, normalizeCity lower (normalizeCity lower x) = normalizeCity lower x) ∧
    ∀ (q : SearchTripsQuery) (t : Trip) (x y x' y' : List Char),
      allOf (searchWhere (askedBetween lower x y q)) (storedBetween lower x' y' t) = true ↔
        (cityWords lower x' = cityWords lower x ∧ cityWords lower y' = cityWords lower y) ∧
        allOf (searchWhere (askedBetween lower x' y' q)) (storedBetween lower x' y' t) = true := by
  refine ⟨normalizeCity_eq_iff lower,
    fun x => (normalizeCity_eq_iff lower _ _).mpr (cityWords_normalizeCity lower x), ?_⟩
  intro q t x y x' y'
  have hroute : ∀ (q : SearchTripsQuery) (t : Trip), allOf (searchWhere q) t = true ↔
      (t.fromCity = q.fromCity ∧ t.toCity = q.toCity) ∧
        allOf ((searchWhere q).drop 2) t = true := by
    intro q t
    simp only [searchWhere, allOf, List.cons_append, List.all_cons, List.drop_succ_cons,
      List.drop_zero, Bool.and_eq_true, beq_iff_eq, and_assoc]
  rw [hroute, hroute (askedBetween lower x' y' q)]
  have hfrom := ofList_normalizeCity_inj lower x' x
  have hto := ofList_normalizeCity_inj lower y' y
  simp only [askedBetween, storedBetween, hfrom, hto, and_self, true_and]
  rfl

/-! ## The migration -/

/-- What `\s` matches in the database. -/
def isSpaceClass (c : Char) : Bool := c == ' ' || (9 ≤ c.toNat && c.toNat ≤ 13)

/-- `btrim`: spaces and nothing else. -/
def btrim (x : List Char) : List Char := trim (fun c => c == ' ') x

/-- `initcap`; `afterAlnum` behind a letter or digit. -/
def initcap : Bool → List Char → List Char
  | _, [] => []
  | afterAlnum, c :: s =>
    (if c.isAlphanum then (if afterAlnum then c.toLower else c.toUpper) else c) ::
      initcap c.isAlphanum s

/-- `initcap(regexp_replace(btrim(x), '\s+', ' ', 'g'))`. -/
def backfillCity (x : List Char) : List Char :=
  initcap false (collapse isSpaceClass ' ' false (btrim x))

/-- Anything but a letter behind an underscore. -/
def NoInnerUnderscore (c d : Char) : Prop := ¬ (c = '_' ∧ d.isAlpha = true)

instance (c d : Char) : Decidable (NoInnerUnderscore c d) := inferInstanceAs (Decidable (¬ _))

/-- The names on which the two languages agree: within the outer spaces no other white space
comes first or last, and no letter follows an underscore. -/
def SameInBoth (x : List Char) : Prop :=
  BeginsWithLetter isWhiteSpace (btrim x) ∧ EndsInLetter isWhiteSpace (btrim x) ∧
    x.IsChain NoInnerUnderscore

theorem isWhiteSpace_eq_isSpaceClass {c : Char} (h : c.toNat < 128) :
    isSpaceClass c = isWhiteSpace c :=
  ascii_induction (P := fun c => isSpaceClass c = isWhiteSpace c) (by decide) h

/-- What the two rules write for a character that follows another. -/
theorem initcap_head_eq_iff {a c : Char} (hc : c.toNat < 128) :
    (if c.isAlphanum then (if a.isAlphanum then c.toLower else c.toUpper) else c) =
        (if isWordChar c.toLower && !isWordChar a then c.toLower.toUpper else c.toLower) ↔
      NoInnerUnderscore a c := by
  have hkinds : (c.isAlphanum = false ∧ c.isAlpha = false ∧ c.toLower = c ∧ c.toUpper = c) ∨
      (c.isAlphanum = true ∧ c.isAlpha = false ∧ isWordChar c.toLower = true ∧ c.toLower = c ∧
        c.toUpper = c) ∨
      (c.isAlphanum = true ∧ c.isAlpha = true ∧ isWordChar c.toLower = true ∧
        c.toLower.toUpper = c.toUpper ∧ c.toUpper ≠ c.toLower) :=
    ascii_induction (P := fun c => (c.isAlphanum = false ∧ c.isAlpha = false ∧ c.toLower = c ∧
      c.toUpper = c) ∨ (c.isAlphanum = true ∧ c.isAlpha = false ∧ isWordChar c.toLower = true ∧
      c.toLower = c ∧ c.toUpper = c) ∨ (c.isAlphanum = true ∧ c.isAlpha = true ∧
      isWordChar c.toLower = true ∧ c.toLower.toUpper = c.toUpper ∧ c.toUpper ≠ c.toLower))
      (by decide) hc
  rcases hkinds with ⟨halnum, halpha, hlow, hup⟩ | ⟨halnum, halpha, hword, hlow, hup⟩ |
    ⟨halnum, halpha, hword, hup, hne⟩
  · simp [halnum, halpha, hlow, hup, NoInnerUnderscore]
  · simp [halnum, halpha, hlow, hup, NoInnerUnderscore]
  · by_cases ha : a.isAlphanum = true
    · have hne_ : a ≠ '_' := by
        rintro rfl
        cases ha
      simp [halnum, halpha, ha, hne_, isWordChar, NoInnerUnderscore]
    · by_cases ha_ : a = '_'
      · subst ha_
        simp [halnum, halpha, isWordChar, NoInnerUnderscore, hne]
      · have hword_ : isWordChar a = false := by simp [isWordChar, ha, ha_]
        simp [halnum, ha, hword, hword_, ha_, hup, NoInnerUnderscore]

theorem isWordChar_toLower : ∀ c : Char, isWordChar c.toLower = isWordChar c :=
  forall_char (by decide) fun c h => by rw [toLower_of_not_alpha h]

/-- The two rules write the same behind a character when no letter follows an underscore. -/
theorem initcap_eq_capitalize_iff {s : List Char} (hs : ∀ c ∈ s, c.toNat < 128) (a : Char) :
    initcap a.isAlphanum s = capitalize (isWordChar a) (s.map Char.toLower) ↔
      (a :: s).IsChain NoInnerUnderscore := by
  induction s generalizing a with
  | nil => simp [initcap, capitalize]
  | cons c s ih =>
    have htail := ih (fun d hd => hs d (List.mem_cons_of_mem _ hd)) c
    rw [initcap, List.map_cons, capitalize, isWordChar_toLower, List.cons_eq_cons, htail,
      List.isChain_cons_cons, ← initcap_head_eq_iff (hs c List.mem_cons_self), isWordChar_toLower]

theorem map_toLower_initcap (afterAlnum : Bool) (s : List Char) :
    (initcap afterAlnum s).map Char.toLower = s.map Char.toLower := by
  induction s generalizing afterAlnum with
  | nil => rfl
  | cons c s ih =>
    rw [initcap, List.map_cons, List.map_cons, ih]
    split
    · split
      · rw [Char.toLower_toLower_eq_toLower]
      · rw [Char.toLower_toUpper_eq_toLower]
    · rfl

/-- White space stands next to nothing that the rules tell apart. -/
theorem noInnerUnderscore_of_whiteSpace {c d : Char}
    (h : isWhiteSpace c = true ∨ isWhiteSpace d = true) : NoInnerUnderscore c d := by
  rintro ⟨rfl, hd⟩
  rcases h with h | h
  · cases h
  · have hno : d.isAlpha = true → isWhiteSpace d = false :=
      ascii_induction (P := fun d => d.isAlpha = true → isWhiteSpace d = false) (by decide)
        (isAscii_of_alpha hd)
    exact Bool.false_ne_true ((hno hd).symm.trans h)

theorem mem_of_mem_trim {p : Char → Bool} {x : List Char} {c : Char} (h : c ∈ trim p x) :
    c ∈ x := by
  obtain ⟨a, b, hx, -, -⟩ := exists_eq_append_trim (p := p) x
  rw [hx]
  exact List.mem_append_left _ (List.mem_append_right _ h)

/-- A name of ASCII characters stays one. -/
theorem isAscii_collapse_trim {p q : Char → Bool} {x : List Char} (hx : ∀ c ∈ x, c.toNat < 128) :
    ∀ c ∈ collapse p ' ' false (trim q x), c.toNat < 128 := by
  intro c hc
  rcases mem_of_mem_collapse hc with rfl | hmem
  · decide
  · exact hx c (mem_of_mem_trim hmem)

theorem backfillCity_of_isAscii {x : List Char} (hx : ∀ c ∈ x, c.toNat < 128) :
    backfillCity x = initcap false (collapse isWhiteSpace ' ' false (btrim x)) := by
  have hspaces : ∀ c ∈ btrim x, isSpaceClass c = isWhiteSpace c :=
    fun c hc => isWhiteSpace_eq_isSpaceClass (hx c (mem_of_mem_trim hc))
  rw [backfillCity, collapse_congr hspaces]

theorem normalizeCity_of_isAscii (lower : LowerCase) {x : List Char} (hx : ∀ c ∈ x, c.toNat < 128) :
    normalizeCity lower x = capitalize false
      ((collapse isWhiteSpace ' ' false (trim isWhiteSpace x)).map Char.toLower) := by
  rw [normalizeCity, lower.ascii _ (isAscii_collapse_trim hx)]

/-- Names that both languages leave alike have letters at both ends within their spaces. -/
theorem lettersAtBothEnds_of_eq (lower : LowerCase) {x : List Char} (hx : ∀ c ∈ x, c.toNat < 128)
    (h : backfillCity x = normalizeCity lower x) :
    BeginsWithLetter isWhiteSpace (btrim x) ∧ EndsInLetter isWhiteSpace (btrim x) := by
  have hlower : (collapse isWhiteSpace ' ' false (btrim x)).map Char.toLower =
      (collapse isWhiteSpace ' ' false (trim isWhiteSpace x)).map Char.toLower := by
    calc (collapse isWhiteSpace ' ' false (btrim x)).map Char.toLower
        = (backfillCity x).map Char.toLower := by
          rw [backfillCity_of_isAscii hx, map_toLower_initcap]
      _ = (normalizeCity lower x).map Char.toLower := by rw [h]
      _ = _ := by
          rw [normalizeCity_of_isAscii lower hx, map_toLower_capitalize, List.map_map]
          exact List.map_congr_left fun c _ => c.toLower_toLower_eq_toLower
  constructor
  · refine beginsWithLetter_of_collapse (rfl : isWhiteSpace ' ' = true) ?_
    rw [← beginsWithLetter_map isWhiteSpace_toLower, hlower,
      beginsWithLetter_map isWhiteSpace_toLower]
    exact (beginsWithLetter_trim x).collapse false
  · refine endsInLetter_of_collapse (rfl : isWhiteSpace ' ' = true) ?_
    rw [← endsInLetter_map isWhiteSpace_toLower, hlower, endsInLetter_map isWhiteSpace_toLower]
    exact (endsInLetter_trim x).collapse false

/-- `btrim` drops white space. -/
theorem exists_eq_append_btrim (x : List Char) : ∃ a b, x = a ++ btrim x ++ b ∧
    (∀ c ∈ a, isWhiteSpace c = true) ∧ ∀ c ∈ b, isWhiteSpace c = true := by
  obtain ⟨a, b, hx, ha, hb⟩ := exists_eq_append_trim (p := fun c => c == ' ') x
  have hspace : ∀ {t : List Char}, (∀ c ∈ t, (c == ' ') = true) →
      ∀ c ∈ t, isWhiteSpace c = true := by
    intro t ht c hc
    rw [beq_iff_eq.mp (ht c hc)]
    rfl
  exact ⟨a, b, hx, hspace ha, hspace hb⟩

/-- With letters at both ends within them, spaces are all the white space to trim. -/
theorem trim_eq_btrim {x : List Char} (hbegin : BeginsWithLetter isWhiteSpace (btrim x))
    (hend : EndsInLetter isWhiteSpace (btrim x)) : trim isWhiteSpace x = btrim x := by
  obtain ⟨a, b, hx, ha, hb⟩ := exists_eq_append_btrim x
  calc trim isWhiteSpace x = trim isWhiteSpace (a ++ btrim x ++ b) := congrArg _ hx
    _ = btrim x := trim_append ha hb hbegin hend

/-- Trimming and collapsing leave the letters that follow underscores. -/
theorem isChain_collapse_btrim (x : List Char) :
    (collapse isWhiteSpace ' ' false (btrim x)).IsChain NoInnerUnderscore ↔
      x.IsChain NoInnerUnderscore := by
  obtain ⟨a, b, hx, ha, hb⟩ := exists_eq_append_btrim x
  have hleft : ∀ c d, isWhiteSpace c = true → NoInnerUnderscore c d :=
    fun c d hc => noInnerUnderscore_of_whiteSpace (Or.inl hc)
  have hright : ∀ c d, isWhiteSpace d = true → NoInnerUnderscore c d :=
    fun c d hd => noInnerUnderscore_of_whiteSpace (Or.inr hd)
  calc (collapse isWhiteSpace ' ' false (btrim x)).IsChain NoInnerUnderscore
      ↔ (btrim x).IsChain NoInnerUnderscore := isChain_collapse hleft hright rfl _ _
    _ ↔ (a ++ btrim x ++ b).IsChain NoInnerUnderscore :=
      (isChain_append hleft hright ha hb).symm
    _ ↔ x.IsChain NoInnerUnderscore := by rw [← hx]

/-- With letters at both ends, the rules for capitals decide. -/
theorem backfillCity_eq_iff_isChain (lower : LowerCase) {x : List Char}
    (hx : ∀ c ∈ x, c.toNat < 128) (hbegin : BeginsWithLetter isWhiteSpace (btrim x))
    (hend : EndsInLetter isWhiteSpace (btrim x)) :
    backfillCity x = normalizeCity lower x ↔ x.IsChain NoInnerUnderscore := by
  have hascii : ∀ c ∈ collapse isWhiteSpace ' ' false (btrim x), c.toNat < 128 :=
    isAscii_collapse_trim hx
  rw [backfillCity_of_isAscii hx, normalizeCity_of_isAscii lower hx, trim_eq_btrim hbegin hend]
  refine (initcap_eq_capitalize_iff hascii ' ').trans ?_
  rw [List.isChain_cons, isChain_collapse_btrim]
  exact and_iff_right fun d _ => noInnerUnderscore_of_whiteSpace (Or.inl rfl)

/-- The migration leaves an ASCII name as the write path would exactly when it is one of those on
which the two languages agree. -/
theorem backfillCity_eq_iff (lower : LowerCase) (x : List Char) (hx : ∀ c ∈ x, c.toNat < 128) :
    backfillCity x = normalizeCity lower x ↔ SameInBoth x := by
  constructor
  · intro h
    obtain ⟨hbegin, hend⟩ := lettersAtBothEnds_of_eq lower hx h
    exact ⟨hbegin, hend, (backfillCity_eq_iff_isChain lower hx hbegin hend).mp h⟩
  · rintro ⟨hbegin, hend, hchain⟩
    exact (backfillCity_eq_iff_isChain lower hx hbegin hend).mpr hchain

theorem backfillCity_portHarcourt :
    backfillCity "  port   HARCOURT ".toList = normalizeCity .onAscii "  port   HARCOURT ".toList ↔
      SameInBoth "  port   HARCOURT ".toList :=
  backfillCity_eq_iff .onAscii "  port   HARCOURT ".toList (by simp)

/-- A tab in front stays as a space. -/
theorem backfillCity_tab_lagos :
    backfillCity "\tLagos".toList ≠ normalizeCity .onAscii "\tLagos".toList ∧
      backfillCity "\tLagos".toList = " Lagos".toList ∧
      normalizeCity .onAscii "\tLagos".toList = "Lagos".toList := by
  decide +kernel

example : backfillCity "port_harcourt".toList = "Port_Harcourt".toList ∧
    normalizeCity .onAscii "port_harcourt".toList = "Port_harcourt".toList := by decide +kernel

end Trips
end TransHub
