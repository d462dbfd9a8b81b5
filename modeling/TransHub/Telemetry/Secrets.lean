import TransHub.Telemetry.Scrub

/-!
# What a scrubbed event carries

* `HasText`, `HasKey`, `NoSecret`: the texts and keys inside a value, and what is asked of them.
* `Scans`, `OneOfEach`: the texts that are scanned, and what is asked of those.
* `noSecret_scrubAt_iff`: when a scrubbed value has no secret; `scrubEvent_noSecret_iff` is the
  same for events.
-/

namespace TransHub
namespace Telemetry

open Frontend (Json)

/-! ## Secrets -/

/-- A text inside a value. -/
inductive HasText : Json → String → Prop where
  | str (s : String) : HasText (.str s) s
  | arr {items : List Json} {v : Json} {s : String} (mem : v ∈ items) (text : HasText v s) :
      HasText (.arr items) s
  | obj {fields : Fields} {k : String} {v : Json} {s : String} (mem : (k, v) ∈ fields)
      (text : HasText v s) : HasText (.obj fields) s

/-- A key inside a value, with what it maps to. -/
inductive HasKey : Json → String → Json → Prop where
  | here {fields : Fields} {k : String} {v : Json} (mem : (k, v) ∈ fields) :
      HasKey (.obj fields) k v
  | arr {items : List Json} {w v : Json} {k : String} (mem : w ∈ items) (key : HasKey w k v) :
      HasKey (.arr items) k v
  | obj {fields : Fields} {k' k : String} {w v : Json} (mem : (k', w) ∈ fields)
      (key : HasKey w k v) : HasKey (.obj fields) k v

variable {S : Scrubber}

/-- No text has a token, and a sensitive key maps to the marker. -/
structure NoSecret (S : Scrubber) (j : Json) : Prop where
  texts : ∀ s, HasText j s → ∀ r ∈ S.tokenValue, r.test s.toList = false
  keys : ∀ k v, HasKey j k v → S.isSensitive k = true → v = .str redacted

/-- A text that is scanned in a value, when `n` is left of the depth. -/
inductive Scans (S : Scrubber) : ℕ → Json → String → Prop where
  | str (n : ℕ) (s : String) : Scans S (n + 1) (.str s) s
  | arr {n : ℕ} {items : List Json} {v : Json} {s : String} (mem : v ∈ items)
      (scans : Scans S n v s) : Scans S (n + 1) (.arr items) s
  | obj {n : ℕ} {fields : Fields} {k : String} {v : Json} {s : String} (mem : (k, v) ∈ fields)
      (proto : k ≠ "__proto__") (plain : S.isSensitive k = false) (scans : Scans S n v s) :
      Scans S (n + 1) (.obj fields) s

/-- A text has no token outside the first match of the first pattern, the first match of the
second outside that one, and the first of the third outside both. -/
def OneOfEach (S : Scrubber) (s : String) : Prop :=
  ∀ p ∈ Regex.pieces S.tokenValue [s.toList], ∀ r ∈ S.tokenValue, r.test p = false

theorem redactString_noToken_iff (s : String) :
    (∀ r ∈ S.tokenValue, r.test (S.redactString s).toList = false) ↔ OneOfEach S s := by
  have htest : ∀ r ∈ S.tokenValue, r.test (S.redactString s).toList =
      (Regex.pieces S.tokenValue [s.toList]).any r.test := by
    intro r hr
    rw [Scrubber.redactString, String.toList_ofList]
    exact Regex.test_replaceEach S.inert (S.inert r hr) s.toList
  constructor
  · intro h p hp r hr
    have hall := h r hr
    rw [htest r hr, List.any_eq_false] at hall
    exact Bool.not_eq_true _ ▸ hall p hp
  · intro h r hr
    rw [htest r hr, List.any_eq_false]
    intro p hp
    rw [h p hp r hr]
    decide

/-! ## What is left -/

theorem mem_scrubFields {f : Json → Json} {fields : Fields} {k : String} {v : Json}
    (h : (k, v) ∈ S.scrubFields f fields) :
    (S.isSensitive k = true ∧ v = .str redacted) ∨
      ∃ w, (k, w) ∈ fields ∧ k ≠ "__proto__" ∧ S.isSensitive k = false ∧ v = f w := by
  obtain ⟨⟨k', w⟩, hmem, heq⟩ := List.mem_map.mp h
  obtain ⟨hmem, hproto⟩ := List.mem_filter.mp hmem
  cases heq
  cases hk : S.isSensitive k' with
  | true => exact Or.inl ⟨rfl, if_pos rfl⟩
  | false => exact Or.inr ⟨w, hmem, of_decide_eq_true hproto, rfl, if_neg (by decide)⟩

/-- A text of the result is the marker, or a text that was scanned and redacted. -/
theorem scans_of_hasText {n : ℕ} {j : Json} {s : String} (h : HasText (S.scrubAt n j) s) :
    s = redacted ∨ ∃ t, Scans S n j t ∧ s = S.redactString t := by
  induction n generalizing j with
  | zero =>
    cases h
    exact Or.inl rfl
  | succ n ih =>
    cases j with
    | null => cases h
    | bool b => cases h
    | num q => cases h
    | str t =>
      cases h
      exact Or.inr ⟨t, .str n t, rfl⟩
    | arr items =>
      cases h with
      | arr mem text =>
        obtain ⟨w, hw, rfl⟩ := List.mem_map.mp mem
        rcases ih text with hs | ⟨t, ht, hs⟩
        · exact Or.inl hs
        · exact Or.inr ⟨t, .arr hw ht, hs⟩
    | obj fields =>
      cases h with
      | obj mem text =>
        rcases mem_scrubFields mem with ⟨-, rfl⟩ | ⟨w, hw, hproto, hplain, rfl⟩
        · cases text
          exact Or.inl rfl
        · rcases ih text with hs | ⟨t, ht, hs⟩
          · exact Or.inl hs
          · exact Or.inr ⟨t, .obj hw hproto hplain ht, hs⟩

theorem hasText_of_scans {n : ℕ} {j : Json} {s : String} (h : Scans S n j s) :
    HasText (S.scrubAt n j) (S.redactString s) := by
  induction h with
  | str n s => exact .str _
  | arr mem _ ih => exact .arr (List.mem_map_of_mem mem) ih
  | @obj n fields k v s mem proto plain _ ih =>
    refine .obj (k := k) (v := S.scrubAt n v) ?_ ih
    refine List.mem_map.mpr ⟨(k, v), List.mem_filter.mpr ⟨mem, decide_eq_true proto⟩, ?_⟩
    rw [plain]
    rfl

/-- A sensitive key of the result maps to the marker. -/
theorem eq_redacted_of_hasKey {n : ℕ} {j : Json} {k : String} {v : Json}
    (h : HasKey (S.scrubAt n j) k v) (hk : S.isSensitive k = true) : v = .str redacted := by
  induction n generalizing j with
  | zero => cases h
  | succ n ih =>
    cases j with
    | null => cases h
    | bool b => cases h
    | num q => cases h
    | str t => cases h
    | arr items =>
      cases h with
      | arr mem key =>
        obtain ⟨w, -, rfl⟩ := List.mem_map.mp mem
        exact ih key
    | obj fields =>
      cases h with
      | here mem =>
        rcases mem_scrubFields mem with ⟨-, hv⟩ | ⟨w, -, -, hplain, -⟩
        · exact hv
        · rw [hk] at hplain
          cases hplain
      | obj mem key =>
        rcases mem_scrubFields mem with ⟨-, rfl⟩ | ⟨w, -, -, -, rfl⟩
        · cases key
        · exact ih key

/-- **A scrubbed value.**  It has no secret exactly when every text that was scanned has one token
of each kind at most. -/
theorem noSecret_scrubAt_iff (n : ℕ) (j : Json) :
    NoSecret S (S.scrubAt n j) ↔ ∀ s, Scans S n j s → OneOfEach S s := by
  constructor
  · intro h s hs
    exact (redactString_noToken_iff s).mp (h.texts _ (hasText_of_scans hs))
  · intro h
    refine ⟨?_, fun k v hk hsensitive => eq_redacted_of_hasKey hk hsensitive⟩
    intro s hs
    rcases scans_of_hasText hs with rfl | ⟨t, ht, rfl⟩
    · exact S.silent
    · exact (redactString_noToken_iff t).mpr (h t ht)

/-! ## Events -/

/-- What is scanned of an event, with what is left of the depth there. -/
def Event.scanned (headers : Fields → ℕ × Json) (event : Event) : List (ℕ × Json) :=
  event.request.toList.flatMap (fun r =>
      r.headers.toList.map headers ++ r.data.toList.map fun v => (maxDepth + 1, v)) ++
    event.extra.toList.map (fun fs => (maxDepth + 1, .obj fs)) ++
    event.contexts.toList.map (fun fs => (maxDepth + 1, .obj fs)) ++
    (event.breadcrumbs.getD []).flatMap fun b => b.data.toList.map fun v => (maxDepth + 1, v)

/-- The headers that the backend keeps.  Their values start at depth zero. -/
def keptHeaders (headers : Fields) : ℕ × Json :=
  (maxDepth + 2, .obj (headers.filter fun e => !sensitiveHeader.test e.1.toList))

/-- The headers of the web application. -/
def allHeaders (headers : Fields) : ℕ × Json := (maxDepth + 1, .obj headers)

theorem payloads_scrubEvent {f : Fields → Fields} {g : Fields → ℕ × Json}
    (hfg : ∀ hs, Json.obj (f hs) = S.scrubAt (g hs).1 (g hs).2) (event : Event) :
    (S.scrubEvent f event).payloads = (event.scanned g).map fun p => S.scrubAt p.1 p.2 := by
  have hrecord : ∀ o : Option Fields, (o.map S.scrubRecord).toList.map Json.obj =
      (o.toList.map fun fs => (maxDepth + 1, Json.obj fs)).map fun p => S.scrubAt p.1 p.2 := by
    intro o
    cases o <;> rfl
  have hvalue : ∀ o : Option Json, (o.map S.scrubValue).toList =
      (o.toList.map fun v => (maxDepth + 1, v)).map fun p => S.scrubAt p.1 p.2 := by
    intro o
    cases o <;> rfl
  have hheaders : ∀ o : Option Fields, (o.map f).toList.map Json.obj =
      (o.toList.map g).map fun p => S.scrubAt p.1 p.2 := by
    intro o
    cases o with
    | none => rfl
    | some hs => exact congrArg (fun j => [j]) (hfg hs)
  have hrequest : ∀ o : Option EventRequest,
      (S.scrubEvent f { event with request := o }).request.toList.flatMap
        (fun r => r.headers.toList.map Json.obj ++ r.data.toList) =
      (o.toList.flatMap fun r =>
        r.headers.toList.map g ++ r.data.toList.map fun v => (maxDepth + 1, v)).map
          fun p => S.scrubAt p.1 p.2 := by
    intro o
    cases o with
    | none => rfl
    | some r =>
      simp only [Scrubber.scrubEvent, Option.map_some, Option.toList_some,
        List.flatMap_singleton, List.map_append, hheaders, hvalue]
  have hbreadcrumbs : ∀ bs : List Breadcrumb,
      ((bs.map fun b => ({ data := b.data.map S.scrubValue
                           message := b.message.map S.redactText } : Breadcrumb)).flatMap
        fun b => b.data.toList) =
      (bs.flatMap fun b => b.data.toList.map fun v => (maxDepth + 1, v)).map
        fun p => S.scrubAt p.1 p.2 := by
    intro bs
    rw [List.flatMap_map, List.map_flatMap]
    exact List.flatMap_congr fun b _ => hvalue b.data
  rw [Event.payloads, Event.scanned, List.map_append, List.map_append, List.map_append]
  congr 1
  · congr 1
    · congr 1
      · exact hrequest event.request
      · exact hrecord event.extra
    · exact hrecord event.contexts
  · obtain ⟨request, extra, contexts, breadcrumbs⟩ := event
    cases breadcrumbs with
    | none => rfl
    | some bs => exact hbreadcrumbs bs

theorem obj_scrubHeaders (hs : Fields) :
    Json.obj (scrubHeaders hs) = backend.scrubAt (keptHeaders hs).1 (keptHeaders hs).2 := rfl

theorem obj_scrubRecord (hs : Fields) :
    Json.obj (S.scrubRecord hs) = S.scrubAt (allHeaders hs).1 (allHeaders hs).2 := rfl

/-- What is asked of an event: each text that is scanned has one token of each kind at most. -/
def Event.Scrubbable (S : Scrubber) (headers : Fields → ℕ × Json) (event : Event) : Prop :=
  ∀ p ∈ event.scanned headers, ∀ s, Scans S p.1 p.2 s → OneOfEach S s

theorem Scrubber.scrubEvent_iff {f : Fields → Fields} {g : Fields → ℕ × Json}
    (hfg : ∀ hs, Json.obj (f hs) = S.scrubAt (g hs).1 (g hs).2) (event : Event) :
    (∀ j ∈ (S.scrubEvent f event).payloads, NoSecret S j) ↔ event.Scrubbable S g := by
  rw [payloads_scrubEvent hfg, List.forall_mem_map, Event.Scrubbable]
  exact forall_congr' fun p => imp_congr_right fun _ => noSecret_scrubAt_iff p.1 p.2

/-- A scrubbed event of the backend, and of the web application, carries no secret exactly when
each text that is scanned has one token of each kind at most; so does a scrubbed value. -/
theorem scrubEvent_noSecret_iff (event : Event) (value : Json) :
    ((∀ j ∈ (scrubEvent event).payloads, NoSecret backend j) ↔
      event.Scrubbable backend keptHeaders) ∧
    ((∀ j ∈ (scrubBrowserEvent event).payloads, NoSecret frontend j) ↔
      event.Scrubbable frontend allHeaders) ∧
    (NoSecret frontend (frontend.scrubValue value) ↔
      ∀ s, Scans frontend (maxDepth + 1) value s → OneOfEach frontend s) :=
  ⟨Scrubber.scrubEvent_iff obj_scrubHeaders event, Scrubber.scrubEvent_iff obj_scrubRecord event,
    noSecret_scrubAt_iff (maxDepth + 1) value⟩

/-! ## Two keys in one text -/

/-- A note with two secret keys. -/
def twoKeys : Event where
  request := none
  extra := some [("note", .str "sk_live_aaaa or sk_live_bbbb")]
  contexts := none
  breadcrumbs := none

/-- The second key of a text is sent. -/
theorem scrubEvent_twoKeys : ∃ j ∈ (scrubEvent twoKeys).payloads, ∃ s, HasText j s ∧
    ∃ r ∈ backend.tokenValue, r.test s.toList = true := by
  have htext : backend.redactString "sk_live_aaaa or sk_live_bbbb" = "[Filtered] or sk_live_bbbb" := by
    decide +kernel
  have hscans : Scans backend maxDepth (.str "sk_live_aaaa or sk_live_bbbb")
      "sk_live_aaaa or sk_live_bbbb" := .str 7 _
  refine ⟨.obj (backend.scrubRecord [("note", .str "sk_live_aaaa or sk_live_bbbb")]),
    List.mem_singleton.mpr rfl, "[Filtered] or sk_live_bbbb", ?_, secretKey, ?_, ?_⟩
  · rw [← htext, obj_scrubRecord]
    exact hasText_of_scans (.obj List.mem_cons_self (by decide) (by decide) hscans)
  · exact List.mem_cons_of_mem _ (List.mem_cons_of_mem _ List.mem_cons_self)
  · decide +kernel

end Telemetry
end TransHub
