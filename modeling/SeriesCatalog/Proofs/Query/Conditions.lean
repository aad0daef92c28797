import SeriesCatalog.Query.Parse

/-!
# What a filter asks for

A filter keeps one text for each path, in ascending order of the paths.  The keys and values
of a query say the same without paths and without an order: for each key the last text that
was given for it.

* `Value.Denotes`: when a value stands for a text, by the shape of the value.
* `LastGiven`: the last text given for a key.
* `Meets`: a document has, for each key, a value that stands for the last text given.

Results:
* `get?_ofPairs`: the text that the filter of keys and values has at a path.
* `matchesDocument_ofPairs`: that filter matches the documents that meet the keys and values.
-/

namespace SeriesCatalog

/-- A value stands for a text if it is the text, an object identifier with these digits, or a
list with an item that stands for it. -/
inductive Value.Denotes (want : String) : Value → Prop
  | string : Denotes want (.string want)
  | objectId {id : ObjectId} : id.hex = want → Denotes want (.objectId id)
  | array {l : List Value} {v : Value} : v ∈ l → Denotes want v → Denotes want (.array l)

/-- The last text given for a key. -/
def LastGiven (pairs : List (String × String)) (key text : String) : Prop :=
  ∃ before after, pairs = before ++ (key, text) :: after ∧ ∀ e ∈ after, e.1 ≠ key

/-- A document has, for each key, a value that stands for the last text given for the key. -/
def Meets (pairs : List (String × String)) (d : Document) : Prop :=
  ∀ key text, LastGiven pairs key text →
    ∃ v, d.getPath (Series.pathOfKey key) = some v ∧ v.Denotes text

namespace Value

theorem anyStandsFor_iff (want : String) (l : List Value) :
    anyStandsFor want l = true ↔ ∃ v ∈ l, standsFor want v = true := by
  induction l with
  | nil => simp [anyStandsFor]
  | cons v l ih => simp [anyStandsFor, ih]

mutual

theorem denotes_of_standsFor (want : String) :
    ∀ v : Value, standsFor want v = true → v.Denotes want
  | .string s, h => by
      have hs : s = want := by simpa [standsFor] using h
      exact hs ▸ .string
  | .objectId id, h => .objectId (by simpa [standsFor] using h)
  | .array l, h => by
      obtain ⟨v, hv, hd⟩ := denotes_of_anyStandsFor want l (by simpa [standsFor] using h)
      exact .array hv hd
  | .double _, h | .decimal _, h | .document _, h | .bool _, h | .null, h | .int32 _, h
  | .int64 _, h | .dateTime _, h | .binary _ _, h | .code _, h | .scopedCode _ _, h
  | .symbol _, h | .regex _ _, h | .timestamp _ _, h | .pointer _ _, h | .minKey, h
  | .maxKey, h | .undefined, h => by simp [standsFor] at h

theorem denotes_of_anyStandsFor (want : String) :
    ∀ l : List Value, anyStandsFor want l = true → ∃ v ∈ l, v.Denotes want
  | [], h => by simp [anyStandsFor] at h
  | v :: l, h => by
      rcases Bool.or_eq_true_iff.mp h with h | h
      · exact ⟨v, List.mem_cons_self, denotes_of_standsFor want v h⟩
      · obtain ⟨w, hw, hd⟩ := denotes_of_anyStandsFor want l h
        exact ⟨w, List.mem_cons_of_mem v hw, hd⟩

end

theorem standsFor_iff (want : String) (v : Value) :
    standsFor want v = true ↔ v.Denotes want := by
  refine ⟨denotes_of_standsFor want v, fun h => ?_⟩
  induction h with
  | string => simp [standsFor]
  | objectId h => simp [standsFor, h]
  | array hv _ ih =>
      rw [standsFor, anyStandsFor_iff]
      exact ⟨_, hv, ih⟩

end Value

/-- One more key with its text. -/
theorem lastGiven_concat {l : List (String × String)} {e : String × String}
    {key text : String} :
    LastGiven (l ++ [e]) key text ↔
      if e.1 = key then e.2 = text else LastGiven l key text := by
  constructor
  · rintro ⟨before, after, heq, hafter⟩
    rcases List.eq_nil_or_concat after with rfl | ⟨after, e', rfl⟩
    · obtain ⟨-, he⟩ := List.append_inj' heq rfl
      simp [List.singleton_inj.mp he]
    · have hsplit : l ++ [e] = (before ++ (key, text) :: after) ++ [e'] := by simpa using heq
      obtain ⟨hl, he⟩ := List.append_inj' hsplit rfl
      rw [List.singleton_inj.mp he, if_neg (hafter e' (by simp))]
      exact ⟨before, after, hl, fun e'' he'' => hafter e'' (by simp [he''])⟩
  · intro h
    split at h
    · rename_i hkey
      exact ⟨l, [], by simp [← hkey, ← h], by simp⟩
    · rename_i hkey
      obtain ⟨before, after, rfl, hafter⟩ := h
      refine ⟨before, after ++ [e], by simp, fun e' he' => ?_⟩
      rcases List.mem_append.mp he' with he' | he'
      · exact hafter e' he'
      · rw [List.mem_singleton.mp he']
        exact hkey

/-- The path of a field is not the path of the identity. -/
theorem Series.fieldPath_ne_identityKey (name : String) : fieldPath name ≠ identityKey := by
  intro h
  have hlist := congrArg String.toList h
  simp [fieldPath, fieldsKey, identityKey] at hlist

/-- Different keys address different paths. -/
theorem Series.pathOfKey_injective {a b : String} (h : pathOfKey a = pathOfKey b) :
    a = b := by
  by_cases ha : a = identityWord
  · by_cases hb : b = identityWord
    · rw [ha, hb]
    · simp only [pathOfKey, ha, hb, if_true, if_false] at h
      exact absurd h.symm (fieldPath_ne_identityKey b)
  · by_cases hb : b = identityWord
    · simp only [pathOfKey, ha, hb, if_true, if_false] at h
      exact absurd h (fieldPath_ne_identityKey a)
    · simpa [pathOfKey, ha, hb, fieldPath] using h

namespace Filter

theorem lookup_insertSorted (path text k : String) (l : Entries String) :
    Entries.lookup k (insertSorted path text l) =
      if path = k then some text else Entries.lookup k l := by
  induction l with
  | nil => simp [insertSorted, Entries.lookup]
  | cons e l ih =>
      obtain ⟨p, t⟩ := e
      by_cases hlt : path < p
      · simp [insertSorted, hlt, Entries.lookup]
      · by_cases hp : p = path
        · subst hp
          rw [insertSorted, if_neg hlt, if_pos rfl]
          by_cases hk : p = k <;> simp [Entries.lookup, hk]
        · by_cases hk : p = k
          · subst hk
            simp [insertSorted, hlt, hp, Entries.lookup, Ne.symm hp]
          · simp [insertSorted, hlt, hp, Entries.lookup, hk, ih]

@[simp] theorem get?_require (f : Filter) (key text path : String) :
    (f.require key text).get? path =
      if Series.pathOfKey key = path then some text else f.get? path :=
  lookup_insertSorted _ _ _ _

/-- In ascending conditions a path has one text. -/
theorem lookup_eq_some_iff {l : Entries String} (h : Ascending l) {path text : String} :
    Entries.lookup path l = some text ↔ (path, text) ∈ l := by
  induction l with
  | nil => simp [Entries.lookup]
  | cons e l ih =>
      obtain ⟨p, t⟩ := e
      obtain ⟨first, rest⟩ := List.pairwise_cons.mp h
      by_cases hp : p = path
      · subst hp
        have hnot : (p, text) ∉ l := fun hmem => String.lt_irrefl p (first _ hmem)
        simp [Entries.lookup, hnot, eq_comm]
      · simp [Entries.lookup, hp, Ne.symm hp, ih rest]

theorem holds_iff {d : Document} {path text : String} :
    holds d (path, text) = true ↔ ∃ v, d.getPath path = some v ∧ v.Denotes text := by
  cases h : d.getPath path with
  | none => simp [holds, h]
  | some v => simp [holds, h, Value.standsFor_iff]

/-- A filter matches a document that has at each path a value for the text asked for. -/
theorem matchesDocument_iff {f : Filter} {d : Document} :
    f.matchesDocument d = true ↔ ∀ path text, f.get? path = some text →
      ∃ v, d.getPath path = some v ∧ v.Denotes text := by
  simp only [matchesDocument, List.all_eq_true, get?, lookup_eq_some_iff f.ascending,
    ← holds_iff]
  exact ⟨fun h path text hmem => h _ hmem, fun h e he => h e.1 e.2 he⟩

/-- A filter looks at the values at its paths and at nothing else. -/
theorem matchesDocument_congr {f : Filter} {d d' : Document}
    (h : ∀ path text, f.get? path = some text → d.getPath path = d'.getPath path) :
    f.matchesDocument d = f.matchesDocument d' := by
  rw [Bool.eq_iff_iff, matchesDocument_iff, matchesDocument_iff]
  refine forall_congr' fun path => forall_congr' fun text => forall_congr' fun htext => ?_
  rw [h path text htext]

/-- A filter asks, at the path of each key, for the last text given for the key. -/
def AsksFor (f : Filter) (pairs : List (String × String)) : Prop :=
  ∀ path text, f.get? path = some text ↔
    ∃ key, Series.pathOfKey key = path ∧ LastGiven pairs key text

theorem AsksFor.require {f : Filter} {pairs : List (String × String)} (h : f.AsksFor pairs)
    (e : String × String) : (f.require e.1 e.2).AsksFor (pairs ++ [e]) := by
  intro path text
  simp only [get?_require, lastGiven_concat]
  by_cases hpath : Series.pathOfKey e.1 = path
  · rw [if_pos hpath, Option.some.injEq]
    constructor
    · rintro rfl
      exact ⟨e.1, hpath, by simp⟩
    · rintro ⟨key, hkey, htext⟩
      rwa [if_pos (Series.pathOfKey_injective (hpath.trans hkey.symm))] at htext
  · rw [if_neg hpath, h path text]
    constructor
    · rintro ⟨key, hkey, hlast⟩
      have hne : ¬e.1 = key := fun heq => hpath (heq ▸ hkey)
      exact ⟨key, hkey, by rwa [if_neg hne]⟩
    · rintro ⟨key, hkey, hlast⟩
      have hne : ¬e.1 = key := fun heq => hpath (heq ▸ hkey)
      exact ⟨key, hkey, by rwa [if_neg hne] at hlast⟩

theorem AsksFor.foldl_require :
    ∀ (l before : List (String × String)) {f : Filter}, f.AsksFor before →
      (l.foldl (fun f e => f.require e.1 e.2) f).AsksFor (before ++ l)
  | [], before, f, h => by simpa using h
  | e :: l, before, f, h => by
      simpa using AsksFor.foldl_require l (before ++ [e]) (h.require e)

/-- The text at a path is the last one given for the key that addresses the path. -/
theorem get?_ofPairs {pairs : List (String × String)} {path text : String} :
    (ofPairs pairs).get? path = some text ↔
      ∃ key, Series.pathOfKey key = path ∧ LastGiven pairs key text := by
  have hempty : empty.AsksFor [] := by
    intro path text
    simp [empty, get?, Entries.lookup, LastGiven]
  exact hempty.foldl_require pairs [] path text

/-- A filter has a condition as soon as one key is given. -/
theorem isEmpty_ofPairs (pairs : List (String × String)) :
    (ofPairs pairs).isEmpty = true ↔ pairs = [] := by
  rcases List.eq_nil_or_concat pairs with rfl | ⟨before, e, rfl⟩
  · simp [ofPairs, empty, isEmpty]
  · have hget : (ofPairs (before ++ [e])).get? (Series.pathOfKey e.1) = some e.2 :=
      get?_ofPairs.mpr ⟨e.1, rfl, before, [], rfl, by simp⟩
    have hne : (ofPairs (before ++ [e])).conditions ≠ [] := by
      intro hnil
      simp [get?, hnil, Entries.lookup] at hget
    simp [isEmpty, hne]

/-- **A filter matches the documents that meet the keys and values it comes from.** -/
theorem matchesDocument_ofPairs {pairs : List (String × String)} {d : Document} :
    (ofPairs pairs).matchesDocument d = true ↔ Meets pairs d := by
  rw [matchesDocument_iff]
  constructor
  · intro h key text hlast
    exact h _ text (get?_ofPairs.mpr ⟨key, rfl, hlast⟩)
  · intro h path text hget
    obtain ⟨key, rfl, hlast⟩ := get?_ofPairs.mp hget
    exact h key text hlast

end Filter

end SeriesCatalog
