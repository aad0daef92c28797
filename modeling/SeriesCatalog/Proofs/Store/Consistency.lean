import SeriesCatalog.Proofs.Store.Writes

/-!
# The index of a store

A store keeps documents in an array and the place of each identity in an index.  Both are
written by every write, by different code for a new document, for one that is replaced and
for one that is merged into.

Invariant: an identity has a place exactly if the document at that place has the identity,
every document has an identity, and there are as many places as documents.

Results:
* `Store.consistent_run`: the invariant holds after any writes to the empty store.
* `Store.run_indexed`: what it means for the index, and for a search by an identity.
-/

namespace SeriesCatalog
namespace Store

/-- The index and the documents of a store agree. -/
structure Consistent (s : Store) : Prop where
  /-- There are as many places as documents. -/
  size_places : s.places.size = s.documents.size
  /-- Every document has an identity. -/
  identified : ∀ {i : Nat} {d}, s.documents[i]? = some d → ∃ id, identity d = .ok id
  /-- The place of an identity is that of the document with the identity. -/
  place_iff : ∀ {id} {i : Nat}, s.places[id]? = some i ↔
    ∃ d, s.documents[i]? = some d ∧ identity d = .ok id

theorem consistent_empty : empty.Consistent where
  size_places := by simp [empty]
  identified := by simp [empty]
  place_iff := by simp [empty]

/-- A document may be added under its identity if that has no place. -/
theorem Consistent.append {s : Store} (h : s.Consistent) {id : String} {d : Document}
    (hid : identity d = .ok id) (hnew : s.places[id]? = none) :
    (s.append id d).Consistent where
  size_places := by
    have hmem : id ∉ s.places := by simp [Std.HashMap.mem_iff_isSome_getElem?, hnew]
    simp [Store.append, Std.HashMap.size_insert, hmem, h.size_places]
  identified := by
    intro i d' hd'
    simp only [Store.append, Array.getElem?_push] at hd'
    split at hd'
    · cases hd'
      exact ⟨id, hid⟩
    · exact h.identified hd'
  place_iff := by
    intro id' i
    simp only [Store.append, Std.HashMap.getElem?_insert, Array.getElem?_push, beq_iff_eq]
    constructor
    · intro hplace
      split at hplace
      · rename_i hsame
        cases hplace
        exact ⟨d, by simp, hsame ▸ hid⟩
      · obtain ⟨d', hd', hid'⟩ := h.place_iff.mp hplace
        have hi : i < s.documents.size := (Array.getElem?_eq_some_iff.mp hd').1
        exact ⟨d', by simp [Nat.ne_of_lt hi, hd'], hid'⟩
    · rintro ⟨d', hd', hid'⟩
      split at hd'
      · rename_i hi
        cases hd'
        have hsame : id = id' := Except.ok.inj (hid.symm.trans hid')
        simp [hsame, hi]
      · have hplace := h.place_iff.mpr ⟨d', hd', hid'⟩
        have hne : ¬id = id' := by
          rintro rfl
          simp [hnew] at hplace
        simp [hne, hplace]

/-- A document may be changed at its place if it keeps its identity. -/
theorem Consistent.modify {s : Store} (h : s.Consistent) {place : Nat}
    {f : Document → Document}
    (hf : ∀ d, s.documents[place]? = some d → identity (f d) = identity d) :
    Consistent ⟨s.documents.modify place f, s.places⟩ := by
  have hidentity : ∀ {i : Nat} {id}, (∃ d, (s.documents.modify place f)[i]? = some d ∧
      identity d = .ok id) ↔ ∃ d, s.documents[i]? = some d ∧ identity d = .ok id := by
    intro i id
    rw [Array.getElem?_modify]
    by_cases hi : place = i
    · subst hi
      cases hd : s.documents[place]? with
      | none => simp
      | some d => simp [hf d hd]
    · simp [hi]
  refine ⟨by simpa using h.size_places, ?_, ?_⟩
  · intro i d hd
    rw [Array.getElem?_modify] at hd
    split at hd
    · rename_i hi
      subst hi
      obtain ⟨d', hd', rfl⟩ := Option.map_eq_some_iff.mp hd
      obtain ⟨id, hid⟩ := h.identified hd'
      exact ⟨id, (hf d' hd').trans hid⟩
    · exact h.identified hd
  · intro id i
    rw [hidentity]
    exact h.place_iff

/-- An edit gives its document the identity of the edit. -/
theorem identity_change {e : Edit} (he : e.Sound) {old? : Option Document}
    (hold : ∀ d, old? = some d → identity d = .ok e.id) :
    identity (e.change old?) = .ok e.id := by
  cases e with
  | replace id d => exact he
  | merge id key entries =>
      have hd : identity (old?.getD [(Series.identityKey, .string id)]) = .ok id := by
        cases old? with
        | none => rfl
        | some d => exact hold d rfl
      simpa only [Edit.change, Edit.id, identity, Entries.lookup_put, if_neg he] using hd

theorem Consistent.edit {s : Store} (h : s.Consistent) {e : Edit} (he : e.Sound) :
    (s.edit e).Consistent := by
  unfold Store.edit
  split
  · rename_i place hplace
    obtain ⟨d, hd, hid⟩ := h.place_iff.mp hplace
    refine h.modify fun d' hd' => ?_
    have hsame : d' = d := Option.some.inj (hd'.symm.trans hd)
    subst hsame
    rw [hid]
    exact identity_change he fun d'' hd'' => Option.some.inj hd'' ▸ hid
  · rename_i hnew
    exact h.append (identity_change he (by simp)) hnew

theorem Consistent.foldl_edit :
    ∀ {es : List Edit} {s : Store}, s.Consistent → (∀ e ∈ es, e.Sound) →
      (es.foldl Store.edit s).Consistent
  | [], _, h, _ => h
  | e :: _, _, h, hes =>
      (h.edit (hes e List.mem_cons_self)).foldl_edit
        fun e' he' => hes e' (List.mem_cons_of_mem e he')

/-- **The index and the documents agree after any writes.** -/
theorem consistent_run (ws : List Write) : (run ws).Consistent := by
  rw [run, writeAll_eq_edits]
  refine consistent_empty.foldl_edit fun e he => ?_
  obtain ⟨w, _, hw⟩ := List.mem_flatMap.mp he
  exact Write.sound_of_mem_edits hw

/-- The filter with the one condition that the identity is a text. -/
def identityFilter (x : String) : Filter :=
  Filter.empty.require Series.identityWord x

/-- A document has an identity exactly if the value of its identity key is that text, or an
object identifier with these digits. -/
theorem identity_eq_ok_iff {d : Document} {id : String} :
    identity d = .ok id ↔
      Entries.lookup Series.identityKey d = some (.string id) ∨
        ∃ oid, Entries.lookup Series.identityKey d = some (.objectId oid) ∧ oid.hex = id := by
  unfold identity
  cases Entries.lookup Series.identityKey d with
  | none => simp
  | some v => cases v <;> simp [identityOfValue]

/-- The path of the identity leads to the value of the identity key. -/
theorem getPath_identityKey (d : Document) :
    d.getPath Series.identityKey = Entries.lookup Series.identityKey d := by
  have hkeys : Document.pathKeys Series.identityKey = [Series.identityKey] := by decide
  have hne : Series.identityKey.isEmpty = false := by decide
  simp [Document.getPath, hne, hkeys, Document.greatestDepth, Document.follow]

/-- A search by an identity asks for the documents that have it. -/
theorem matchesDocument_identityFilter {d : Document} {x id : String}
    (hid : identity d = .ok id) :
    (identityFilter x).matchesDocument d = true ↔ id = x := by
  have hconditions : (identityFilter x).conditions = [(Series.identityKey, x)] := by
    simp [identityFilter, Filter.require, Filter.empty, Filter.insertSorted,
      Series.pathOfKey]
  rw [Filter.matchesDocument, hconditions]
  rcases identity_eq_ok_iff.mp hid with hd | ⟨oid, hd, rfl⟩
  · simp [Filter.holds, getPath_identityKey, hd, Value.standsFor]
  · simp [Filter.holds, getPath_identityKey, hd, Value.standsFor]

/-- If the elements that satisfy `p` are those at one place, or there is no such place, then
a filter by `p` keeps what is at that place. -/
theorem filter_eq_toList {α : Type} {p : α → Bool} :
    ∀ (l : List α) (place? : Option Nat),
      (∀ (i : Nat) (a : α), l[i]? = some a → (p a = true ↔ place? = some i)) →
      l.filter p = (place?.bind fun i => l[i]?).toList
  | [], place?, _ => by cases place? <;> simp
  | a :: l, place?, h => by
      have hhead : p a = true ↔ place? = some 0 := h 0 a rfl
      have htail : ∀ (i : Nat) (b : α), l[i]? = some b →
          (p b = true ↔ place? = some (i + 1)) :=
        fun i b hb => h (i + 1) b (by simpa using hb)
      match place? with
      | none =>
          have ih := filter_eq_toList l none fun i b hb => by
            simpa using htail i b hb
          simp [hhead, ih]
      | some 0 =>
          have ih := filter_eq_toList l none fun i b hb => by
            simpa using htail i b hb
          simp [hhead, ih]
      | some (j + 1) =>
          have ih := filter_eq_toList l (some j) fun i b hb => by
            simpa using htail i b hb
          simp [hhead, ih]

/-- A search by an identity finds the document at its place. -/
theorem Consistent.matching_identityFilter {s : Store} (h : s.Consistent) (x : String) :
    s.matching (identityFilter x) =
      (s.places[x]?.bind fun place => s.documents[place]?).toList := by
  have hplace : ∀ (i : Nat) (d : Document), s.documents.toList[i]? = some d →
      ((identityFilter x).matchesDocument d = true ↔ s.places[x]? = some i) := by
    intro i d hd
    rw [Array.getElem?_toList] at hd
    obtain ⟨id, hid⟩ := h.identified hd
    rw [matchesDocument_identityFilter hid, h.place_iff]
    constructor
    · rintro rfl
      exact ⟨d, hd, hid⟩
    · rintro ⟨d', hd', hid'⟩
      have hsame : d = d' := Option.some.inj (hd.symm.trans hd')
      exact Except.ok.inj (hid.symm.trans (hsame ▸ hid'))
  simpa [matching] using filter_eq_toList _ _ hplace

/-- **The index of a store, and the search by an identity.**  After any writes to the empty
store there are as many places as documents; every place leads to a document that has the
identity as a text or as an object identifier; no two identities share a place; and a search
by an identity finds the document at its place, or nothing if it has none. -/
theorem run_indexed (ws : List Write) :
    (run ws).places.size = (run ws).documents.size ∧
      (∀ (id : String) (place : Nat), (run ws).places[id]? = some place →
        ∃ d, (run ws).documents[place]? = some d ∧
          (Entries.lookup Series.identityKey d = some (.string id) ∨
            ∃ oid, Entries.lookup Series.identityKey d = some (.objectId oid) ∧
              oid.hex = id)) ∧
      (∀ (id id' : String) (place : Nat), (run ws).places[id]? = some place →
        (run ws).places[id']? = some place → id = id') ∧
      ∀ x : String,
        (∀ place, (run ws).places[x]? = some place →
          ∃ d, (run ws).documents[place]? = some d ∧
            (run ws).find (identityFilter x) .unlimited = ⟨[d], 1⟩) ∧
        (x ∉ (run ws).places →
          (run ws).find (identityFilter x) .unlimited = ⟨[], 0⟩) := by
  have h := consistent_run ws
  refine ⟨h.size_places, fun id place hplace => ?_, fun id id' place hplace hplace' => ?_,
    fun x => ?_⟩
  · obtain ⟨d, hd, hid⟩ := h.place_iff.mp hplace
    exact ⟨d, hd, identity_eq_ok_iff.mp hid⟩
  · obtain ⟨d, hd, hid⟩ := h.place_iff.mp hplace
    obtain ⟨d', hd', hid'⟩ := h.place_iff.mp hplace'
    have hsame : d = d' := Option.some.inj (hd.symm.trans hd')
    exact Except.ok.inj (hid.symm.trans (hsame ▸ hid'))
  · have hmatching := h.matching_identityFilter x
    refine ⟨fun place hplace => ?_, fun hnone => ?_⟩
    · obtain ⟨d, hd, _⟩ := h.place_iff.mp hplace
      refine ⟨d, hd, ?_⟩
      rw [hplace, Option.bind_some, hd] at hmatching
      simp [find, Limit.cap?, hmatching]
    · have hplace : (run ws).places[x]? = none := Std.HashMap.getElem?_eq_none hnone
      rw [hplace, Option.bind_none] at hmatching
      simp [find, Limit.cap?, hmatching]

/-- A document with an object identifier, which one with the text of this identifier replaces, and
a series that begins with fields. -/
def rewritten : List Write :=
  [.insert (.ofNat 0) [("_id", .objectId (.ofNat 10)), ("n", .int32 1)],
    .upsertFields "b" [("city", .string "Natal")], .insert (.ofNat 1) [("_id", .int32 7)],
    .insert (.ofNat 2) [("_id", .string "00000000000000000000000a"), ("n", .int32 2)]]

theorem documents_rewritten : (run rewritten).documents =
    #[[("_id", .string "00000000000000000000000a"), ("n", .int32 2)],
      [("_id", .string "b"), ("fields", .document [("city", .string "Natal")])]] := by
  have hhex : (ObjectId.ofNat 10).hex = "00000000000000000000000a" := by decide +kernel
  simp [run, writeAll, rewritten, write, insert, named, identified, identity, identityOfValue,
    Entries.contains, Entries.lookup, Entries.put, Entries.merge, Series.identityKey,
    Series.fieldsKey, set, empty, append, upsertFields, mergeInto, mergeAt, newSeries, hhex,
    Std.HashMap.getElem_insert]

/-- The document that replaced the first one has its place, and is the only one that is found by
the identity.  The document that could not be added has none. -/
theorem run_indexed_rewritten :
    (run rewritten).places.size = 2 ∧
      (run rewritten).find (identityFilter "00000000000000000000000a") .unlimited =
        ⟨[[("_id", .string "00000000000000000000000a"), ("n", .int32 2)]], 1⟩ ∧
      (run rewritten).find (identityFilter "7") .unlimited = ⟨[], 0⟩ := by
  obtain ⟨hsize, hplaced, -, hfind⟩ := run_indexed rewritten
  have hplace : (run rewritten).places["00000000000000000000000a"]? = some 0 :=
    (consistent_run rewritten).place_iff.mpr ⟨_, by rw [documents_rewritten]; rfl, rfl⟩
  have hnone : "7" ∉ (run rewritten).places := by
    intro hmem
    obtain ⟨place, hplace⟩ := Option.isSome_iff_exists.mp
      (Std.HashMap.mem_iff_isSome_getElem?.mp hmem)
    obtain ⟨d, hd, hid⟩ := hplaced "7" place hplace
    have hmem := Array.mem_of_getElem? hd
    rw [documents_rewritten] at hmem
    obtain rfl | rfl : d = _ ∨ d = _ := by simpa using hmem
    · simp [Entries.lookup, Series.identityKey] at hid
    · simp [Entries.lookup, Series.identityKey] at hid
  obtain ⟨d, hd, hfound⟩ := (hfind _).1 0 hplace
  rw [documents_rewritten] at hd hsize
  cases hd
  exact ⟨hsize, hfound, (hfind "7").2 hnone⟩

end Store
end SeriesCatalog
