import SeriesCatalog.Proofs.Document.KeyOrder
import SeriesCatalog.Proofs.Store.Rearrangement
import SeriesCatalog.Proofs.Text.Octets

/-!
# Which names of fields a store lists

The names of the fields are the keys of the documents at the key of the fields, be it that such a
document is the value there or an item of a list.  They come in the order of their octets.  Neither
the order of the documents nor that of their keys plays a part, although the list of different
values, of which the names are taken, goes by both.

* `Document.HasFieldName`: the names of the fields of a document.
* `Store.SameDocuments`: stores with the same documents but for the order of keys.
* `Store.inserts`, `Store.inserted`: insertions, and the documents that they add.
* `Store.Reordered`: insertions in another order, with keys in another order.

Results:
* `Store.mem_fieldNames_iff`: the names that are listed.
* `Store.contents_inserts`: the documents after insertions.
* `Store.fieldNames_exact`: the names are in ascending order, they are those of the documents that
  match, and no order has an effect.
-/

namespace SeriesCatalog

theorem Entries.lookup_rel {α : Type} {R : α → α → Prop} {a b : Entries α}
    (h : List.Forall₂ (fun e e' => e.1 = e'.1 ∧ R e.2 e'.2) a b) (key : String) :
    Option.Rel R (lookup key a) (lookup key b) := by
  induction h with
  | nil => exact .none
  | @cons e e' _ _ he _ ih =>
      simp only [lookup, ← he.1]
      split
      · exact .some he.2
      · exact ih

theorem Entries.keys_eq_of_forall₂ {α β : Type} {a : Entries α} {b : Entries β}
    (h : List.Forall₂ (fun e e' => e.1 = e'.1) a b) : keys a = keys b := by
  induction h with
  | nil => rfl
  | cons he _ ih => exact congrArg₂ List.cons he ih

namespace Document

/-- A key of the document at the key of the fields, or of a document in the list there. -/
inductive HasFieldName (d : Document) (key : String) : Prop
  | document {m : Document} (hfields : Entries.lookup Series.fieldsKey d = some (.document m))
      (hkey : key ∈ Entries.keys m)
  | item {items : List Value} {m : Document}
      (hfields : Entries.lookup Series.fieldsKey d = some (.array items))
      (hitem : .document m ∈ items) (hkey : key ∈ Entries.keys m)

variable {d d' : Document} {key : String}

theorem getPath_fieldsKey (d : Document) :
    d.getPath Series.fieldsKey = Entries.lookup Series.fieldsKey d := by
  have hne : Series.fieldsKey.isEmpty = false := by decide
  simp [getPath, hne, pathKeys_fieldsKey, greatestDepth, follow]

/-- The names of the fields are the keys of the documents that are contributed. -/
theorem hasFieldName_iff :
    d.HasFieldName key ↔ ∃ v ∈ d.contributions Series.fieldsKey, key ∈ v.ownKeys := by
  constructor
  · intro h
    cases h with
    | @document m hfields hkey =>
        exact ⟨.document m, by simp [contributions, getPath_fieldsKey, hfields], hkey⟩
    | @item items m hfields hitem hkey =>
        exact ⟨.document m, by simpa [contributions, getPath_fieldsKey, hfields] using hitem, hkey⟩
  · rintro ⟨v, hv, hkey⟩
    obtain ⟨m, rfl, hkey⟩ := Value.exists_of_mem_ownKeys hkey
    rw [contributions, getPath_fieldsKey] at hv
    split at hv
    · rename_i items hfields
      exact .item hfields hv hkey
    · rename_i hfields
      cases List.mem_singleton.mp hv
      exact .document hfields hkey
    · cases hv

theorem HasFieldName.of_keysReordered (hd : d.KeysReordered d') (h : d.HasFieldName key) :
    d'.HasFieldName key := by
  cases h with
  | document hfields hkey =>
      obtain ⟨w, hfields', hvalue⟩ := exists_of_rel (hd.lookup _) hfields
      cases hvalue with
      | refl => exact .document hfields' hkey
      | document hkeys => exact .document hfields' ((hkeys key).mp hkey)
  | item hfields hitem hkey =>
      obtain ⟨w, hfields', hvalue⟩ := exists_of_rel (hd.lookup _) hfields
      cases hvalue with
      | refl => exact .item hfields' hitem hkey
      | array hlength hitems =>
          obtain ⟨w, hw, hitem'⟩ := Value.KeysReordered.exists_mem_of_items hlength hitems hitem
          cases hitem' with
          | refl => exact .item hfields' hw hkey
          | document hkeys => exact .item hfields' hw ((hkeys key).mp hkey)

end Document

namespace Store

variable {s t : Store} {f : Filter} {key : String}

/-- **The names that are listed** are those of the documents that match. -/
theorem mem_fieldNames_iff (hs : ∀ d ∈ s.documents, d.WellKeyed) :
    key ∈ keysOfDocuments (s.distinct Series.fieldsKey f) ↔
      ∃ d ∈ s.documents, f.matchesDocument d = true ∧ d.HasFieldName key := by
  simp only [mem_keysOfDocuments_distinct hs, ← Document.hasFieldName_iff, matching,
    List.mem_filter, Array.mem_toList_iff, and_assoc]

/-! ## The same documents -/

/-- The same identities have a document in both stores, which is the same but for the order of
keys. -/
def SameDocuments (s t : Store) : Prop :=
  ∀ id, Option.Rel Document.KeysReordered (s.documentOf? id) (t.documentOf? id)

theorem SameDocuments.symm (h : s.SameDocuments t) : t.SameDocuments s := by
  intro id
  have hid := h id
  generalize s.documentOf? id = d? at hid
  generalize t.documentOf? id = d?' at hid
  cases hid with
  | none => exact .none
  | some hd => exact .some hd.symm

theorem mem_documents_run_iff {ws : List Write} {d : Document} :
    d ∈ (run ws).documents ↔ ∃ id, (run ws).documentOf? id = some d := by
  have h := represents_run ws
  simp only [h.documentOf?_eq]
  have hmem : d ∈ (run ws).documents ↔ some d ∈ (arrivals ws).map (contents ws) := by
    rw [← h.documents_eq, ← Array.mem_toList_iff]
    simp
  rw [hmem, List.mem_map]
  exact ⟨fun ⟨id, _, hd⟩ => ⟨id, hd⟩, fun ⟨id, hd⟩ => ⟨id, h.mem_of_eq_some hd, hd⟩⟩

theorem SameDocuments.exists_name {ws ws' : List Write} (h : (run ws).SameDocuments (run ws'))
    (hd : ∃ d ∈ (run ws).documents, f.matchesDocument d = true ∧ d.HasFieldName key) :
    ∃ d ∈ (run ws').documents, f.matchesDocument d = true ∧ d.HasFieldName key := by
  obtain ⟨d, hd, hmatches, hname⟩ := hd
  obtain ⟨id, hid⟩ := mem_documents_run_iff.mp hd
  obtain ⟨d', hid', hreordered⟩ := exists_of_rel (h id) hid
  refine ⟨d', mem_documents_run_iff.mpr ⟨id, hid'⟩, ?_, hname.of_keysReordered hreordered⟩
  rw [← hreordered.matchesDocument_eq, hmatches]

/-- Stores with the same documents list the same names. -/
theorem SameDocuments.lookup_eq {ws ws' : List Write} (hws : ∀ w ∈ ws, w.WellKeyed)
    (hws' : ∀ w ∈ ws', w.WellKeyed) (h : (run ws).SameDocuments (run ws')) (f : Filter) :
    (run ws').executor.lookup .schemaKeys f = (run ws).executor.lookup .schemaKeys f := by
  have hkeys : keysOfDocuments ((run ws').distinct Series.fieldsKey f) =
      keysOfDocuments ((run ws).distinct Series.fieldsKey f) := by
    refine keysOfDocuments_congr fun key => ?_
    rw [mem_fieldNames_iff fun d => wellKeyed_run hws',
      mem_fieldNames_iff fun d => wellKeyed_run hws]
    exact ⟨h.symm.exists_name, h.exists_name⟩
  rw [lookup_schemaKeys, lookup_schemaKeys, hkeys]

/-! ## Insertions in another order -/

/-- The writes that insert documents, each with a fresh identity for the case that it has none. -/
def inserts (xs : List (ObjectId × Document)) : List Write :=
  xs.map fun x => .insert x.1 x.2

/-- The documents that insertions add, under their identities.  One that is refused is left out. -/
def inserted (xs : List (ObjectId × Document)) : Entries Document :=
  xs.filterMap fun x => (named x.1 x.2).toOption

/-- The same insertions in another order, where the keys of documents may be in another order. -/
def Reordered (xs ys : List (ObjectId × Document)) : Prop :=
  ∃ l, xs.Perm l ∧ List.Forall₂ (fun x y => x.1 = y.1 ∧ x.2.KeysReordered y.2) l ys

theorem editsOf_inserts (xs : List (ObjectId × Document)) :
    editsOf (inserts xs) = (inserted xs).map fun r => .replace r.1 r.2 := by
  induction xs with
  | nil => rfl
  | cons x xs ih =>
      have hcons : editsOf (inserts (x :: xs)) =
          (Write.insert x.1 x.2).edits ++ editsOf (inserts xs) := rfl
      rw [hcons, ih]
      simp only [inserted, List.filterMap_cons, Write.edits]
      cases named x.1 x.2 <;> rfl

/-- After replacements under different identities each of these has its new document. -/
theorem foldl_replace {l : Entries Document} (hl : (Entries.keys l).Nodup) (m : Contents)
    (id : String) :
    (l.map fun r => Edit.replace r.1 r.2).foldl Contents.edit m id =
      (Entries.lookup id l).or (m id) := by
  induction l generalizing m with
  | nil => simp [Entries.lookup]
  | cons r l ih =>
      obtain ⟨k, d⟩ := r
      obtain ⟨hnew, hl⟩ := List.nodup_cons.mp hl
      rw [List.map_cons, List.foldl_cons, ih hl]
      by_cases hid : k = id
      · subst hid
        have hnone : Entries.lookup k l = none := by
          rw [Option.eq_none_iff_forall_ne_some]
          exact fun d' hd' => hnew (Entries.mem_keys_iff.mpr ⟨d', hd'⟩)
        simp [Entries.lookup, hnone, Contents.edit, Edit.id, Edit.change]
      · simp [Entries.lookup, hid, Contents.edit, Edit.id, Ne.symm hid]

theorem contents_inserts (ws : List Write) {xs : List (ObjectId × Document)}
    (hxs : (Entries.keys (inserted xs)).Nodup) (id : String) :
    contents (ws ++ inserts xs) id = (Entries.lookup id (inserted xs)).or (contents ws id) := by
  rw [← foldl_replace hxs, ← editsOf_inserts]
  simp only [contents, editsOf, List.flatMap_append, List.foldl_append]

theorem identityOfValue_eq {v w : Value} (h : Value.KeysReordered v w) :
    (identityOfValue v).toOption = (identityOfValue w).toOption := by
  cases h <;> rfl

theorem identified_reordered {d d' : Document} (fresh : ObjectId) (h : d.KeysReordered d') :
    (identified fresh d).KeysReordered (identified fresh d') := by
  have hcontains : Entries.contains Series.identityKey d =
      Entries.contains Series.identityKey d' :=
    isSome_eq_of_rel (h.lookup _)
  unfold identified
  rw [hcontains]
  split
  · exact h
  · exact h.put _ _

/-- An identity, where a document has one, does not depend on the order of keys. -/
theorem identity_reordered {d d' : Document} (h : d.KeysReordered d') :
    (identity d).toOption = (identity d').toOption := by
  have hkey := h.lookup Series.identityKey
  unfold identity
  generalize Entries.lookup Series.identityKey d = v? at hkey
  generalize Entries.lookup Series.identityKey d' = w? at hkey
  cases hkey with
  | none => rfl
  | some hvalue => exact identityOfValue_eq hvalue

theorem named_reordered {d d' : Document} (fresh : ObjectId) (h : d.KeysReordered d') :
    Option.Rel (fun r r' => r.1 = r'.1 ∧ r.2.KeysReordered r'.2) (named fresh d).toOption
      (named fresh d').toOption := by
  have hidentified := identified_reordered fresh h
  have hidentity := identity_reordered hidentified
  simp only [named]
  cases hid : identity (identified fresh d) <;> cases hid' : identity (identified fresh d') <;>
    simp only [hid, hid', Except.toOption] at hidentity ⊢
  · exact .none
  · cases hidentity
  · cases hidentity
  · exact .some ⟨Option.some.inj hidentity, hidentified⟩

/-- Insertions in another order add the same documents in another order. -/
theorem Reordered.inserted {xs ys : List (ObjectId × Document)} (h : Reordered xs ys) :
    ∃ l, (inserted xs).Perm l ∧
      List.Forall₂ (fun r r' => r.1 = r'.1 ∧ r.2.KeysReordered r'.2) l (inserted ys) := by
  obtain ⟨l, hperm, hreordered⟩ := h
  refine ⟨Store.inserted l, hperm.filterMap _, List.rel_filterMap ?_ hreordered⟩
  rintro ⟨fresh, d⟩ ⟨fresh', d'⟩ ⟨rfl, hd⟩
  exact named_reordered fresh hd

/-- Insertions in another order, under different identities, end with the same documents. -/
theorem Reordered.sameDocuments {xs ys : List (ObjectId × Document)}
    (hxs : (Entries.keys (Store.inserted xs)).Nodup) (h : Reordered xs ys) (ws : List Write) :
    (run (ws ++ inserts xs)).SameDocuments (run (ws ++ inserts ys)) := by
  obtain ⟨l, hperm, hrel⟩ := h.inserted
  have hkeys : Entries.keys l = Entries.keys (Store.inserted ys) :=
    Entries.keys_eq_of_forall₂ (hrel.imp fun _ _ hr => hr.1)
  have hys : (Entries.keys (Store.inserted ys)).Nodup :=
    hkeys ▸ (hperm.map Prod.fst).nodup_iff.mp hxs
  intro id
  rw [(represents_run _).documentOf?_eq, (represents_run _).documentOf?_eq,
    contents_inserts ws hxs, contents_inserts ws hys, Entries.lookup_perm hxs hperm]
  have hlookup := Entries.lookup_rel hrel id
  generalize Entries.lookup id l = d? at hlookup
  generalize Entries.lookup id (Store.inserted ys) = d?' at hlookup
  cases hlookup with
  | none =>
      cases contents ws id with
      | none => exact .none
      | some d => exact .some (.refl _)
  | some hd => exact .some hd

theorem wellKeyed_append_inserts {ws : List Write} (hws : ∀ w ∈ ws, w.WellKeyed)
    {xs : List (ObjectId × Document)} (hxs : ∀ x ∈ xs, x.2.WellKeyed) :
    ∀ w ∈ ws ++ inserts xs, w.WellKeyed := by
  intro w hw
  rcases List.mem_append.mp hw with hw | hw
  · exact hws w hw
  · obtain ⟨x, hx, rfl⟩ := List.mem_map.mp hw
    exact hxs x hx

/-! ## The names of all fields -/

/-- The keys of the documents that are contributed are all there although equal documents are
dropped before the keys are taken. -/
theorem keysOfDocuments_distinct (hs : ∀ d ∈ s.documents, d.WellKeyed) (f : Filter) :
    keysOfDocuments (s.distinct Series.fieldsKey f) =
      keysOfDocuments ((s.matching f).flatMap fun d => d.contributions Series.fieldsKey) := by
  refine keysOfDocuments_congr fun key => ?_
  rw [mem_keysOfDocuments_distinct hs, mem_keysOfDocuments_iff]
  simp only [List.mem_flatMap]
  exact ⟨fun ⟨d, hd, v, hv, hkey⟩ => ⟨v, ⟨d, hd, hv⟩, hkey⟩,
    fun ⟨v, ⟨d, hd, hv⟩, hkey⟩ => ⟨d, hd, v, hv, hkey⟩⟩

/-- **The names of all fields are listed exactly.**  They are texts in strictly ascending order of
their octets, and they are the names of the documents that match.  Dropping equal documents first
loses none of them.  A store with the same documents under the same identities lists the same
names, whatever the order of the documents and of the keys at any depth; in particular documents
with different identities can be inserted in any order. -/
theorem fieldNames_exact {ws : List Write} (hws : ∀ w ∈ ws, w.WellKeyed) (f : Filter) :
    ∃ names : List String,
      (run ws).executor.lookup .schemaKeys f = .value (names.map .string) ∧
      names.Pairwise (fun a b => Text.Utf8.encode a < Text.Utf8.encode b) ∧
      (∀ key, key ∈ names ↔
        ∃ d ∈ (run ws).documents, f.matchesDocument d = true ∧ d.HasFieldName key) ∧
      names = keysOfDocuments
        (((run ws).matching f).flatMap fun d => d.contributions Series.fieldsKey) ∧
      (∀ ws', (∀ w ∈ ws', w.WellKeyed) → (run ws).SameDocuments (run ws') →
        (run ws').executor.lookup .schemaKeys f = .value (names.map .string)) ∧
      ∀ xs ys, (∀ x ∈ xs, x.2.WellKeyed) → (∀ y ∈ ys, y.2.WellKeyed) →
        (Entries.keys (inserted xs)).Nodup → Reordered xs ys →
        (run (ws ++ inserts ys)).executor.lookup .schemaKeys f =
          (run (ws ++ inserts xs)).executor.lookup .schemaKeys f := by
  have hdocuments : ∀ d ∈ (run ws).documents, d.WellKeyed := fun d => wellKeyed_run hws
  refine ⟨keysOfDocuments ((run ws).distinct Series.fieldsKey f), rfl, ?_,
    fun key => mem_fieldNames_iff hdocuments, keysOfDocuments_distinct hdocuments f, ?_, ?_⟩
  · exact (ascending_keysOfDocuments _).imp fun h => Text.Utf8.encode_lt_encode_iff.mpr h
  · intro ws' hws' hsame
    exact hsame.lookup_eq hws hws' f
  · intro xs ys hxs hys hdifferent hreordered
    exact (hreordered.sameDocuments hdifferent ws).lookup_eq (wellKeyed_append_inserts hws hxs)
      (wellKeyed_append_inserts hws hys) f

/-- A series with two fields. -/
def surveyed : List Write :=
  [.upsertFields "a" [("sexo", .string "Feminino"), ("city", .string "Recife")]]

def freshIdentity : ObjectId :=
  ⟨List.replicate 24 '0', by decide⟩

/-- A document with fields, and one with a list of documents. -/
def natalFirst : List (ObjectId × Document) :=
  [(freshIdentity, [("_id", .string "b"), ("fields", .document [("city", .string "Natal")])]),
    (freshIdentity, [("_id", .string "c"),
      ("fields", .array [.document [("age", .int32 30)], .string "x"])])]

/-- The same in another order, where the fields of one come before its identity. -/
def natalLast : List (ObjectId × Document) :=
  [(freshIdentity, [("_id", .string "c"),
      ("fields", .array [.document [("age", .int32 30)], .string "x"])]),
    (freshIdentity, [("fields", .document [("city", .string "Natal")]), ("_id", .string "b")])]

theorem reordered_natal : Reordered natalFirst natalLast := by
  refine ⟨natalFirst.reverse, (List.reverse_perm _).symm, ?_⟩
  have hswap : Document.KeysReordered
      [("_id", .string "b"), ("fields", .document [("city", .string "Natal")])]
      [("fields", .document [("city", .string "Natal")]), ("_id", .string "b")] :=
    .of_perm (by decide) (.swap _ _ _)
  exact .cons ⟨rfl, .refl _⟩ (.cons ⟨rfl, hswap⟩ .nil)

theorem wellKeyed_natal : ∀ x ∈ natalFirst ++ natalLast, x.2.WellKeyed := by
  intro x hx
  simp only [natalFirst, natalLast, List.cons_append, List.nil_append, List.mem_cons,
    List.not_mem_nil, or_false] at hx
  rcases hx with rfl | rfl | rfl | rfl
  all_goals
    refine ⟨by decide, ?_⟩
    simp [Value.WellKeyed, Value.WellKeyedItems, Value.WellKeyedMembers, Entries.keys]

theorem fieldNames_exact_surveyed :
    (∀ w ∈ surveyed, w.WellKeyed) ∧
      (run surveyed).executor.lookup .schemaKeys .empty =
        .value [.string "city", .string "sexo"] ∧
      (run (surveyed ++ inserts natalLast)).executor.lookup .schemaKeys .empty =
        (run (surveyed ++ inserts natalFirst)).executor.lookup .schemaKeys .empty := by
  have hwellKeyed : ∀ w ∈ surveyed, w.WellKeyed := by
    have hfields : Document.WellKeyed [("sexo", .string "Feminino"), ("city", .string "Recife")] :=
      (Document.wellKeyed_nil.put (by trivial) "sexo").put (by trivial) "city"
    simp [surveyed, Write.WellKeyed, hfields]
  have hdifferent : (Entries.keys (inserted natalFirst)).Nodup := by
    have hkeys : Entries.keys (inserted natalFirst) = ["b", "c"] := rfl
    rw [hkeys]
    decide
  have hdocuments : (run surveyed).documents.toList =
      [[("_id", .string "a"), ("fields", .document
        [("sexo", .string "Feminino"), ("city", .string "Recife")])]] := by
    simp [run, writeAll, write, surveyed, upsertFields, mergeInto, empty, append]
    rfl
  obtain ⟨hfirst, hlast⟩ := List.forall_mem_append.mp wellKeyed_natal
  obtain ⟨names, hnames, -, -, hunion, -, horder⟩ := fieldNames_exact hwellKeyed .empty
  refine ⟨hwellKeyed, ?_, horder _ _ hfirst hlast hdifferent reordered_natal⟩
  rw [hnames, hunion, matching, hdocuments]
  rfl

end Store
end SeriesCatalog
