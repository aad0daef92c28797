import SeriesCatalog.Proofs.Store.Facets
import SeriesCatalog.Proofs.Store.FieldNames

/-!
# Names of fields as paths

A name is listed because it is a key, but it is used as a path.  A name without a dot leads to the
value under it in the document of the fields, and nowhere else: not into a list of documents, from
which names are listed too.  A name with a dot is taken apart, so that the value under it cannot be
reached.

* `Document.ownField?`: the value under a name in the document of the fields itself.
* `Value.spread`: what a value contributes to a list of different values.

Results:
* `Document.getPath_eq_ownField`: the path of a name without a dot.
* `Store.getPath_mergeAt_of_dot`: the path of a name with a dot passes by the value under it.
* `Store.fieldNames_addressable`: which of the names that are listed lead to a value.
-/

namespace SeriesCatalog

/-- The items of a list, or the value itself. -/
def Value.spread : Value → List Value
  | array items => items
  | v => [v]

namespace Document

/-- The value under a name in the document of the fields itself. -/
def ownField? (d : Document) (name : String) : Option Value :=
  Entries.lookup name (Store.subdocument Series.fieldsKey d)

variable {d : Document} {name : String}

theorem ownField?_eq_some_iff {v : Value} :
    d.ownField? name = some v ↔
      ∃ m, Entries.lookup Series.fieldsKey d = some (.document m) ∧
        Entries.lookup name m = some v := by
  unfold ownField? Store.subdocument
  split
  · rename_i m hfields
    simp [hfields]
  · rename_i hfields
    simp only [Entries.lookup, reduceCtorEq, false_iff]
    rintro ⟨m, hm, -⟩
    exact hfields m hm

theorem hasFieldName_of_ownField {v : Value} (h : d.ownField? name = some v) :
    d.HasFieldName name := by
  obtain ⟨m, hfields, hname⟩ := ownField?_eq_some_iff.mp h
  exact .document hfields (Entries.mem_keys_iff.mpr ⟨v, hname⟩)

/-- The path of a field leads into the document of the fields, which is empty if there is none. -/
theorem getPath_fieldPath (d : Document) (name : String) :
    d.getPath (Series.fieldPath name) =
      follow (greatestDepth - 1) (Store.subdocument Series.fieldsKey d) (pathKeys name) := by
  have hne : (Series.fieldPath name).isEmpty = false := by
    simp [Series.fieldPath, Series.fieldsKey]
  obtain ⟨part, rest, hparts⟩ := List.exists_cons_of_ne_nil (pathKeys_ne_nil name)
  have hnothing : follow (greatestDepth - 1) [] (part :: rest) = none := by
    cases rest <;> rfl
  rw [getPath, hne, pathKeys_fieldPath, hparts, Store.subdocument]
  simp only [Bool.false_eq_true, if_false, greatestDepth, follow]
  cases Entries.lookup Series.fieldsKey d with
  | none => exact hnothing.symm
  | some v =>
      cases v with
      | document m => rfl
      | _ => exact hnothing.symm

/-- A name without a dot leads to the value under it. -/
theorem getPath_eq_ownField (hname : '.' ∉ name.toList) (d : Document) :
    d.getPath (Series.fieldPath name) = d.ownField? name := by
  rw [getPath_fieldPath, pathKeys_of_not_mem hname]
  rfl

theorem contributions_eq_spread (d : Document) (path : String) :
    d.contributions path = (d.getPath path).toList.flatMap Value.spread := by
  unfold contributions
  cases d.getPath path with
  | none => rfl
  | some v => cases v <;> simp [Value.spread]

end Document

namespace Store

variable {s : Store} {f : Filter} {name : String}

/-- A name with a dot leads on from the part before its first dot, which is another key: a value
given to the field is not found at its path. -/
theorem getPath_mergeAt_of_dot (hname : '.' ∈ name.toList) (v : Value) (d : Document) :
    (mergeAt Series.fieldsKey [(name, v)] d).getPath (Series.fieldPath name) =
      d.getPath (Series.fieldPath name) := by
  obtain ⟨part, rest, hparts⟩ := List.exists_cons_of_ne_nil (Document.pathKeys_ne_nil name)
  have hne : name ≠ part := by
    rintro rfl
    exact Document.dot_not_mem_of_mem_pathKeys (hparts ▸ List.mem_cons_self) hname
  have hpart : Entries.lookup part (Entries.merge (subdocument Series.fieldsKey d) [(name, v)]) =
      Entries.lookup part (subdocument Series.fieldsKey d) := by
    simp [Entries.merge, hne]
  rw [Document.getPath_fieldPath, Document.getPath_fieldPath, mergeAt_eq_put, subdocument_put,
    hparts]
  exact Document.follow_congr hpart _ rest

/-- The different values that are asked for by a name without a dot are those under the name. -/
theorem lookup_parse_eq (hname : '.' ∉ name.toList) (hword : name ≠ Series.fieldsKey) :
    s.executor.lookup (.parse name) f =
      .value (((s.matching f).flatMap fun d =>
        (d.ownField? name).toList.flatMap Value.spread).eraseDupsBy fun v w => w.same v) := by
  have hparse : Specifier.parse name = .field name := if_neg hword
  have hdistinct : s.distinct (Series.fieldPath name) f =
      ((s.matching f).flatMap fun d =>
        (d.ownField? name).toList.flatMap Value.spread).eraseDupsBy fun v w => w.same v := by
    simp only [distinct_eq, Document.contributions_eq_spread, Document.getPath_eq_ownField hname]
  rw [hparse, ← hdistinct]
  rfl

/-- A condition on a name without a dot is one on the value under the name. -/
theorem matchesDocument_require_iff (hname : '.' ∉ name.toList)
    (hword : name ≠ Series.identityWord) (text : String) (d : Document) :
    (Filter.empty.require name text).matchesDocument d = true ↔
      ∃ v, d.ownField? name = some v ∧ v.Denotes text := by
  have hpath : Series.pathOfKey name = Series.fieldPath name := if_neg hword
  rw [Filter.matchesDocument_single_iff, hpath, Document.getPath_eq_ownField hname]

/-- **Which of the names that are listed lead to a value.**  A name without a dot that a matching
document has in the document of its fields itself leads to the value under it, in this document
and in any other, and both a list of different values and a condition go by that value.  (The two
reserved words mean something else when they are asked for: one the names of all fields, the other
the identity.)  Another name without a dot, which only documents in lists have, leads to no value
at all.  The path of a name with a dot does not depend on the value under that name. -/
theorem fieldNames_addressable {ws : List Write} (hws : ∀ w ∈ ws, w.WellKeyed) (f : Filter) :
    ∃ names : List String,
      (run ws).executor.lookup .schemaKeys f = .value (names.map .string) ∧
      (∀ d ∈ (run ws).matching f, ∀ name v, d.ownField? name = some v → name ∈ names) ∧
      (∀ name ∈ names, '.' ∉ name.toList →
        (∃ d ∈ (run ws).matching f, ∃ v, d.ownField? name = some v ∧
            d.getPath (Series.fieldPath name) = some v) ∨
          (∃ d ∈ (run ws).matching f, ∃ items m,
              Entries.lookup Series.fieldsKey d = some (.array items) ∧ .document m ∈ items ∧
              name ∈ Entries.keys m) ∧
            ∀ d ∈ (run ws).matching f, d.getPath (Series.fieldPath name) = none) ∧
      (∀ name, '.' ∉ name.toList →
        (∀ d : Document, d.getPath (Series.fieldPath name) = d.ownField? name) ∧
        (name ≠ Series.fieldsKey → (run ws).executor.lookup (.parse name) f =
          .value ((((run ws).matching f).flatMap fun d =>
            (d.ownField? name).toList.flatMap Value.spread).eraseDupsBy fun v w => w.same v)) ∧
        (name ≠ Series.identityWord → ∀ text d,
          (Filter.empty.require name text).matchesDocument d = true ↔
            ∃ v, d.ownField? name = some v ∧ v.Denotes text)) ∧
      ∀ name, '.' ∈ name.toList → ∀ v d,
        (mergeAt Series.fieldsKey [(name, v)] d).getPath (Series.fieldPath name) =
          d.getPath (Series.fieldPath name) := by
  have hdocuments : ∀ d ∈ (run ws).documents, d.WellKeyed := fun d => wellKeyed_run hws
  refine ⟨keysOfDocuments ((run ws).distinct Series.fieldsKey f), rfl, ?_, ?_, ?_, ?_⟩
  · intro d hd name v hown
    obtain ⟨hmem, hmatches⟩ := mem_matching_iff.mp hd
    exact (mem_fieldNames_iff hdocuments).mpr
      ⟨d, hmem, hmatches, Document.hasFieldName_of_ownField hown⟩
  · intro name hlisted hname
    by_cases hown : ∃ d ∈ (run ws).matching f, ∃ v, d.ownField? name = some v
    · obtain ⟨d, hd, v, hv⟩ := hown
      exact .inl ⟨d, hd, v, hv, (Document.getPath_eq_ownField hname d).trans hv⟩
    · push Not at hown
      refine .inr ⟨?_, fun d hd => ?_⟩
      · obtain ⟨d, hmem, hmatches, hhas⟩ := (mem_fieldNames_iff hdocuments).mp hlisted
        have hd : d ∈ (run ws).matching f := mem_matching_iff.mpr ⟨hmem, hmatches⟩
        cases hhas with
        | document hfields hkey =>
            obtain ⟨v, hv⟩ := Entries.mem_keys_iff.mp hkey
            exact absurd (Document.ownField?_eq_some_iff.mpr ⟨_, hfields, hv⟩) (hown d hd v)
        | item hfields hitem hkey => exact ⟨d, hd, _, _, hfields, hitem, hkey⟩
      · rw [Document.getPath_eq_ownField hname]
        exact Option.eq_none_iff_forall_ne_some.mpr (hown d hd)
  · intro name hname
    exact ⟨Document.getPath_eq_ownField hname, fun hword => lookup_parse_eq hname hword,
      fun hword => matchesDocument_require_iff hname hword⟩
  · intro name hname v d
    exact getPath_mergeAt_of_dot hname v d

/-! ## A store with names of each kind -/

/-- A series with a name that has a dot, with both reserved words and with a plain name, and one
with a list of documents in the place of its fields. -/
def oddlyNamed : List Write :=
  [.upsertFields "a" [("a.b", .string "1"), ("fields", .string "2"), ("uid", .string "3"),
      ("city", .string "Recife")],
    .insert freshIdentity
      [("_id", .string "b"), ("fields", .array [.document [("age", .string "5")]])]]

theorem documents_oddlyNamed : (run oddlyNamed).documents.toList =
    [[("_id", .string "a"), ("fields", .document [("a.b", .string "1"), ("fields", .string "2"),
        ("uid", .string "3"), ("city", .string "Recife")])],
      [("_id", .string "b"), ("fields", .array [.document [("age", .string "5")]])]] := by
  have hnamed : named freshIdentity
      [("_id", .string "b"), ("fields", .array [.document [("age", .string "5")]])] =
      .ok ("b", [("_id", .string "b"), ("fields", .array [.document [("age", .string "5")]])]) :=
    rfl
  simp [run, writeAll, write, oddlyNamed, upsertFields, mergeInto, empty, append, insert, hnamed,
    set]
  rfl

theorem lookup_oddlyNamed : (run oddlyNamed).executor.lookup .schemaKeys .empty =
    .value (["a.b", "age", "city", "fields", "uid"].map .string) := by
  rw [lookup_schemaKeys, distinct, matching, documents_oddlyNamed]
  rfl

theorem fieldNames_addressable_city :
    (∀ w ∈ oddlyNamed, w.WellKeyed) ∧
      (run oddlyNamed).executor.lookup .schemaKeys .empty =
        .value (["a.b", "age", "city", "fields", "uid"].map .string) ∧
      (∃ d ∈ (run oddlyNamed).matching .empty, ∃ v,
        d.getPath (Series.fieldPath "city") = some v) ∧
      (run oddlyNamed).executor.lookup (.parse "city") .empty = .value [.string "Recife"] := by
  have hwellKeyed : ∀ w ∈ oddlyNamed, w.WellKeyed := by
    intro w hw
    simp only [oddlyNamed, List.mem_cons, List.not_mem_nil, or_false] at hw
    rcases hw with rfl | rfl
    all_goals
      refine ⟨by decide, ?_⟩
      simp [Value.WellKeyed, Value.WellKeyedItems, Value.WellKeyedMembers, Entries.keys]
  have hdot : '.' ∉ "city".toList := by decide
  obtain ⟨names, hnames, hlisted, -, hplain, -⟩ := fieldNames_addressable hwellKeyed .empty
  obtain ⟨hpath, hvalues, -⟩ := hplain "city" hdot
  have hmem : [("_id", .string "a"), ("fields", .document [("a.b", .string "1"),
      ("fields", .string "2"), ("uid", .string "3"), ("city", .string "Recife")])] ∈
      (run oddlyNamed).matching .empty := by
    rw [matching, documents_oddlyNamed]
    exact List.mem_cons_self
  refine ⟨hwellKeyed, lookup_oddlyNamed, ⟨_, hmem, .string "Recife", hpath _⟩, ?_⟩
  rw [hvalues (by decide), matching, documents_oddlyNamed]
  rfl

/-- Names that are listed and lead nowhere or elsewhere: one with a dot, one that only a document
in a list has, and the two reserved words. -/
theorem fieldNames_not_addressable :
    (run oddlyNamed).executor.lookup .schemaKeys .empty =
        .value (["a.b", "age", "city", "fields", "uid"].map .string) ∧
      (run oddlyNamed).executor.lookup (.parse "fields") .empty =
        .value (["a.b", "age", "city", "fields", "uid"].map .string) ∧
      ∀ d ∈ (run oddlyNamed).matching .empty,
        d.getPath (Series.fieldPath "a.b") = none ∧ d.getPath (Series.fieldPath "age") = none ∧
          (Filter.empty.require "uid" "3").matchesDocument d = false := by
  refine ⟨lookup_oddlyNamed, lookup_oddlyNamed, fun d hd => ?_⟩
  rw [matching, documents_oddlyNamed] at hd
  rcases List.mem_cons.mp (List.mem_filter.mp hd).1 with rfl | hd
  · decide
  · cases List.mem_singleton.mp hd
    decide

end Store
end SeriesCatalog
