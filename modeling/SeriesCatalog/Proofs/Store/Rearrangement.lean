import Mathlib.Data.List.Forall2
import SeriesCatalog.Proofs.Document.Equality
import SeriesCatalog.Proofs.Document.Paths
import SeriesCatalog.Proofs.Store.Keys
import SeriesCatalog.Proofs.Store.SchemaKeys

/-!
# Stores in another order

Two stores hold the same documents, as maps, if one holds those of the other in another order.
Counts do not depend on the order, and neither does the list of keys, although the list of
different values from which it is made does.

* `Store.documentOf?`: the document under an identity.
* `Store.Rearranged`: stores with the same documents up to their order.

Results:
* `Store.Rearranged.count_eq`, `Store.Rearranged.schemaKeys_eq`: what does not depend on the
  order.
* `Store.rearranged_of_represents`: stores whose identities have the same documents.
-/

namespace SeriesCatalog

theorem Document.SameMap.matchesDocument_eq {d d' : Document} (h : d.SameMap d') (f : Filter) :
    f.matchesDocument d = f.matchesDocument d' :=
  Filter.matchesDocument_congr fun path _ _ => h.getPath_eq path

namespace Store

variable {s t : Store}

def documentOf? (s : Store) (id : String) : Option Document :=
  s.places[id]?.bind fun place => s.documents[place]?

def Rearranged (s t : Store) : Prop :=
  ∃ l, s.documents.toList.Perm l ∧ List.Forall₂ Document.SameMap l t.documents.toList

namespace Rearranged

theorem matching (h : s.Rearranged t) (f : Filter) :
    ∃ l, (s.matching f).Perm l ∧ List.Forall₂ Document.SameMap l (t.matching f) := by
  obtain ⟨l, hperm, hsame⟩ := h
  refine ⟨l.filter f.matchesDocument, hperm.filter _, List.rel_filter ?_ hsame⟩
  intro d d' hd
  exact Bool.eq_iff_iff.mp (hd.matchesDocument_eq f)

theorem count_eq (h : s.Rearranged t) (f : Filter) : s.count f = t.count f := by
  obtain ⟨l, hperm, hsame⟩ := h.matching f
  exact hperm.length_eq.trans hsame.length_eq

theorem contributes_iff (h : s.Rearranged t) {f : Filter} {path key : String} :
    (∃ d ∈ s.matching f, ∃ v ∈ d.contributions path, key ∈ v.ownKeys) ↔
      ∃ d ∈ t.matching f, ∃ v ∈ d.contributions path, key ∈ v.ownKeys := by
  obtain ⟨l, hperm, hsame⟩ := h.matching f
  constructor
  · rintro ⟨d, hd, v, hv, hkey⟩
    obtain ⟨d', hd', hmap⟩ := Value.exists_mem_of_forall₂ hsame (hperm.mem_iff.mp hd)
    exact ⟨d', hd', v, hmap.contributions_eq path ▸ hv, hkey⟩
  · rintro ⟨d', hd', v, hv, hkey⟩
    obtain ⟨d, hd, hmap⟩ := Value.exists_mem_of_forall₂ hsame.flip hd'
    have heq : d.contributions path = d'.contributions path :=
      Document.SameMap.contributions_eq hmap path
    exact ⟨d, hperm.mem_iff.mpr hd, v, heq ▸ hv, hkey⟩

/-- The same keys are listed, though not from the same different values. -/
theorem schemaKeys_eq (h : s.Rearranged t) (hs : ∀ d ∈ s.documents, d.WellKeyed)
    (ht : ∀ d ∈ t.documents, d.WellKeyed) (f : Filter) :
    s.executor.lookup .schemaKeys f = t.executor.lookup .schemaKeys f := by
  have hkeys : keysOfDocuments (s.distinct Series.fieldsKey f) =
      keysOfDocuments (t.distinct Series.fieldsKey f) := by
    refine keysOfDocuments_congr fun key => ?_
    rw [mem_keysOfDocuments_distinct hs, mem_keysOfDocuments_distinct ht, h.contributes_iff]
  rw [lookup_schemaKeys, lookup_schemaKeys, hkeys]

end Rearranged

/-! ## Stores of maps -/

namespace Represents

variable {order order' : List String} {m m' : Contents}

theorem documentOf?_eq (h : s.Represents order m) (id : String) : s.documentOf? id = m id := by
  cases hplace : s.places[id]? with
  | none =>
      have hnone := h.eq_none_iff.mpr (h.getElem?_places_eq_none_iff.mp hplace)
      simp [documentOf?, hplace, hnone]
  | some place =>
      simp [documentOf?, hplace, h.getElem?_documents (h.place_iff.mp hplace)]

theorem mem_places_iff (h : s.Represents order m) {id : String} : id ∈ s.places ↔ id ∈ order := by
  rw [Std.HashMap.mem_iff_isSome_getElem?, Option.isSome_iff_ne_none, Ne,
    h.getElem?_places_eq_none_iff, not_not]

theorem documents_eq_filterMap (h : s.Represents order m) :
    s.documents.toList = order.filterMap m := by
  have hsome := congrArg (List.filterMap id) h.documents_eq
  simpa [List.filterMap_map] using hsome

end Represents

/-- The orders of the identities differ at most, if these have the same documents. -/
theorem rearranged_of_represents {order order' : List String} {m m' : Contents}
    (hs : s.Represents order m) (ht : t.Represents order' m') (horder : order.Perm order')
    (hm : ∀ id, Option.Rel Document.SameMap (m id) (m' id)) : s.Rearranged t := by
  rw [Rearranged, hs.documents_eq_filterMap, ht.documents_eq_filterMap]
  refine ⟨order'.filterMap m, horder.filterMap m, ?_⟩
  refine List.rel_filterMap (R := Eq) ?_ (List.forall₂_refl order')
  rintro id _ rfl
  exact hm id

end Store
end SeriesCatalog
