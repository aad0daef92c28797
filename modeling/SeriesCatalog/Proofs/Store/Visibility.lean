import Mathlib.Data.List.Forall2
import SeriesCatalog.Proofs.Document.Paths
import SeriesCatalog.Proofs.Entries
import SeriesCatalog.Proofs.Query.Submissions
import SeriesCatalog.Proofs.Store.Consistency
import SeriesCatalog.Proofs.Store.Distinct
import SeriesCatalog.Store.Executor

/-!
# What the questions of a store can see

A key of a query addresses the identity or a path into the fields, however it is spelled.  So
documents with the same identity and the same fields cannot be told apart, and points, which
are kept beside the fields, are never seen.

* `Filter.Built`: a filter that comes from a query text or from conditions given one by one.
* `Document.Alike`: documents with the same identity and the same fields.
* `Document.ApartFromPoints`: the documents of a series that differ in its points at most.
* `Store.SameView`: stores that give the same counts and the same lists of values.

Results:
* `Store.sameView_of_alike`: stores whose documents are alike give the same view.
* `Store.points_invisible`: points make no difference to any question.
-/

namespace SeriesCatalog

/-! ## Keys -/

namespace Filter

inductive Built : Filter → Prop
  | empty : Built .empty
  | require {f : Filter} : Built f → (key text : String) → Built (f.require key text)
  | parsed {text : String} {f : Filter} : Filter.parse text = .ok f → Built f

/-- Every condition stands at the path of a key. -/
theorem Built.exists_key {f : Filter} (h : f.Built) {path text : String}
    (htext : f.get? path = some text) : ∃ key, Series.pathOfKey key = path := by
  induction h with
  | empty => cases htext
  | require _ key _ ih =>
      rw [get?_require] at htext
      split at htext
      · rename_i hpath
        exact ⟨key, hpath⟩
      · exact ih htext
  | parsed hparse =>
      obtain ⟨pairs, -, rfl⟩ := Submission.pairs_of_parse hparse
      obtain ⟨key, hkey, -⟩ := get?_ofPairs.mp htext
      exact ⟨key, hkey⟩

end Filter

namespace Document

variable {d d' : Document}

structure Alike (d d' : Document) : Prop where
  identity : Entries.lookup Series.identityKey d = Entries.lookup Series.identityKey d'
  fields : Entries.lookup Series.fieldsKey d = Entries.lookup Series.fieldsKey d'

namespace Alike

theorem getPath_fieldPath (h : d.Alike d') (name : String) :
    d.getPath (Series.fieldPath name) = d'.getPath (Series.fieldPath name) :=
  getPath_congr (pathKeys_fieldPath name) h.fields

/-- No key tells the documents apart, whatever dots and names it has. -/
theorem getPath_pathOfKey (h : d.Alike d') (key : String) :
    d.getPath (Series.pathOfKey key) = d'.getPath (Series.pathOfKey key) := by
  unfold Series.pathOfKey
  split
  · exact getPath_congr pathKeys_identityKey h.identity
  · exact h.getPath_fieldPath key

theorem matchesDocument_eq (h : d.Alike d') {f : Filter} (hf : f.Built) :
    f.matchesDocument d = f.matchesDocument d' := by
  refine Filter.matchesDocument_congr fun path text htext => ?_
  obtain ⟨key, rfl⟩ := hf.exists_key htext
  exact h.getPath_pathOfKey key

theorem contributions_eq (h : d.Alike d') (spec : Specifier) :
    d.contributions spec.storePath = d'.contributions spec.storePath := by
  cases spec with
  | schemaKeys => exact contributions_congr (getPath_congr pathKeys_fieldsKey h.fields)
  | field name => exact contributions_congr (h.getPath_fieldPath name)

end Alike

/-- Only the document of one series differs, in the value of its points at most. -/
structure ApartFromPoints (id : String) (d d' : Document) : Prop where
  without : Entries.without Series.pointsKey d' = Entries.without Series.pointsKey d
  eq_of_other : Store.identity d ≠ .ok id → d' = d

namespace ApartFromPoints

variable {id : String}

theorem refl (id : String) (d : Document) : ApartFromPoints id d d :=
  ⟨rfl, fun _ => rfl⟩

theorem lookup_eq (h : ApartFromPoints id d d') {key : String} (hkey : key ≠ Series.pointsKey) :
    Entries.lookup key d = Entries.lookup key d' := by
  rw [← Entries.lookup_without hkey d, ← Entries.lookup_without hkey d', h.without]

theorem alike (h : ApartFromPoints id d d') : d.Alike d' :=
  ⟨h.lookup_eq (by decide), h.lookup_eq (by decide)⟩

theorem identity_eq (h : ApartFromPoints id d d') : Store.identity d' = Store.identity d := by
  simp only [Store.identity, h.alike.identity]

/-- Points of a series replace or extend what it has for its points, which may have been
anything. -/
theorem mergeAt (hid : Store.identity d = .ok id) (entries : Document) :
    ApartFromPoints id d (Store.mergeAt Series.pointsKey entries d) := by
  rw [Store.mergeAt_eq_put]
  exact ⟨Entries.without_put _ _ _, fun hother => absurd hid hother⟩

end ApartFromPoints

end Document

/-! ## Questions -/

namespace Store

variable {s s' : Store} {f : Filter}

def SameView (s s' : Store) : Prop :=
  ∀ f : Filter, f.Built → s'.count f = s.count f ∧
    ∀ spec : Specifier, s'.executor.lookup spec f = s.executor.lookup spec f

/-- A filter keeps documents of two stores at the same places if they are alike. -/
theorem matching_forall₂ {R : Document → Document → Prop} (hR : ∀ {d d'}, R d d' → d.Alike d')
    (h : List.Forall₂ R s.documents.toList s'.documents.toList) (hf : f.Built) :
    List.Forall₂ R (s.matching f) (s'.matching f) := by
  refine List.rel_filter ?_ h
  intro d d' hd
  exact Bool.eq_iff_iff.mp ((hR hd).matchesDocument_eq hf)

theorem flatMap_contributions_eq {l l' : List Document} (h : List.Forall₂ Document.Alike l l')
    (spec : Specifier) :
    (l.flatMap fun d => d.contributions spec.storePath) =
      l'.flatMap fun d => d.contributions spec.storePath := by
  induction h with
  | nil => rfl
  | cons hd _ ih => rw [List.flatMap_cons, List.flatMap_cons, hd.contributions_eq spec, ih]

theorem sameView_of_alike (h : List.Forall₂ Document.Alike s.documents.toList s'.documents.toList) :
    SameView s s' := by
  intro f hf
  have hmatching := matching_forall₂ id h hf
  refine ⟨hmatching.length_eq.symm, fun spec => ?_⟩
  have hdistinct : s'.distinct spec.storePath f = s.distinct spec.storePath f := by
    rw [distinct_eq_pushAllNew, distinct_eq_pushAllNew, flatMap_contributions_eq hmatching]
  simp only [Executor.lookup, executor, Outcome.map, hdistinct]

/-! ## Points -/

theorem forall₂_modify {α : Type} {R : α → α → Prop} (hrefl : ∀ a, R a a) {l : Array α}
    {place : Nat} {g : α → α} (hg : ∀ a, l[place]? = some a → R a (g a)) :
    List.Forall₂ R l.toList (l.modify place g).toList := by
  refine List.forall₂_iff_get.mpr ⟨by simp, fun i hi hi' => ?_⟩
  simp only [List.get_eq_getElem, Array.getElem_toList, Array.getElem_modify]
  split
  · rename_i hplace
    subst hplace
    exact hg _ (Array.getElem?_eq_getElem _)
  · exact hrefl _

theorem addPoints_forall₂ (h : s.Consistent) {id : String} (hid : id ∈ s.places)
    (points : List Point) :
    List.Forall₂ (Document.ApartFromPoints id) s.documents.toList
      (s.addPoints id points).documents.toList := by
  obtain ⟨place, hplace⟩ : ∃ place, s.places[id]? = some place :=
    ⟨s.places[id], Std.HashMap.getElem?_eq_some_getElem hid⟩
  obtain ⟨d, hd, hidentity⟩ := h.place_iff.mp hplace
  simp only [addPoints, mergeInto, hplace]
  refine forall₂_modify (.refl id) fun d' hd' => ?_
  cases hd.symm.trans hd'
  exact .mergeAt hidentity _

theorem map_identity_eq {id : String} {l l' : List Document}
    (h : List.Forall₂ (Document.ApartFromPoints id) l l') :
    l'.map identity = l.map identity := by
  induction h with
  | nil => rfl
  | cons hd _ ih => rw [List.map_cons, List.map_cons, hd.identity_eq, ih]

theorem find_forall₂ {id : String}
    (h : List.Forall₂ (Document.ApartFromPoints id) s.documents.toList s'.documents.toList)
    (hf : f.Built) (limit : Limit) :
    (s'.find f limit).matched = (s.find f limit).matched ∧
      List.Forall₂ (Document.ApartFromPoints id) (s.find f limit).documents
        (s'.find f limit).documents := by
  have hmatching := matching_forall₂ Document.ApartFromPoints.alike h hf
  unfold find
  cases limit.cap? with
  | none => exact ⟨hmatching.length_eq.symm, hmatching⟩
  | some n => exact ⟨hmatching.length_eq.symm, List.forall₂_take n hmatching⟩

/-- **Points are invisible to queries.**  After points are added to a series that is present,
every filter counts what it counted, every list of different values is what it was, and a search
finds the same identities in the same order, in documents that differ at most in the points of
that series.  More than that, no key makes anything but the identity and the fields of a document
count: stores whose documents agree in these give the same answers. -/
theorem points_invisible (ws : List Write) {id : String} (hid : id ∈ (run ws).places)
    (points : List Point) :
    SameView (run ws) ((run ws).addPoints id points) ∧
      (∀ f : Filter, f.Built → ∀ limit : Limit,
        (((run ws).addPoints id points).find f limit).matched =
            ((run ws).find f limit).matched ∧
          (((run ws).addPoints id points).find f limit).documents.map identity =
            ((run ws).find f limit).documents.map identity ∧
          List.Forall₂ (Document.ApartFromPoints id) ((run ws).find f limit).documents
            (((run ws).addPoints id points).find f limit).documents) ∧
      ∀ s s' : Store, List.Forall₂ Document.Alike s.documents.toList s'.documents.toList →
        SameView s s' := by
  have hpoints := addPoints_forall₂ (consistent_run ws) hid points
  refine ⟨?_, fun f hf limit => ?_, fun s s' => sameView_of_alike⟩
  · exact sameView_of_alike (hpoints.imp fun _ _ => Document.ApartFromPoints.alike)
  · obtain ⟨hmatched, hdocuments⟩ := find_forall₂ hpoints hf limit
    exact ⟨hmatched, map_identity_eq hdocuments, hdocuments⟩

/-- A series with a text in the place of its points, and a field of the same name. -/
def crooked : List Write :=
  [.insert ⟨List.replicate identifierLength '0', by decide⟩
      [(Series.identityKey, .string "a"), (Series.pointsKey, .string "x")],
    .upsertFields "a" [(Series.pointsKey, .string "x")]]

theorem points_invisible_crooked :
    "a" ∈ (run crooked).places ∧ (Filter.empty.require "points.1" "x").Built ∧
      ((run crooked).addPoints "a" [⟨1000, .nan⟩]).count (Filter.empty.require "points.1" "x") =
        (run crooked).count (Filter.empty.require "points.1" "x") ∧
      ((run crooked).addPoints "a" [⟨1000, .nan⟩]).executor.lookup (.field "points") .empty =
        (run crooked).executor.lookup (.field "points") .empty := by
  have hplace : "a" ∈ (run crooked).places := by
    simp [run, writeAll, crooked, write, insert, named, identified, identity, identityOfValue,
      Entries.contains, Entries.lookup, Series.identityKey, set, empty, append, upsertFields,
      mergeInto]
  have hbuilt : (Filter.empty.require "points.1" "x").Built := .require .empty _ _
  obtain ⟨hview, -, -⟩ := points_invisible crooked hplace [⟨1000, .nan⟩]
  exact ⟨hplace, hbuilt, (hview _ hbuilt).1, (hview _ .empty).2 _⟩

end Store
end SeriesCatalog
