import SeriesCatalog.Proofs.Store.Rearrangement

/-!
# Ingestion in any order

A step of ingestion gives a series fields or points.  What it makes of its own part of its own
series depends on that part alone, and it changes no other.  So the value of a part is what its
own steps make of it, whatever came between them.

* `Ingestion`: a step, with the series and the part that it concerns.
* `Ingestion.onto`: what a step makes of the value of its part.
* `Reordering`: the same steps in an order in which those of each part come as before.

Results:
* `Contents.valueAt_ingest`: the value of a part after steps.
* `Store.ingestion_any_order`: reordered steps come to the same documents and answers.
-/

namespace SeriesCatalog

inductive Ingestion
  | fields (id : String) (fields : Document)
  | points (id : String) (points : List Store.Point)

namespace Ingestion

def id : Ingestion → String
  | fields id _ => id
  | points id _ => id

/-- The key of the part that a step concerns. -/
def part : Ingestion → String
  | fields _ _ => Series.fieldsKey
  | points _ _ => Series.pointsKey

def entries : Ingestion → Document
  | .fields _ m => m
  | .points _ l => Store.entriesOfPoints l

def write : Ingestion → Write
  | .fields id m => .upsertFields id m
  | .points id l => .addPoints id l

def edit (x : Ingestion) : Edit :=
  .merge x.id x.part x.entries

def on (id part : String) (x : Ingestion) : Bool :=
  x.id = id && x.part = part

/-- Entries are merged into a document.  Any other value gives way to them. -/
def onto (old? : Option Value) (x : Ingestion) : Option Value :=
  let old : Document := match old? with
    | some (.document m) => m
    | _ => []
  some (.document (Entries.merge old x.entries))

theorem edits_write (x : Ingestion) : x.write.edits = [x.edit] := by
  cases x <;> rfl

end Ingestion

structure Reordering (xs ys : List Ingestion) : Prop where
  perm : xs.Perm ys
  kept : ∀ id part, xs.filter (Ingestion.on id part) = ys.filter (Ingestion.on id part)

/-! ## Parts -/

namespace Contents

variable {m m' : Contents} {id key : String}

def ingest (m : Contents) (xs : List Ingestion) : Contents :=
  xs.foldl (fun m x => m.edit x.edit) m

theorem ingest_cons (m : Contents) (x : Ingestion) (xs : List Ingestion) :
    m.ingest (x :: xs) = (m.edit x.edit).ingest xs := rfl

/-- The value at a key of the document of a series, which is new if there is none. -/
def valueAt (m : Contents) (id key : String) : Option Value :=
  Entries.lookup key ((m id).getD (Store.newSeries id))

theorem valueAt_edit (m : Contents) (x : Ingestion) (id key : String) :
    (m.edit x.edit).valueAt id key =
      if x.on id key then Ingestion.onto (m.valueAt id key) x else m.valueAt id key := by
  by_cases hid : x.id = id
  · subst hid
    by_cases hpart : x.part = key
    · subst hpart
      simp only [valueAt, edit, Ingestion.edit, Edit.id, Edit.change, if_true, Option.getD_some,
        Entries.lookup_put, Ingestion.on, decide_true, Bool.and_self]
      rfl
    · simp [valueAt, edit, Ingestion.edit, Edit.id, Edit.change, Ingestion.on, hpart,
        Store.newSeries]
  · have hother : ¬id = x.edit.id := fun h => hid h.symm
    simp [valueAt, edit, Ingestion.on, hid, hother]

/-- **The value of a part is what its own steps make of it**, whatever came between them. -/
theorem valueAt_ingest (xs : List Ingestion) (m : Contents) (id key : String) :
    (m.ingest xs).valueAt id key =
      (xs.filter (Ingestion.on id key)).foldl Ingestion.onto (m.valueAt id key) := by
  induction xs generalizing m with
  | nil => rfl
  | cons x xs ih =>
      rw [ingest_cons, ih, valueAt_edit]
      by_cases hon : x.on id key = true
      · rw [if_pos hon, List.filter_cons_of_pos hon, List.foldl_cons]
      · rw [if_neg hon, List.filter_cons_of_neg hon]

theorem ingest_eq_none_iff (xs : List Ingestion) (m : Contents) (id : String) :
    m.ingest xs id = none ↔ m id = none ∧ ∀ x ∈ xs, x.id ≠ id := by
  induction xs generalizing m with
  | nil => simp [ingest]
  | cons x xs ih =>
      rw [ingest_cons, ih]
      by_cases hid : x.id = id
      · simp [edit, Ingestion.edit, Edit.id, hid]
      · simp [edit, Ingestion.edit, Edit.id, hid, Ne.symm hid]

/-- Documents with the same value in every part are the same map. -/
theorem rel_of_valueAt (hnone : m id = none ↔ m' id = none)
    (hvalue : ∀ key, m.valueAt id key = m'.valueAt id key) :
    Option.Rel Document.SameMap (m id) (m' id) := by
  cases hd : m id with
  | none =>
      rw [hnone.mp hd]
      exact .none
  | some d =>
      cases hd' : m' id with
      | none =>
          rw [hnone.mpr hd'] at hd
          cases hd
      | some d' =>
          refine .some fun key => ?_
          simpa [valueAt, hd, hd'] using hvalue key

theorem rel_of_reordering {xs ys : List Ingestion} (h : Reordering xs ys) (m : Contents)
    (id : String) :
    Option.Rel Document.SameMap (m.ingest xs id) (m.ingest ys id) := by
  refine rel_of_valueAt ?_ fun key => ?_
  · rw [ingest_eq_none_iff, ingest_eq_none_iff]
    simp only [h.perm.mem_iff]
  · rw [valueAt_ingest, valueAt_ingest, h.kept]

end Contents

/-! ## Stores -/

namespace Store

variable {s : Store} {id key : String}

def ingest (s : Store) (xs : List Ingestion) : Store :=
  s.writeAll (xs.map Ingestion.write)

/-- The value at a key of the document of a series, if there is one. -/
def valueAt? (s : Store) (id key : String) : Option Value :=
  (s.documentOf? id).bind (Entries.lookup key)

theorem ingest_run (before : List Write) (xs : List Ingestion) :
    (run before).ingest xs = run (before ++ xs.map Ingestion.write) := by
  simp only [ingest, run, writeAll, List.foldl_append]

theorem contents_append (before : List Write) (xs : List Ingestion) :
    contents (before ++ xs.map Ingestion.write) = (contents before).ingest xs := by
  simp only [contents, Contents.ingest, editsOf, List.flatMap_append, List.flatMap_map,
    List.foldl_append, List.foldl_flatMap, Ingestion.edits_write, List.foldl_cons, List.foldl_nil]

theorem valueAt?_eq (ws : List Write) (hkey : key ≠ Series.identityKey) :
    (run ws).valueAt? id key = (contents ws).valueAt id key := by
  rw [valueAt?, (represents_run ws).documentOf?_eq]
  cases hd : contents ws id with
  | none => simp [Contents.valueAt, hd, newSeries, Entries.lookup, Ne.symm hkey]
  | some d => simp [Contents.valueAt, hd]

/-- Identities with a document come in another order at most. -/
theorem arrivals_perm {ws ws' : List Write}
    (h : ∀ id, Option.Rel Document.SameMap (contents ws id) (contents ws' id)) :
    (arrivals ws).Perm (arrivals ws') := by
  have hnone : ∀ {a b : Option Document}, Option.Rel Document.SameMap a b →
      (a = none ↔ b = none) := by
    rintro _ _ (_ | _) <;> simp
  have hmem : ∀ id, id ∈ arrivals ws ↔ id ∈ arrivals ws' := by
    intro id
    rw [← not_iff_not, ← (represents_run ws).eq_none_iff, ← (represents_run ws').eq_none_iff]
    exact hnone (h id)
  exact (List.perm_ext_iff_of_nodup (FirstOccurrences.nodup_eraseDups _)
    (FirstOccurrences.nodup_eraseDups _)).mpr hmem

theorem rel_contents {xs ys : List Ingestion} (h : Reordering xs ys) (before : List Write)
    (id : String) :
    Option.Rel Document.SameMap (contents (before ++ xs.map Ingestion.write) id)
      (contents (before ++ ys.map Ingestion.write) id) := by
  rw [contents_append, contents_append]
  exact Contents.rel_of_reordering h _ id

theorem wellKeyed_ingest {before : List Write} (hbefore : ∀ w ∈ before, w.WellKeyed)
    {xs : List Ingestion} (hxs : ∀ x ∈ xs, x.write.WellKeyed) :
    ∀ d ∈ ((run before).ingest xs).documents, d.WellKeyed := by
  rw [ingest_run]
  intro d hd
  refine wellKeyed_run (fun w hw => ?_) hd
  rcases List.mem_append.mp hw with hw | hw
  · exact hbefore w hw
  · obtain ⟨x, hx, rfl⟩ := List.mem_map.mp hw
    exact hxs x hx

/-- **Ingestion order matters only per series and part.**  If steps are taken in another order
in which those of each series and part come as before, the store ends with the same identities,
with a document under each that is the same map, and with the same counts and names of fields
for every filter.  And what a part holds in the end its own steps made of it: nothing of them is
lost, and no other step has a share in it. -/
theorem ingestion_any_order {before : List Write} (hbefore : ∀ w ∈ before, w.WellKeyed)
    {xs ys : List Ingestion} (hxs : ∀ x ∈ xs, x.write.WellKeyed) (h : Reordering xs ys) :
    (∀ id, id ∈ ((run before).ingest xs).places ↔ id ∈ ((run before).ingest ys).places) ∧
      (∀ id, Option.Rel Document.SameMap (((run before).ingest xs).documentOf? id)
        (((run before).ingest ys).documentOf? id)) ∧
      (∀ f : Filter, ((run before).ingest xs).count f = ((run before).ingest ys).count f ∧
        ((run before).ingest xs).executor.lookup .schemaKeys f =
          ((run before).ingest ys).executor.lookup .schemaKeys f) ∧
      ∀ id key, key ≠ Series.identityKey →
        ((run before).ingest xs).valueAt? id key =
          (xs.filter (Ingestion.on id key)).foldl Ingestion.onto
            ((run before).valueAt? id key) := by
  have hx := represents_run (before ++ xs.map Ingestion.write)
  have hy := represents_run (before ++ ys.map Ingestion.write)
  have hrel := rel_contents h before
  have horder := arrivals_perm hrel
  have hrearranged := rearranged_of_represents hx hy horder hrel
  have hwellKeyedX := wellKeyed_ingest hbefore hxs
  have hwellKeyedY := wellKeyed_ingest hbefore fun y hy => hxs y (h.perm.mem_iff.mpr hy)
  simp only [ingest_run] at hwellKeyedX hwellKeyedY ⊢
  refine ⟨fun id => ?_, fun id => ?_, fun f => ⟨hrearranged.count_eq f, ?_⟩, fun id key hkey => ?_⟩
  · rw [hx.mem_places_iff, hy.mem_places_iff, horder.mem_iff]
  · rw [hx.documentOf?_eq, hy.documentOf?_eq]
    exact hrel id
  · exact hrearranged.schemaKeys_eq hwellKeyedX hwellKeyedY f
  · rw [valueAt?_eq _ hkey, valueAt?_eq _ hkey, contents_append, Contents.valueAt_ingest]

/-- Fields for one series, then points for another and for the same one. -/
def threeSteps : List Ingestion :=
  [.fields "a" [("city", .string "Recife")], .points "b" [⟨1000, .nan⟩],
    .points "a" [⟨2000, .nan⟩]]

/-- The same with the fields last. -/
def fieldsLast : List Ingestion :=
  [.points "b" [⟨1000, .nan⟩], .points "a" [⟨2000, .nan⟩],
    .fields "a" [("city", .string "Recife")]]

theorem ingestion_any_order_fieldsLast :
    Reordering threeSteps fieldsLast ∧ (∀ x ∈ threeSteps, x.write.WellKeyed) ∧
      ((run []).ingest threeSteps).count (Filter.empty.require "city" "Recife") =
        ((run []).ingest fieldsLast).count (Filter.empty.require "city" "Recife") := by
  have hreordering : Reordering threeSteps fieldsLast := by
    refine ⟨(List.perm_append_singleton _ [_, _]).symm, fun id part => ?_⟩
    by_cases hpart : Series.fieldsKey = part
    · subst hpart
      have hpoints : ¬Series.pointsKey = Series.fieldsKey := by decide
      simp [threeSteps, fieldsLast, List.filter_cons, Ingestion.on, Ingestion.part, hpoints]
    · simp [threeSteps, fieldsLast, List.filter_cons, Ingestion.on, Ingestion.part, hpart]
  have hwellKeyed : ∀ x ∈ threeSteps, x.write.WellKeyed := by
    have hcity : Document.WellKeyed [("city", .string "Recife")] :=
      Document.wellKeyed_nil.put (by trivial) "city"
    simp [threeSteps, Ingestion.write, Write.WellKeyed, hcity]
  have hbefore : ∀ w ∈ ([] : List Write), w.WellKeyed := by simp
  obtain ⟨-, -, hanswers, -⟩ := ingestion_any_order hbefore hwellKeyed hreordering
  exact ⟨hreordering, hwellKeyed, (hanswers _).1⟩

end Store
end SeriesCatalog
