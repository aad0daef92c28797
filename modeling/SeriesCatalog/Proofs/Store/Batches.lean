import Std.Data.String.ToInt
import SeriesCatalog.Proofs.Store.Ingestion

/-!
# Merging at once and one by one

Points of a batch are collected before they are merged, those of single steps are merged as they
come.  Fields may be merged in two steps, or after the later ones have overridden the earlier.
It is the same store in the end, with the same index and everything in the same order.

* `Point.FallsIn`, `LastIn`: the second of a point, and the last point in a second.
* `entriesAt`: the entries at a key of a series.

Results:
* `mergeInto_mergeInto`: two merges are one merge of what they come to.
* `addPoints_concat`: a point after a batch is one more point in it.
* `batch_eq_one_by_one`: the same store, and the values in it.
-/

namespace SeriesCatalog
namespace Store

variable {id key : String} {s : Store}

/-! ## Two merges -/

/-- The second merge finds what the first one left. -/
theorem mergeAt_mergeAt (key : String) {a : Document} (ha : (Entries.keys a).Nodup)
    (b d : Document) : mergeAt key b (mergeAt key a d) = mergeAt key (Entries.merge a b) d := by
  rw [mergeAt_eq_put key a, mergeAt_eq_put key b, mergeAt_eq_put key (Entries.merge a b),
    subdocument_put, Entries.put_put_self, Entries.merge_merge _ b ha]

theorem modify_modify (docs : Array Document) (place : Nat) (f g : Document → Document) :
    (docs.modify place f).modify place g = docs.modify place fun d => g (f d) := by
  apply Array.ext_getElem?
  intro i
  simp only [Array.getElem?_modify]
  split
  · rw [Option.map_map]
    rfl
  · rfl

/-- A document that has been added is changed at its place. -/
theorem modify_push (docs : Array Document) (d : Document) (f : Document → Document) :
    (docs.push d).modify docs.size f = docs.push (f d) := by
  apply Array.ext_getElem?
  intro i
  simp only [Array.getElem?_modify, Array.getElem?_push]
  by_cases hi : docs.size = i
  · simp [hi]
  · have hne : ¬i = docs.size := Ne.symm hi
    simp [hi, hne]

/-- **Two merges into a series are one merge of what they come to**, be the series new or not. -/
theorem mergeInto_mergeInto (s : Store) (id key : String) {a : Document}
    (ha : (Entries.keys a).Nodup) (b : Document) :
    (s.mergeInto id key a).mergeInto id key b = s.mergeInto id key (Entries.merge a b) := by
  cases hplace : s.places[id]? with
  | some place =>
      simp only [mergeInto, hplace, modify_modify, mergeAt_mergeAt key ha]
  | none =>
      -- The first merge gives the series its place, and the second one finds it there.
      simp only [mergeInto, hplace, append, Std.HashMap.getElem?_insert_self, modify_push,
        mergeAt_mergeAt key ha]

/-! ## Points -/

theorem entriesOfPoints_concat (l : List Point) (p : Point) :
    entriesOfPoints (l ++ [p]) = Entries.merge (entriesOfPoints l) (entriesOfPoints [p]) := by
  simp [entriesOfPoints, Entries.merge, Entries.put]

theorem nodup_keys_entriesOfPoints (l : List Point) :
    (Entries.keys (entriesOfPoints l)).Nodup :=
  (wellKeyed_entriesOfPoints l).nodup

/-- **A point after a batch is one more point in it.** -/
theorem addPoints_concat (s : Store) (id : String) (l : List Point) (p : Point) :
    s.addPoints id (l ++ [p]) = (s.addPoints id l).addPoint id p := by
  simp only [addPoint, addPoints, entriesOfPoints_concat,
    mergeInto_mergeInto s id _ (nodup_keys_entriesOfPoints l)]

theorem addPoints_append (s : Store) (id : String) (l rest : List Point) :
    s.addPoints id (l ++ rest) = rest.foldl (fun s p => s.addPoint id p) (s.addPoints id l) := by
  induction rest generalizing l with
  | nil => simp
  | cons p rest ih =>
      have hshift : l ++ p :: rest = (l ++ [p]) ++ rest := by simp
      rw [hshift, ih, addPoints_concat, List.foldl_cons]

/-- Points are merged at once or one by one, if there are any. -/
theorem addPoints_eq_foldl (s : Store) (id : String) {points : List Point} (h : points ≠ []) :
    s.addPoints id points = points.foldl (fun s p => s.addPoint id p) s := by
  obtain ⟨p, rest, rfl⟩ := List.exists_cons_of_ne_nil h
  exact addPoints_append s id [p] rest

/-- The instant of a point lies in a second, which begins at a whole number of them before or
after 1970. -/
def Point.FallsIn (p : Point) (second : Int) : Prop :=
  second * 1000 ≤ p.instant ∧ p.instant < (second + 1) * 1000

theorem Point.key_eq_iff {p : Point} {second : Int} :
    p.key = toString second ↔ p.FallsIn second := by
  have hfloor : Int.fdiv p.instant 1000 = p.instant / 1000 :=
    Int.fdiv_eq_ediv_of_nonneg _ (by decide)
  rw [Point.key, hfloor, Int.toString_eq_repr, Int.toString_eq_repr, Int.repr_inj, FallsIn]
  omega

/-- The last of the points in a second. -/
def LastIn (points : List Point) (second : Int) (p : Point) : Prop :=
  ∃ before after, points = before ++ p :: after ∧ p.FallsIn second ∧
    ∀ q ∈ after, ¬ q.FallsIn second

/-- The value of a second, after a batch, is that of the last point in it. -/
theorem lookup_entriesOfPoints_last (old : Document) {points : List Point} {second : Int}
    {p : Point} (h : LastIn points second p) :
    Entries.lookup (toString second) (Entries.merge old (entriesOfPoints points)) =
      some (.double p.value) := by
  obtain ⟨before, after, rfl, hp, hafter⟩ := h
  have hlast : Entries.lookup (toString second) (entriesOfPoints (before ++ p :: after)) =
      some (.double p.value) := by
    have hnone :
        toString second ∉ Entries.keys (after.map fun q => (q.key, Value.double q.value)) := by
      intro hmem
      simp only [Entries.keys, List.map_map, List.mem_map, Function.comp_apply] at hmem
      obtain ⟨q, hq, hkey⟩ := hmem
      exact hafter q hq (Point.key_eq_iff.mp hkey)
    rw [entriesOfPoints, List.map_append, List.map_cons, Point.key_eq_iff.mpr hp]
    exact Entries.lookup_merge_last _ _ hnone
  rw [Entries.lookup_merge old (nodup_keys_entriesOfPoints _), hlast, Option.some_or]

/-- A key of no second in which a point falls keeps its value. -/
theorem lookup_entriesOfPoints_other (old : Document) {points : List Point} {k : String}
    (h : ∀ p ∈ points, ∀ second, p.FallsIn second → toString second ≠ k) :
    Entries.lookup k (Entries.merge old (entriesOfPoints points)) = Entries.lookup k old := by
  have hnone : Entries.lookup k (entriesOfPoints points) = none := by
    have hnew : k ∉ Entries.keys (points.map fun q => (q.key, Value.double q.value)) := by
      intro hmem
      simp only [Entries.keys, List.map_map, List.mem_map, Function.comp_apply] at hmem
      obtain ⟨p, hp, hkey⟩ := hmem
      exact h p hp _ (Point.key_eq_iff.mp rfl) hkey
    exact Entries.lookup_merge_of_not_mem [] hnew
  rw [Entries.lookup_merge old (nodup_keys_entriesOfPoints _), hnone, Option.none_or]

/-! ## What a series holds in the end -/

/-- The entries at a key of a series.  There are none if it has another value there, or if there
is no such series. -/
def entriesAt (s : Store) (id key : String) : Document :=
  match s.valueAt? id key with
  | some (.document m) => m
  | _ => []

/-- After a step of ingestion the part that it concerns holds its entries merged into the old
ones. -/
theorem valueAt?_ingest (ws : List Write) (x : Ingestion) :
    ((run ws).write x.write).valueAt? x.id x.part =
      some (.document (Entries.merge ((run ws).entriesAt x.id x.part) x.entries)) := by
  have hpart : x.part ≠ Series.identityKey := by
    cases x with
    | fields => exact (by decide : Series.fieldsKey ≠ Series.identityKey)
    | points => exact (by decide : Series.pointsKey ≠ Series.identityKey)
  have hrun : (run ws).write x.write = run (ws ++ [x].map Ingestion.write) := by
    simp [run, writeAll, List.foldl_append]
  have hon : [x].filter (Ingestion.on x.id x.part) = [x] := by
    simp [Ingestion.on]
  rw [hrun, valueAt?_eq _ hpart, contents_append, Contents.valueAt_ingest, hon, entriesAt,
    valueAt?_eq _ hpart]
  rfl

/-- **Merging at once is merging one by one.**  The points of a batch leave the store that the
same points leave one after the other, and fields in two steps the one that the first fields leave
when the second ones have overridden them: the same documents in the same order, with their keys in
the same order, and the same index.  Each second in which points fall then has the value of the
last of them, each field that is given the last value given, and all other keys what they had. -/
theorem batch_eq_one_by_one (ws : List Write) (id : String) :
    (∀ points, points ≠ [] →
      (run ws).addPoints id points = points.foldl (fun s p => s.addPoint id p) (run ws)) ∧
    (∀ a b : Document, (Entries.keys a).Nodup →
      ((run ws).upsertFields id a).upsertFields id b =
        (run ws).upsertFields id (Entries.merge a b)) ∧
    (∀ points, ∃ m,
      ((run ws).addPoints id points).valueAt? id Series.pointsKey = some (.document m) ∧
      (∀ second p, LastIn points second p →
        Entries.lookup (toString second) m = some (.double p.value)) ∧
      ∀ key, (∀ p ∈ points, ∀ second, p.FallsIn second → toString second ≠ key) →
        Entries.lookup key m = Entries.lookup key ((run ws).entriesAt id Series.pointsKey)) ∧
    ∀ a b : Document, (Entries.keys a).Nodup → (Entries.keys b).Nodup → ∃ m,
      ((run ws).upsertFields id (Entries.merge a b)).valueAt? id Series.fieldsKey =
        some (.document m) ∧
      ∀ key, Entries.lookup key m = ((Entries.lookup key b).or (Entries.lookup key a)).or
        (Entries.lookup key ((run ws).entriesAt id Series.fieldsKey)) := by
  refine ⟨fun points h => addPoints_eq_foldl _ id h,
    fun a b ha => mergeInto_mergeInto _ id _ ha b, fun points => ?_, fun a b ha hb => ?_⟩
  · refine ⟨_, valueAt?_ingest ws (.points id points), fun second p h => ?_, fun key h => ?_⟩
    · exact lookup_entriesOfPoints_last _ h
    · exact lookup_entriesOfPoints_other _ h
  · refine ⟨_, valueAt?_ingest ws (.fields id (Entries.merge a b)), fun key => ?_⟩
    have hmerged : (Entries.keys (Entries.merge a b)).Nodup := Entries.nodup_keys_merge ha
    calc Entries.lookup key (Entries.merge _ (Entries.merge a b))
        = (Entries.lookup key (Entries.merge a b)).or (Entries.lookup key _) :=
          Entries.lookup_merge _ hmerged key
      _ = _ := by rw [Entries.lookup_merge a hb]; rfl

/-- A series with a text in the place of its points. -/
def unsampled : List Write :=
  [.insert (.ofNat 0)
    [("_id", .string "a"), ("points", .string "none"), ("fields", .document [("age", .null)])]]

/-- Points in the last second before 1970, in the first one after it, and in the former again. -/
def sampled : List Point :=
  [⟨-1, .nan⟩, ⟨0, .zero true⟩, ⟨-1000, .infinite false⟩]

theorem batch_eq_one_by_one_sampled :
    sampled ≠ [] ∧ LastIn sampled (-1) ⟨-1000, .infinite false⟩ ∧
      (run unsampled).addPoints "a" sampled =
        (((run unsampled).addPoint "a" ⟨-1, .nan⟩).addPoint "a" ⟨0, .zero true⟩).addPoint "a"
          ⟨-1000, .infinite false⟩ ∧
      (∃ m, ((run unsampled).addPoints "a" sampled).valueAt? "a" "points" = some (.document m) ∧
        Entries.lookup "-1" m = some (.double (.infinite false))) ∧
      ((run unsampled).upsertFields "a" [("city", .string "Recife")]).upsertFields "a"
          [("sexo", .string "F"), ("city", .string "Natal")] =
        (run unsampled).upsertFields "a" [("city", .string "Natal"), ("sexo", .string "F")] ∧
      ∃ m, ((run unsampled).upsertFields "a"
          [("city", .string "Natal"), ("sexo", .string "F")]).valueAt? "a" "fields" =
            some (.document m) ∧
        Entries.lookup "city" m = some (.string "Natal") := by
  have hne : sampled ≠ [] := by simp [sampled]
  have hlast : LastIn sampled (-1) ⟨-1000, .infinite false⟩ :=
    ⟨[⟨-1, .nan⟩, ⟨0, .zero true⟩], [], rfl, by simp [Point.FallsIn], by simp⟩
  obtain ⟨hpoints, hfields, hsecond, hmerged⟩ := batch_eq_one_by_one unsampled "a"
  refine ⟨hne, hlast, hpoints sampled hne, ?_, ?_, ?_⟩
  · obtain ⟨m, hm, hvalue, -⟩ := hsecond sampled
    exact ⟨m, hm, hvalue (-1) _ hlast⟩
  · exact hfields [("city", .string "Recife")] [("sexo", .string "F"), ("city", .string "Natal")]
      (by decide)
  · obtain ⟨m, hm, hvalue⟩ := hmerged [("city", .string "Recife")]
      [("sexo", .string "F"), ("city", .string "Natal")] (by decide) (by decide)
    exact ⟨m, hm, hvalue "city"⟩

end Store
end SeriesCatalog
