import Mathlib.Data.List.Induction
import SeriesCatalog.Proofs.Document.Equivalence
import SeriesCatalog.Proofs.Store.Distinct
import SeriesCatalog.Proofs.Store.Keys

/-!
# Different values as first contributions

Documents contribute the values at the end of a path.  A contribution has a place: the number of
its document, and the number of its item if the value is a list.  A value is listed for the first
of the contributions that are equal to it, and for no other.

Device: the list of all contributions in order.  One more contribution at its end is a first one
or not, and those before it stay what they are.

* `Contribution`: a value with its place; `Contribution.Before` is their order.
* `Contributed`: the contributions of documents.
* `ListsFirst`: a list holds the values of the first contributions in order.

Results:
* `Contribution.pushAllNew_eq_first`: the values that are collected are those of the first
  contributions.
* `Store.distinct_lists_first`: the different values of a filter and a path are those of the
  first contributions of the documents that a search finds.
-/

namespace SeriesCatalog

structure Contribution where
  /-- The number of the document. -/
  document : Nat
  /-- The number of the item in a list, and zero for another value. -/
  item : Nat
  value : Value

/-- The contributions of documents at a path: the items of a list, which stay whole if they are
lists themselves, or the value. -/
inductive Contributed (docs : List Document) (path : String) : Contribution → Prop
  | value {n : Nat} {d : Document} {v : Value} (hd : docs[n]? = some d)
      (hpath : d.getPath path = some v) (hlist : ∀ items, v ≠ .array items) :
      Contributed docs path ⟨n, 0, v⟩
  | item {n k : Nat} {d : Document} {items : List Value} {v : Value} (hd : docs[n]? = some d)
      (hpath : d.getPath path = some (.array items)) (hitem : items[k]? = some v) :
      Contributed docs path ⟨n, k, v⟩

namespace Contribution

/-- The order of the documents, and within a document that of the items. -/
def Before (c c' : Contribution) : Prop :=
  c.document < c'.document ∨ c.document = c'.document ∧ c.item < c'.item

instance (c c' : Contribution) : Decidable (c.Before c') :=
  inferInstanceAs (Decidable (_ ∨ _))

theorem Before.asymm {c c' : Contribution} (h : c.Before c') : ¬ c'.Before c := by
  unfold Before at *
  omega

/-- Whether no contribution before this one has an equal value. -/
def isFirst (l : List Contribution) (c : Contribution) : Bool :=
  l.all fun c' => !(decide (c'.Before c) && c'.value.same c.value)

theorem isFirst_iff {l : List Contribution} {c : Contribution} :
    isFirst l c = true ↔ ∀ c' ∈ l, c'.Before c → c'.value.same c.value = false := by
  simp [isFirst, imp_iff_not_or]

/-! ## Collecting the values of contributions -/

section Collect

variable {l : List Contribution} {last : Contribution}

/-- A contribution at the end is before no other one. -/
theorem isFirst_concat {c : Contribution} (hc : c.Before last) :
    isFirst (l ++ [last]) c = isFirst l c := by
  simp [isFirst, hc.asymm]

theorem isFirst_last (hlast : ∀ c ∈ l, c.Before last) :
    isFirst (l ++ [last]) last = true ↔ ∀ c ∈ l, c.value.same last.value = false := by
  have hself : ¬ last.Before last := fun h => h.asymm h
  rw [isFirst_iff, List.forall_mem_append, List.forall_mem_singleton]
  constructor
  · intro h c hc
    exact h.1 c hc (hlast c hc)
  · exact fun h => ⟨fun c hc _ => h c hc, fun h => absurd h hself⟩

/-- Among the values collected there is one that equals a further value exactly if there is one
among all contributions.  What was not collected has an equal value that was. -/
theorem any_pushAllNew_iff {v : Value} :
    ((Value.pushAllNew [] (l.map value)).any fun w => w.same v) = true ↔
      ∃ c ∈ l, c.value.same v = true := by
  rw [List.any_eq_true]
  constructor
  · rintro ⟨w, hw, hsame⟩
    obtain ⟨c, hc, rfl⟩ := List.mem_map.mp ((Value.mem_pushAllNew hw).resolve_left (by simp))
    exact ⟨c, hc, hsame⟩
  · rintro ⟨c, hc, hsame⟩
    obtain ⟨w, hw, hwc⟩ : ∃ w ∈ Value.pushAllNew [] (l.map value),
        w = c.value ∨ w.same c.value = true :=
      Value.exists_mem_pushAllNew (List.mem_map_of_mem hc)
    rcases hwc with rfl | hwc
    · exact ⟨_, hw, hsame⟩
    · exact ⟨w, hw, Value.same_trans hwc hsame⟩

/-- **The values that are collected are those of the first contributions**, in order. -/
theorem pushAllNew_eq_first (hl : l.Pairwise Before) :
    Value.pushAllNew [] (l.map value) = (l.filter (isFirst l)).map value := by
  induction l using List.reverseRecOn with
  | nil => rfl
  | append_singleton l last ih =>
      obtain ⟨hl, -, hlast⟩ := List.pairwise_append.mp hl
      have hbefore : ∀ c ∈ l, c.Before last := fun c hc => hlast c hc last (by simp)
      have hpush : Value.pushAllNew [] ((l ++ [last]).map value) =
          Value.pushNew (Value.pushAllNew [] (l.map value)) last.value := by
        rw [List.map_append, Value.pushAllNew, List.foldl_append]
        rfl
      have hkept : l.filter (isFirst (l ++ [last])) = l.filter (isFirst l) :=
        List.filter_congr fun c hc => isFirst_concat (hbefore c hc)
      rw [hpush, Value.pushNew, List.filter_append, hkept, List.map_append, ← ih hl]
      by_cases hfirst : isFirst (l ++ [last]) last = true
      · have hnone : ¬ ∃ c ∈ l, c.value.same last.value = true := by
          rintro ⟨c, hc, hsame⟩
          exact Bool.eq_false_iff.mp ((isFirst_last hbefore).mp hfirst c hc) hsame
        rw [if_neg (mt any_pushAllNew_iff.mp hnone), List.filter_cons_of_pos hfirst]
        rfl
      · have hsome : ∃ c ∈ l, c.value.same last.value = true := by
          by_contra hnone
          refine hfirst ((isFirst_last hbefore).mpr fun c hc => ?_)
          exact Bool.eq_false_iff.mpr fun hsame => hnone ⟨c, hc, hsame⟩
        rw [if_pos (any_pushAllNew_iff.mpr hsome), List.filter_cons_of_neg hfirst]
        simp

end Collect

/-! ## The contributions of documents in order -/

/-- The contributions of documents at a path, in order. -/
def all (docs : List Document) (path : String) : List Contribution :=
  docs.zipIdx.flatMap fun e =>
    (e.1.contributions path).zipIdx.map fun e' => ⟨e.2, e'.2, e'.1⟩

variable {docs : List Document} {path : String} {c : Contribution}

theorem pairwise_zipIdx {α : Type} (l : List α) : l.zipIdx.Pairwise fun e e' => e.2 < e'.2 := by
  apply List.pairwise_map.mp
  rw [List.zipIdx_map_snd]
  exact List.pairwise_lt_range'

theorem pairwise_all (docs : List Document) (path : String) :
    (all docs path).Pairwise Before := by
  refine List.pairwise_flatMap.mpr ⟨fun e _ => ?_, (pairwise_zipIdx docs).imp fun hlt => ?_⟩
  · refine List.pairwise_map.mpr ((pairwise_zipIdx _).imp fun hlt => ?_)
    exact .inr ⟨rfl, hlt⟩
  · intro c hc c' hc'
    obtain ⟨_, -, rfl⟩ := List.mem_map.mp hc
    obtain ⟨_, -, rfl⟩ := List.mem_map.mp hc'
    exact .inl hlt

theorem map_value_all (docs : List Document) (path : String) :
    (all docs path).map value = docs.flatMap fun d => d.contributions path := by
  have hvalues : ∀ e : Document × Nat,
      ((e.1.contributions path).zipIdx.map fun e' => (⟨e.2, e'.2, e'.1⟩ : Contribution)).map value =
        e.1.contributions path := by
    intro e
    rw [List.map_map]
    exact List.zipIdx_map_fst 0 _
  have hdocuments : docs.flatMap (fun d => d.contributions path) =
      docs.zipIdx.flatMap fun e => e.1.contributions path := by
    rw [← List.flatMap_map Prod.fst (fun d : Document => d.contributions path),
      List.zipIdx_map_fst]
  simp only [all, List.map_flatMap, hvalues, hdocuments]

theorem mem_all : c ∈ all docs path ↔
    ∃ d, docs[c.document]? = some d ∧ (d.contributions path)[c.item]? = some c.value := by
  rw [all, List.mem_flatMap]
  constructor
  · rintro ⟨⟨d, n⟩, hd, hc⟩
    obtain ⟨⟨v, k⟩, hv, rfl⟩ := List.mem_map.mp hc
    exact ⟨d, List.mk_mem_zipIdx_iff_getElem?.mp hd, List.mk_mem_zipIdx_iff_getElem?.mp hv⟩
  · rintro ⟨d, hd, hv⟩
    exact ⟨(d, c.document), List.mk_mem_zipIdx_iff_getElem?.mpr hd,
      List.mem_map.mpr ⟨(c.value, c.item), List.mk_mem_zipIdx_iff_getElem?.mpr hv, rfl⟩⟩

theorem mem_all_iff : c ∈ all docs path ↔ Contributed docs path c := by
  obtain ⟨n, k, v⟩ := c
  rw [mem_all]
  constructor
  · rintro ⟨d, hd, hitem⟩
    cases hpath : d.getPath path with
    | none => simp [Document.contributions, hpath] at hitem
    | some w =>
        cases w with
        | array items => exact .item hd hpath (by simpa [Document.contributions, hpath] using hitem)
        | _ =>
            simp only [Document.contributions, hpath, List.getElem?_singleton] at hitem
            split at hitem
            · rename_i hzero
              cases hitem
              cases hzero
              exact .value hd hpath (by simp)
            · cases hitem
  · intro h
    cases h with
    | value hd hpath hlist =>
        refine ⟨_, hd, ?_⟩
        unfold Document.contributions
        split
        · rename_i items hitems
          exact absurd (Option.some.inj (hpath.symm.trans hitems)) (hlist items)
        · rename_i w _ hw
          exact hw.symm.trans hpath
        · rename_i hnone
          cases hnone.symm.trans hpath
    | item hd hpath hitem => exact ⟨_, hd, by simpa [Document.contributions, hpath] using hitem⟩

end Contribution

/-! ## Lists of first contributions -/

/-- A list holds the values of the first contributions of documents, in order. -/
structure ListsFirst (docs : List Document) (path : String) (l : List Value) : Prop where
  /-- What is contributed and equals itself is listed, or an equal value. -/
  complete : ∀ c, Contributed docs path c → c.value.same c.value = true →
    ∃ v ∈ l, v.same c.value = true
  sound : ∀ v ∈ l, ∃ c, Contributed docs path c ∧ c.value = v
  different : l.Pairwise fun v w => v.same w = false ∧ w.same v = false
  ordered : ∃ first : List Contribution, first.map Contribution.value = l ∧
    first.Pairwise Contribution.Before ∧
    ∀ c, c ∈ first ↔ Contributed docs path c ∧
      ∀ c', Contributed docs path c' → c'.Before c → c'.value.same c.value = false

section ListsFirst

variable {docs : List Document} {path : String} {l : List Value}

theorem Contributed.wellKeyed (hdocs : ∀ d ∈ docs, d.WellKeyed) {c : Contribution}
    (h : Contributed docs path c) : c.value.WellKeyed := by
  obtain ⟨d, hd, hv⟩ := Contribution.mem_all.mp (Contribution.mem_all_iff.mpr h)
  exact (hdocs d (List.mem_of_getElem? hd)).contributions (List.mem_of_getElem? hv)

/-- The values of first contributions differ, on whichever side the earlier one is. -/
theorem different_of_first (hdocs : ∀ d ∈ docs, d.WellKeyed) {first : List Contribution}
    (horder : first.Pairwise Contribution.Before)
    (hfirst : ∀ c, c ∈ first ↔ Contributed docs path c ∧
      ∀ c', Contributed docs path c' → c'.Before c → c'.value.same c.value = false) :
    (first.map Contribution.value).Pairwise fun v w => v.same w = false ∧ w.same v = false := by
  refine List.pairwise_map.mpr (horder.imp_of_mem fun {c c'} hc hc' hbefore => ?_)
  obtain ⟨hcontributed, -⟩ := (hfirst c).mp hc
  obtain ⟨hcontributed', hnone⟩ := (hfirst c').mp hc'
  have hdiffers : c.value.same c'.value = false := hnone c hcontributed hbefore
  refine ⟨hdiffers, Bool.eq_false_iff.mpr fun hsame => ?_⟩
  have hback : c.value.same c'.value = true :=
    Value.same_symm (hcontributed'.wellKeyed hdocs) (hcontributed.wellKeyed hdocs) hsame
  exact Bool.eq_false_iff.mp hdiffers hback

theorem listsFirst_pushAllNew (hdocs : ∀ d ∈ docs, d.WellKeyed) (path : String) :
    ListsFirst docs path (Value.pushAllNew [] (docs.flatMap fun d => d.contributions path)) := by
  have hfirst : ∀ c, c ∈ (Contribution.all docs path).filter
        (Contribution.isFirst (Contribution.all docs path)) ↔
      Contributed docs path c ∧
        ∀ c', Contributed docs path c' → c'.Before c → c'.value.same c.value = false := by
    intro c
    simp only [List.mem_filter, Contribution.isFirst_iff, Contribution.mem_all_iff]
  have horder := (Contribution.pairwise_all docs path).filter
    (Contribution.isFirst (Contribution.all docs path))
  have hvalues := Contribution.pushAllNew_eq_first (Contribution.pairwise_all docs path)
  rw [← Contribution.map_value_all]
  constructor
  · intro c hc hself
    exact List.any_eq_true.mp
      (Contribution.any_pushAllNew_iff.mpr ⟨c, Contribution.mem_all_iff.mpr hc, hself⟩)
  · intro v hv
    rw [hvalues] at hv
    obtain ⟨c, hc, rfl⟩ := List.mem_map.mp hv
    exact ⟨c, ((hfirst c).mp hc).1, rfl⟩
  · rw [hvalues]
    exact different_of_first hdocs horder hfirst
  · exact ⟨_, hvalues.symm, horder, hfirst⟩

end ListsFirst

namespace Store

theorem find_unlimited (s : Store) (f : Filter) :
    s.find f .unlimited = ⟨s.matching f, (s.matching f).length⟩ := by
  simp [find, Limit.cap?]

/-- **The different values of a filter and a path are those of the first contributions** of the
documents that match, which are those that a search without a limit finds.  They depend on
nothing else: a search that finds the same documents in any store has the same different
values. -/
theorem distinct_lists_first {ws : List Write} (hws : ∀ w ∈ ws, w.WellKeyed) (path : String)
    (f : Filter) :
    ∃ docs l, docs = (run ws).documents.toList.filter f.matchesDocument ∧
      (run ws).executor.find f .unlimited = .value ⟨docs, docs.length⟩ ∧
      (run ws).executor.distinct path f = .value l ∧ ListsFirst docs path l ∧
      ∀ ws' f', ((run ws').find f' .unlimited).documents = docs →
        (run ws').executor.distinct path f' = .value l := by
  refine ⟨(run ws).matching f, (run ws).distinct path f, rfl, ?_, rfl, ?_, ?_⟩
  · simp only [executor, find_unlimited]
  · rw [distinct_eq_pushAllNew]
    refine listsFirst_pushAllNew (fun d hd => ?_) path
    exact wellKeyed_run hws (Array.mem_toList_iff.mp (List.mem_filter.mp hd).1)
  · intro ws' f' hfound
    have hmatching : (run ws').matching f' = (run ws).matching f := by
      rwa [find_unlimited] at hfound
    simp only [executor, distinct_eq_pushAllNew, hmatching]

/-- A list with a number twice that equals nothing, and a text that comes again. -/
def repeated : List Write :=
  [.upsertFields "a" [("tags", .array [.double .nan, .string "x", .double .nan])],
    .upsertFields "b" [("tags", .string "x")]]

theorem distinct_lists_first_repeated :
    (∀ w ∈ repeated, w.WellKeyed) ∧
      ∃ docs, (run repeated).executor.find .empty .unlimited = .value ⟨docs, 2⟩ ∧
        ListsFirst docs (Series.fieldPath "tags")
          [.double .nan, .string "x", .double .nan] := by
  have hwellKeyed : ∀ w ∈ repeated, w.WellKeyed := by
    have htags : ∀ v : Value, v.WellKeyed → Document.WellKeyed [("tags", v)] :=
      fun v hv => Document.wellKeyed_nil.put hv "tags"
    simp only [repeated, List.forall_mem_cons]
    refine ⟨htags _ ?_, htags _ (by trivial), by simp⟩
    simp [Value.WellKeyed, Value.WellKeyedItems]
  have hdocuments : (run repeated).documents.toList =
      [[("_id", .string "a"), ("fields", .document
          [("tags", .array [.double .nan, .string "x", .double .nan])])],
        [("_id", .string "b"), ("fields", .document [("tags", .string "x")])]] := by
    simp [run, writeAll, write, repeated, upsertFields, mergeInto, empty, append]
    exact ⟨rfl, rfl⟩
  obtain ⟨docs, l, hdocs, hfind, hdistinct, hlists, -⟩ :=
    distinct_lists_first hwellKeyed (Series.fieldPath "tags") .empty
  rw [hdocuments] at hdocs
  subst hdocs
  have hl : l = [.double .nan, .string "x", .double .nan] := by
    simp only [executor, distinct, matching, hdocuments] at hdistinct
    cases hdistinct
    rfl
  exact ⟨hwellKeyed, _, hfind, hl ▸ hlists⟩

end Store
end SeriesCatalog
