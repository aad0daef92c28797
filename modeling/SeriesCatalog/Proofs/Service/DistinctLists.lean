import SeriesCatalog.Proofs.Document.Written
import SeriesCatalog.Proofs.Service.Answer
import SeriesCatalog.Proofs.Service.Execution
import SeriesCatalog.Proofs.Store.FirstContributions
import SeriesCatalog.Proofs.Store.SchemaKeys

/-!
# Lists of different values as they are written

The values of a list differ where it is collected.  What is written of them is JSON, in which two
values of different kinds can look the same, a whole number of 32 bits and one of 64 bits first of
all.  The text is repeated exactly then, and never if the values are ordinary.

* `Value.Differ`: values that do not equal each other.

Results:
* `Store.lookup_differ`: what a specifier asks for is a list of values that differ.
* `Service.distinct_lists_written`: when two values of a list have the same text.
-/

namespace SeriesCatalog
namespace Value

/-- Values that do not equal each other, from either side. -/
def Differ (v w : Value) : Prop :=
  v.same w = false ∧ w.same v = false

/-- Ordinary values that differ have different texts. -/
theorem Differ.text_ne {v w : Value} (h : v.Differ w) (hkeys : v.WellKeyed) (hv : v.Ordinary)
    (hw : w.Ordinary) : v.toJson.text ≠ w.toJson.text := by
  intro htext
  obtain rfl := (text_toJson_inj hv hw).mp htext
  exact Bool.eq_false_iff.mp h.1 (hv.same_self hkeys)

theorem pairwise_differ_strings {l : List String} (h : l.Pairwise (· < ·)) :
    (l.map string).Pairwise Differ := by
  refine List.pairwise_map.mpr (h.imp fun {t u} hlt => ?_)
  have hne : t ≠ u := by
    rintro rfl
    exact String.lt_irrefl t hlt
  simp [Differ, same, hne, hne.symm]

end Value

namespace Store

variable {ws : List Write} {spec : Specifier} {f : Filter} {l : List Value}

/-- **What a specifier asks for is a list of values that differ.** -/
theorem lookup_differ (hws : ∀ w ∈ ws, w.WellKeyed)
    (h : (run ws).executor.lookup spec f = .value l) :
    l.Pairwise Value.Differ ∧ ∀ v ∈ l, v.WellKeyed := by
  have hstored : ∀ d ∈ (run ws).documents, (Value.document d).WellKeyed := fun d hd =>
    Value.wellKeyed_document_iff.mpr (wellKeyed_run hws hd)
  refine ⟨?_, fun v hv => holds_lookup Value.hereditary_wellKeyed hstored h hv⟩
  cases spec with
  | schemaKeys =>
      rw [lookup_schemaKeys] at h
      cases h
      exact Value.pairwise_differ_strings (ascending_keysOfDocuments _)
  | field name =>
      have hlist : l = (run ws).distinct (Series.fieldPath name) f := by
        cases h
        rfl
      have hdocs : ∀ d ∈ (run ws).matching f, d.WellKeyed := fun d hd =>
        wellKeyed_run hws (Array.mem_toList_iff.mp (List.mem_filter.mp hd).1)
      rw [hlist, distinct_eq_pushAllNew]
      exact (listsFirst_pushAllNew hdocs _).different

end Store

namespace Envelope

theorem lookup_distinct_members (result : ResultSet) (lists? : Option DistinctMap) :
    Entries.lookup "distinct" (success result lists?).members = lists?.map DistinctMap.toJson := by
  cases result <;> cases lists? <;>
    simp [members, Entries.lookup, ResultSet.documents?, ResultSet.count?]

end Envelope

namespace Service

open Store

/-- A request to a store comes to an answer, with the values that its specifiers ask for. -/
theorem possible_onStore {s : Store} {policy : Policy} {r : Request}
    {o : Except QueryError Envelope} (ho : (onStore s policy).Possible r o) :
    ∃ (result : ResultSet) (values : Specifier → List Value), o = .ok (.success result
        (if r.specifiers.isEmpty then none
          else some (r.specifiers.list.map fun spec => (spec.responseKey, values spec)))) ∧
      ∀ spec ∈ r.specifiers.list, s.executor.lookup spec r.filter = .value (values spec) := by
  cases o with
  | error e =>
      cases possible_error_iff.mp ho with
      | count _ h => cases h
      | find _ h => cases h
      | @lookup spec _ _ h => cases spec <;> cases h
  | ok envelope =>
      obtain ⟨result, values, hanswers, rfl⟩ := possible_ok_iff.mp ho
      exact ⟨result, values, rfl, hanswers.lookup⟩

/-- **When two values of a list have the same text.** -/
theorem distinct_lists_written {ws : List Write} (hws : ∀ w ∈ ws, w.WellKeyed) (policy : Policy)
    (r : Request) {o : Except QueryError Envelope}
    (ho : (onStore (run ws) policy).Possible r o) :
    ∃ (envelope : Envelope) (values : Specifier → List Value), o = .ok envelope ∧
      Entries.lookup "distinct" envelope.members =
        (if r.specifiers.isEmpty then none
          else some (.object (r.specifiers.list.map fun spec =>
            (spec.responseKey, .list ((values spec).map Value.toJson))))) ∧
      ∀ spec ∈ r.specifiers.list,
        (run ws).executor.lookup spec r.filter = .value (values spec) ∧
        (values spec).Pairwise fun v w => v.Differ w ∧
          (v.toJson.text = w.toJson.text ↔ v.toJson = w.toJson) ∧
          (v.Ordinary → w.Ordinary → v.toJson.text ≠ w.toJson.text) := by
  obtain ⟨result, values, rfl, hlookup⟩ := possible_onStore ho
  refine ⟨_, values, rfl, ?_, fun spec hspec => ⟨hlookup spec hspec, ?_⟩⟩
  · rw [Envelope.lookup_distinct_members]
    split
    · rfl
    · simp [DistinctMap.toJson, Value.itemsToJson_eq_map, Function.comp_def]
  · obtain ⟨hdiffer, hkeys⟩ := lookup_differ hws (hlookup spec hspec)
    refine hdiffer.imp_of_mem fun {v w} hv _ hvw => ⟨hvw, ?_, hvw.text_ne (hkeys v hv)⟩
    exact Json.text_inj (Value.finite_toJson v) (Value.finite_toJson w)

/-- A number with both widths, and the text that both are written as. -/
def mixedKinds : List Write :=
  [.upsertFields "a" [("n", .int32 1)], .upsertFields "b" [("n", .int64 1)],
    .upsertFields "c" [("n", .string "1")]]

theorem wellKeyed_mixedKinds : ∀ w ∈ mixedKinds, w.WellKeyed := by
  have hn : ∀ v : Value, v.WellKeyed → Document.WellKeyed [("n", v)] :=
    fun v hv => Document.wellKeyed_nil.put hv "n"
  simp only [mixedKinds, List.forall_mem_cons]
  exact ⟨hn _ trivial, hn _ trivial, hn _ trivial, by simp⟩

/-- A request for the number of all documents and for the different values of a field. -/
def requestFor (name : String) : Request :=
  ⟨.empty, .countOnly, .ofTexts [name]⟩

theorem documents_mixedKinds : (run mixedKinds).documents.toList =
    [[("_id", .string "a"), ("fields", .document [("n", .int32 1)])],
      [("_id", .string "b"), ("fields", .document [("n", .int64 1)])],
      [("_id", .string "c"), ("fields", .document [("n", .string "1")])]] := by
  simp [run, writeAll, write, mixedKinds, upsertFields, mergeInto, empty, append]
  exact ⟨rfl, rfl, rfl⟩

theorem lookup_mixedKinds : (run mixedKinds).executor.lookup (.field "n") .empty =
    .value [.int32 1, .int64 1, .string "1"] := by
  have hlookup : (run mixedKinds).executor.lookup (.field "n") .empty =
      .value ((run mixedKinds).distinct (Series.fieldPath "n") .empty) := rfl
  rw [hlookup, distinct, matching, documents_mixedKinds]
  rfl

theorem possible_mixedKinds :
    (onStore (run mixedKinds) .standard).Possible (requestFor "n")
      (.ok (.success (.count 3) (some [("n", [.int32 1, .int64 1, .string "1"])]))) := by
  have hanswers : (onStore (run mixedKinds) .standard).Answers (requestFor "n") (.count 3)
      fun _ => [.int32 1, .int64 1, .string "1"] := by
    constructor
    · have hcount : (run mixedKinds).count .empty = 3 := by
        rw [count, matching, documents_mixedKinds]
        rfl
      exact congrArg (fun n => Outcome.value (ResultSet.count n)) hcount
    · intro spec hspec
      obtain rfl : spec = .field "n" := List.mem_singleton.mp hspec
      exact lookup_mixedKinds
  exact possible_ok_iff.mpr ⟨_, _, hanswers, rfl⟩

theorem distinct_lists_written_mixedKinds :
    (∀ w ∈ mixedKinds, w.WellKeyed) ∧
      (onStore (run mixedKinds) .standard).Possible (requestFor "n")
        (.ok (.success (.count 3) (some [("n", [.int32 1, .int64 1, .string "1"])]))) ∧
      [Value.int32 1, .int64 1, .string "1"].Pairwise Value.Differ ∧
      (Value.int32 1).toJson.text ≠ (Value.string "1").toJson.text := by
  refine ⟨wellKeyed_mixedKinds, possible_mixedKinds, ?_⟩
  obtain ⟨envelope, values, -, -, hlists⟩ :=
    distinct_lists_written wellKeyed_mixedKinds .standard (requestFor "n") possible_mixedKinds
  obtain ⟨hlookup, hapart⟩ := hlists (.field "n") List.mem_cons_self
  have hvalues : values (.field "n") = [.int32 1, .int64 1, .string "1"] :=
    Outcome.value.inj (hlookup.symm.trans lookup_mixedKinds)
  rw [hvalues] at hapart
  refine ⟨hapart.imp And.left, ?_⟩
  obtain ⟨-, -, hordinary⟩ := List.rel_of_pairwise_cons hapart (by simp : Value.string "1" ∈ _)
  exact hordinary (show Words.fitsSigned32 1 = true by decide) trivial

/-- One text twice in a list: the number is listed once for each width. -/
theorem distinct_lists_repeated_text :
    (onStore (run mixedKinds) .standard).Possible (requestFor "n")
        (.ok (.success (.count 3) (some [("n", [.int32 1, .int64 1, .string "1"])]))) ∧
      (Envelope.success (.count 3) (some [("n", [.int32 1, .int64 1, .string "1"])])).line =
        "\x7b\"success\":true,\"len\":3,\"distinct\":\x7b\"n\":[1,1,\"1\"]\x7d\x7d" ∧
      ¬ ([Value.int32 1, .int64 1, .string "1"].map fun v => v.toJson.text).Nodup := by
  refine ⟨possible_mixedKinds, ?_, ?_⟩
  · decide +kernel
  · decide +kernel

end Service
end SeriesCatalog
