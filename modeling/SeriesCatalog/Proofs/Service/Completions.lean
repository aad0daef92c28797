import SeriesCatalog.Service.Basic

/-!
# Requests whose calls all answer

The calls of a request complete in any order.  If every one of them answers, the answers end
up in the same places whatever the order is.

* `Service.Answers`: the answers of the calls of a request.

Results:
* `Service.gather_answers`: what has come in after some of the calls.
* `Service.Answers.executeInOrder_answers`: the answer to the request, for any order of its calls.
-/

namespace SeriesCatalog
namespace Service

/-- Every call of a request answers: the call for the documents with a result, and the call
for each specifier with its values. -/
structure Answers (s : Service) (r : Request) (result : ResultSet)
    (values : Specifier → List Value) : Prop where
  fetch : s.fetch r.filter (s.plan r.filter r.length) = .value result
  lookup : ∀ spec ∈ r.specifiers.list,
    s.executor.lookup spec r.filter = .value (values spec)

variable {s : Service} {r : Request} {result : ResultSet} {values : Specifier → List Value}

theorem lookup_mem_calls {i : Nat} :
    Call.lookup i ∈ calls r ↔ i < r.specifiers.list.length := by
  simp [calls]

/-- The completion of the call for the specifier at a place, if it answers with values. -/
theorem completion_lookup
    (hlookup : ∀ spec ∈ r.specifiers.list,
      s.executor.lookup spec r.filter = .value (values spec))
    {i : Nat} {spec : Specifier} (hi : r.specifiers.list[i]? = some spec) :
    s.completion? r (.lookup i) =
      some (.lookup i spec.responseKey (.value (values spec))) := by
  simp [completion?, lookup?, hi, hlookup spec (List.mem_of_getElem? hi)]

/-- What has come in after calls that all answer: the result if the call for the documents
is among them, and the values at the places of the specifiers whose calls are. -/
theorem gather_answers
    (hlookup : ∀ spec ∈ r.specifiers.list,
      s.executor.lookup spec r.filter = .value (values spec)) :
    ∀ (order : List Call) (p : Progress), (∀ c ∈ order, c ∈ calls r) →
      (.fetch ∈ order → s.fetch r.filter (s.plan r.filter r.length) = .value result) →
      p.slots.length = r.specifiers.list.length →
      ∃ q, gather p (order.filterMap (s.completion? r)) = .ok q ∧
        q.result? = (if .fetch ∈ order then some result else p.result?) ∧
        q.slots.length = r.specifiers.list.length ∧
        ∀ (i : Nat) (spec : Specifier), r.specifiers.list[i]? = some spec →
          q.slots[i]? =
            if .lookup i ∈ order then some (some (values spec)) else p.slots[i]?
  | [], p, _, _, hp => ⟨p, rfl, by simp, hp, by simp⟩
  | .fetch :: order, p, hmem, hfetch, hp => by
      have hrest : ∀ c ∈ order, c ∈ calls r := fun c hc => hmem c (List.mem_cons_of_mem _ hc)
      have hcompletion : s.completion? r .fetch = some (.fetch (.value result)) := by
        simp [completion?, hfetch List.mem_cons_self]
      obtain ⟨q, hq, hresult, hlength, hslots⟩ :=
        gather_answers hlookup order { p with result? := some result } hrest
          (fun _ => hfetch List.mem_cons_self) hp
      refine ⟨q, ?_, by simpa using hresult, hlength, fun i spec hi => ?_⟩
      · rw [List.filterMap_cons_some hcompletion]
        exact hq
      · simpa using hslots i spec hi
  | .lookup j :: order, p, hmem, hfetch, hp => by
      have hrest : ∀ c ∈ order, c ∈ calls r := fun c hc => hmem c (List.mem_cons_of_mem _ hc)
      have hj : j < r.specifiers.list.length :=
        lookup_mem_calls.mp (hmem _ List.mem_cons_self)
      obtain ⟨spec', hspec'⟩ : ∃ spec', r.specifiers.list[j]? = some spec' :=
        ⟨_, List.getElem?_eq_getElem hj⟩
      obtain ⟨q, hq, hresult, hlength, hslots⟩ :=
        gather_answers hlookup order
          { p with slots := p.slots.set j (some (values spec')) } hrest
          (fun hc => hfetch (List.mem_cons_of_mem _ hc)) (by simpa using hp)
      refine ⟨q, ?_, by simpa using hresult, hlength, fun i spec hi => ?_⟩
      · rw [List.filterMap_cons_some (completion_lookup hlookup hspec')]
        exact hq
      · rw [hslots i spec hi]
        by_cases hij : i = j
        · subst hij
          have hsame : spec' = spec := Option.some.inj (hspec'.symm.trans hi)
          simp [hsame, hp, hj]
        · simp [hij, Ne.symm hij]

/-- The slots of all specifiers, filled with their values. -/
theorem distinctMap_of_slots {p : Progress} {specs : Specifiers}
    (hlength : p.slots.length = specs.list.length)
    (hslots : ∀ (i : Nat) (spec : Specifier), specs.list[i]? = some spec →
      p.slots[i]? = some (some (values spec))) :
    p.distinctMap specs = specs.list.map fun spec => (spec.responseKey, values spec) := by
  have hfilled : p.slots = specs.list.map fun spec => some (values spec) := by
    apply List.ext_getElem?
    intro i
    cases hi : specs.list[i]? with
    | none =>
        have hge := List.getElem?_eq_none_iff.mp hi
        rw [List.getElem?_map, hi, List.getElem?_eq_none (by omega)]
        rfl
    | some spec => rw [List.getElem?_map, hi, hslots i spec hi]; rfl
  have hzip : specs.list.zip p.slots = specs.list.map fun spec => (spec, some (values spec)) := by
    rw [hfilled]
    simpa using List.zip_map' (f := id) (g := fun spec => some (values spec)) (l := specs.list)
  simp [Progress.distinctMap, hzip]

/-- **A request whose calls all answer has the same answer in any order of its calls.** -/
theorem Answers.executeInOrder_answers (h : s.Answers r result values) {order : List Call}
    (horder : order.Perm (calls r)) :
    s.executeInOrder r order =
      .ok (.success result
        (if r.specifiers.isEmpty then none
          else some (r.specifiers.list.map fun spec => (spec.responseKey, values spec)))) := by
  obtain ⟨q, hq, hresult, hlength, hslots⟩ :=
    gather_answers h.lookup order (.start r.specifiers.list.length)
      (fun c hc => horder.mem_iff.mp hc) (fun _ => h.fetch) (by simp [Progress.start])
  have hfetch : Call.fetch ∈ order := horder.mem_iff.mpr List.mem_cons_self
  have hfilled : ∀ (i : Nat) (spec : Specifier), r.specifiers.list[i]? = some spec →
      q.slots[i]? = some (some (values spec)) := by
    intro i spec hi
    have hmem : Call.lookup i ∈ order :=
      horder.mem_iff.mpr (lookup_mem_calls.mpr (List.getElem?_eq_some_iff.mp hi).1)
    rw [hslots i spec hi, if_pos hmem]
  simp only [executeInOrder, hq, distinctMap_of_slots hlength hfilled, hresult, hfetch,
    if_true, Option.getD_some]

end Service
end SeriesCatalog
