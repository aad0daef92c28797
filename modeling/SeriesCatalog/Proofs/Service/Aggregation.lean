import SeriesCatalog.Proofs.Query.Submissions
import SeriesCatalog.Proofs.Service.Completions
import SeriesCatalog.Proofs.Service.Failures

/-!
# Lookups in any order

Names ask for lists of different values, one for each different name.  Their lookups complete
in any order, given here by the places of the names.

Results:
* `Service.aggregateInOrder_answers`: if all lookups answer, the lists do not depend on the
  order.
* `Service.aggregateInOrder_any_order`: what lookups come to in any order, failures included.
-/

namespace SeriesCatalog
namespace Service

variable {s : Service} {specifiers : Specifiers} {f : Filter} {order : List Nat}

/-- Lookups that all answer give one list for each specifier, whatever their order is. -/
theorem aggregateInOrder_answers {values : Specifier → List Value}
    (hlookup : ∀ spec ∈ specifiers.list, s.executor.lookup spec f = .value (values spec))
    (horder : order.Perm (List.range specifiers.list.length)) :
    s.aggregateInOrder specifiers f order =
      .ok (specifiers.list.map fun spec => (spec.responseKey, values spec)) := by
  -- The lookups are those of a request, whatever else it asks for.
  let r : Request := ⟨f, .countOnly, specifiers⟩
  have hmem : ∀ c ∈ order.map Call.lookup, c ∈ calls r := by
    intro c hc
    obtain ⟨i, hi, rfl⟩ := List.mem_map.mp hc
    exact lookup_mem_calls.mpr (List.mem_range.mp (horder.mem_iff.mp hi))
  have hfetch : .fetch ∈ order.map Call.lookup →
      s.fetch r.filter (s.plan r.filter r.length) = .value .nothing := by simp
  have hstart : (Progress.start specifiers.list.length).slots.length =
      r.specifiers.list.length := by simp [Progress.start, r]
  obtain ⟨q, hq, -, hlength, hslots⟩ := gather_answers hlookup _ _ hmem hfetch hstart
  have hgather : gather (.start specifiers.list.length)
      (order.filterMap (s.lookup? specifiers f)) = .ok q := by
    rwa [List.filterMap_map] at hq
  have hfilled : ∀ (i : Nat) (spec : Specifier), specifiers.list[i]? = some spec →
      q.slots[i]? = some (some (values spec)) := by
    intro i spec hi
    have hplace : i ∈ order :=
      horder.mem_iff.mpr (List.mem_range.mpr (List.getElem?_eq_some_iff.mp hi).1)
    rw [hslots i spec hi, if_pos (List.mem_map_of_mem hplace)]
  simp only [aggregateInOrder, hgather]
  rw [distinctMap_of_slots hlength hfilled]

section Names

variable {names : List String}

theorem lookupFailure?_ofTexts {i : Nat} {name : String} (hi : names.eraseDups[i]? = some name) :
    s.lookupFailure? (.ofTexts names) f i =
      (s.executor.lookup (.parse name) f).failure? (.lookup name) := by
  have hspec : (Specifiers.ofTexts names).list[i]? = some (.parse name) := by
    simp [Specifiers.list_ofTexts, hi]
  rw [lookupFailure?_eq hspec, Specifier.responseKey_parse]

/-- Of lookups that do not all answer, there is a first one that fails. -/
theorem exists_first_failure (horder : order.Perm (List.range names.eraseDups.length))
    {name : String} (hname : name ∈ names)
    (hfails : ∀ l, s.executor.lookup (.parse name) f ≠ .value l) :
    ∃ e, order.findSome? (s.lookupFailure? (.ofTexts names) f) = some e := by
  obtain ⟨i, hi⟩ := List.getElem?_of_mem (List.mem_eraseDups.mpr hname)
  have hmem : i ∈ order :=
    horder.mem_iff.mpr (List.mem_range.mpr (List.getElem?_eq_some_iff.mp hi).1)
  cases hfirst : order.findSome? (s.lookupFailure? (.ofTexts names) f) with
  | some e => exact ⟨e, rfl⟩
  | none =>
      have hnone := List.findSome?_eq_none_iff.mp hfirst i hmem
      rw [lookupFailure?_ofTexts hi] at hnone
      obtain ⟨l, hl⟩ := Outcome.failure?_eq_none_iff.mp hnone
      exact absurd hl (hfails l)

/-- **What the lookups for names come to, in any order.**  If all of them answer, each name has
its own values, under its first place; otherwise the first lookup in the order that fails gives
the error, in which a failure of the store carries the name. -/
theorem aggregateInOrder_any_order (s : Service) (names : List String) (f : Filter)
    {order : List Nat} (horder : order.Perm (List.range names.eraseDups.length)) :
    names.eraseDups.Nodup ∧
    (∀ values : String → List Value,
      (∀ name ∈ names, s.executor.lookup (.parse name) f = .value (values name)) →
      s.aggregateInOrder (.ofTexts names) f order =
        .ok (names.eraseDups.map fun name => (name, values name))) ∧
    ((∃ name ∈ names, ∀ l, s.executor.lookup (.parse name) f ≠ .value l) →
      ∃ before place after name e, order = before ++ place :: after ∧
        (∀ q ∈ before, ∃ other l, names.eraseDups[q]? = some other ∧
          s.executor.lookup (.parse other) f = .value l) ∧
        names.eraseDups[place]? = some name ∧
        (s.executor.lookup (.parse name) f).failure? (.lookup name) = some e ∧
        s.aggregateInOrder (.ofTexts names) f order = .error e) := by
  have hnamed : ∀ q ∈ order, ∃ name, names.eraseDups[q]? = some name := by
    intro q hq
    exact ⟨_, List.getElem?_eq_getElem (List.mem_range.mp (horder.mem_iff.mp hq))⟩
  refine ⟨FirstOccurrences.nodup_eraseDups names, fun values hvalues => ?_, ?_⟩
  · have hlookup : ∀ spec ∈ (Specifiers.ofTexts names).list,
        s.executor.lookup spec f = .value (values spec.responseKey) := by
      intro spec hspec
      rw [Specifiers.list_ofTexts] at hspec
      obtain ⟨name, hname, rfl⟩ := List.mem_map.mp hspec
      rw [Specifier.responseKey_parse]
      exact hvalues name (List.mem_eraseDups.mp hname)
    have hplaces : order.Perm (List.range (Specifiers.ofTexts names).list.length) := by
      simpa [Specifiers.list_ofTexts] using horder
    rw [aggregateInOrder_answers hlookup hplaces]
    simp [Specifiers.list_ofTexts]
  · rintro ⟨name, hname, hfails⟩
    obtain ⟨e, he⟩ := exists_first_failure horder hname hfails
    obtain ⟨before, place, after, hsplit, hplace, hbefore⟩ := List.findSome?_eq_some_iff.mp he
    obtain ⟨first, hfirst⟩ := hnamed place (by simp [hsplit])
    rw [lookupFailure?_ofTexts hfirst] at hplace
    refine ⟨before, place, after, first, e, hsplit, fun q hq => ?_, hfirst, hplace,
      aggregateInOrder_eq_error_iff.mpr he⟩
    obtain ⟨other, hother⟩ := hnamed q (by simp [hsplit, hq])
    have hnone := hbefore q hq
    rw [lookupFailure?_ofTexts hother] at hnone
    obtain ⟨l, hl⟩ := Outcome.failure?_eq_none_iff.mp hnone
    exact ⟨other, l, hother, hl⟩

/-- Of three names the second cannot be looked up, also if its lookup completes between those
of the other two. -/
theorem aggregateInOrder_second_down :
    [2, 1, 0].Perm (List.range ["a", "b", "a", "c"].eraseDups.length) ∧
    aggregateInOrder
      ⟨⟨fun _ _ => .brokeOff "", fun _ => .brokeOff "", fun path _ =>
        if path = "fields.b" then .failed (.io "down") else .value [.string path]⟩, .standard⟩
      (.ofTexts ["a", "b", "a", "c"]) (.ofPairs []) [2, 1, 0] =
        .error (.lookup "b" (.io "down")) := by
  have horder : [2, 1, 0].Perm (List.range ["a", "b", "a", "c"].eraseDups.length) := by decide
  obtain ⟨-, -, hfailure⟩ := aggregateInOrder_any_order
    ⟨⟨fun _ _ => .brokeOff "", fun _ => .brokeOff "", fun path _ =>
      if path = "fields.b" then .failed (.io "down") else .value [.string path]⟩, .standard⟩
    ["a", "b", "a", "c"] (.ofPairs []) horder
  obtain ⟨_, place, _, name, e, -, -, hname, he, herror⟩ :=
    hfailure ⟨"b", by decide, fun _ h => by cases h⟩
  refine ⟨horder, herror.trans ?_⟩
  match place, hname with
  | 0, rfl => cases he
  | 1, rfl => cases he; rfl
  | 2, rfl => cases he

end Names

end Service
end SeriesCatalog
