import SeriesCatalog.Proofs.Service.Answer
import SeriesCatalog.Proofs.Store.FirstContributions

/-!
# Limits as the numbers that a store takes

A store takes the number zero for no limit, and any other number for that many documents at most.
A bound of zero has no number of its own: it is turned into zero, which is read as no limit.

Results:
* `Limit.ofRaw_raw_iff`: every other limit is the one that its number is read as.
* `Service.raw_of_plan_iff`: the requests for which a search is planned with the number zero.
* `Store.find_ofRaw_iff`: when a limit and its number come to the same search.
* `Service.find_by_number`: both for the limits that are planned.
-/

namespace SeriesCatalog
namespace Limit

theorem raw_eq_zero_iff (l : Limit) : l.raw = 0 ↔ l = .unlimited ∨ l = .atMost 0 := by
  cases l with
  | unlimited => simp [raw]
  | atMost n => simp [raw]

/-- A bound of zero is the only limit that its number is not read as. -/
theorem ofRaw_raw_iff (l : Limit) : ofRaw l.raw = l ↔ l ≠ .atMost 0 := by
  cases l with
  | unlimited => simp [raw, ofRaw]
  | atMost n => cases n <;> simp [raw, ofRaw]

end Limit

namespace Store

/-- A bound of zero finds nothing, where its number finds all documents that match. -/
theorem find_ofRaw_atMost_zero (s : Store) (f : Filter) :
    s.find f (.ofRaw (Limit.atMost 0).raw) = ⟨s.matching f, (s.matching f).length⟩ ∧
      s.find f (.atMost 0) = ⟨[], (s.matching f).length⟩ :=
  ⟨s.find_unlimited f, rfl⟩

/-- **A limit and its number come to the same search**, unless the limit is zero and there are
documents to be found. -/
theorem find_ofRaw_iff (s : Store) (f : Filter) (l : Limit) :
    s.find f (.ofRaw l.raw) = s.find f l ↔ l ≠ .atMost 0 ∨ s.matching f = [] := by
  by_cases hzero : l = .atMost 0
  · subst hzero
    obtain ⟨hnumber, hbound⟩ := s.find_ofRaw_atMost_zero f
    rw [hnumber, hbound]
    simp
  · rw [(Limit.ofRaw_raw_iff l).mpr hzero]
    simp [hzero]

end Store

namespace Service

variable {s : Service} {f : Filter} {length : Length} {limit : Limit}

/-- The limit of a planned search is the one that the length of the request asks for. -/
theorem limit_of_plan (h : s.plan f length = .find limit) :
    length = .unbounded ∧ limit = .unlimited ∨
      ∃ n, length = .bounded n ∧ limit = .atMost n := by
  cases length with
  | countOnly => cases h
  | bounded n =>
      cases h
      exact .inr ⟨n, rfl, rfl⟩
  | unbounded =>
      refine .inl ⟨rfl, ?_⟩
      simp only [plan] at h
      split at h
      · split at h <;> cases h
        rfl
      · cases h
        rfl

/-- A search is planned with the number zero for the requests without a bound and for those with a
bound of zero. -/
theorem raw_of_plan_iff (h : s.plan f length = .find limit) :
    limit.raw = 0 ↔ length = .unbounded ∨ length = .bounded 0 := by
  rw [Limit.raw_eq_zero_iff]
  rcases limit_of_plan h with ⟨rfl, rfl⟩ | ⟨n, rfl, rfl⟩
  · simp
  · simp

/-- **What a planned search finds by the number of its limit.**  The number is zero exactly without
a bound and with a bound of zero.  The search by the number comes to the same as the one by the
limit, in every store, exactly if the bound is not zero or no document matches. -/
theorem find_by_number (service : Service) (store : Store) (f : Filter) (length : Length)
    (limit : Limit) (hplan : service.plan f length = .find limit) :
    (limit.raw = 0 ↔ length = .unbounded ∨ length = .bounded 0) ∧
      (store.find f (.ofRaw limit.raw) = store.find f limit ↔
        length ≠ .bounded 0 ∨ store.matching f = []) := by
  refine ⟨raw_of_plan_iff hplan, ?_⟩
  rw [store.find_ofRaw_iff]
  rcases limit_of_plan hplan with ⟨rfl, rfl⟩ | ⟨n, rfl, rfl⟩
  · simp
  · simp

/-- A store with a single series. -/
def oneSeries : Store :=
  Store.run [.upsertFields "a" []]

theorem matching_oneSeries :
    oneSeries.matching .empty = [[("_id", .string "a"), ("fields", .document [])]] := by
  have hdocuments : oneSeries.documents.toList =
      [[("_id", .string "a"), ("fields", .document [])]] := by
    simp [oneSeries, Store.run, Store.writeAll, Store.write, Store.upsertFields, Store.mergeInto,
      Store.empty, Store.append]
    rfl
  rw [Store.matching, hdocuments]
  rfl

/-- The greatest bound that a request can give is read as it is. -/
theorem find_by_number_greatest :
    (onStore oneSeries .standard).plan .empty (.bounded Words.greatest64) =
        .find (.atMost Words.greatest64) ∧
      oneSeries.find .empty (.ofRaw (Limit.atMost Words.greatest64).raw) =
        oneSeries.find .empty (.atMost Words.greatest64) := by
  have hplan : (onStore oneSeries .standard).plan .empty (.bounded Words.greatest64) =
      .find (.atMost Words.greatest64) := rfl
  have hnumber := find_by_number (onStore oneSeries .standard) oneSeries _ _ _ hplan
  exact ⟨hplan, hnumber.2.mpr (.inl (by decide))⟩

/-- With a bound of zero the number is that of no limit, and finds a document more. -/
theorem find_by_number_zero :
    (onStore oneSeries .standard).plan .empty (.bounded 0) = .find (.atMost 0) ∧
      (Limit.atMost 0).raw = 0 ∧
      (oneSeries.find .empty (.atMost 0)).documents = [] ∧
      (oneSeries.find .empty (.ofRaw (Limit.atMost 0).raw)).documents =
        [[("_id", .string "a"), ("fields", .document [])]] := by
  obtain ⟨hnumber, hbound⟩ := oneSeries.find_ofRaw_atMost_zero .empty
  refine ⟨rfl, rfl, ?_, ?_⟩
  · rw [hbound]
  · rw [hnumber, matching_oneSeries]

end Service
end SeriesCatalog
