import SeriesCatalog.Store.Executor

/-!
# Different values

A store collects different values document by document.  The list is that of the first
occurrences among all contributions, taken one after the other.

* `Value.pushAllNew_nil`: values are collected as they come first.
* `Store.distinct_eq`: the different values of the documents that match.
* `Store.exists_of_mem_distinct`: a value that is listed is one that a document contributes.
* `Store.exists_mem_distinct`: a value that a document contributes is listed, or an equal one.
-/

namespace SeriesCatalog
namespace Value

/-- Values are collected in the order in which they come first, behind those that came
before. -/
theorem pushAllNew_reverse :
    ∀ new seen : List Value,
      pushAllNew seen.reverse new = List.eraseDupsBy.loop (fun v w => same w v) new seen
  | [], seen => rfl
  | v :: new, seen => by
      have hstep : pushAllNew seen.reverse (v :: new) =
          pushAllNew (pushNew seen.reverse v) new := rfl
      rw [hstep, pushNew, List.any_reverse, List.eraseDupsBy.loop]
      cases seen.any fun w => same w v with
      | true => exact pushAllNew_reverse new seen
      | false => simpa using pushAllNew_reverse new (v :: seen)

theorem pushAllNew_nil (l : List Value) :
    pushAllNew [] l = l.eraseDupsBy fun v w => same w v :=
  pushAllNew_reverse l []

theorem mem_pushNew {seen : List Value} {v w : Value} (h : w ∈ pushNew seen v) :
    w ∈ seen ∨ w = v := by
  unfold pushNew at h
  split at h
  · exact .inl h
  · simpa using h

/-- The value that is pushed is there afterwards, or an equal one was there before. -/
theorem exists_mem_pushNew (seen : List Value) (v : Value) :
    ∃ w ∈ pushNew seen v, w = v ∨ same w v = true := by
  unfold pushNew
  split
  · rename_i hequal
    obtain ⟨w, hw, hsame⟩ := List.any_eq_true.mp hequal
    exact ⟨w, hw, .inr hsame⟩
  · exact ⟨v, by simp, .inl rfl⟩

theorem mem_pushNew_of_mem {seen : List Value} {v w : Value} (h : w ∈ seen) :
    w ∈ pushNew seen v := by
  unfold pushNew
  split
  · exact h
  · exact List.mem_append_left _ h

theorem mem_pushAllNew_of_mem {new seen : List Value} {w : Value} (h : w ∈ seen) :
    w ∈ pushAllNew seen new := by
  induction new generalizing seen with
  | nil => exact h
  | cons v new ih => exact ih (mem_pushNew_of_mem h)

theorem mem_pushAllNew {new seen : List Value} {w : Value} (h : w ∈ pushAllNew seen new) :
    w ∈ seen ∨ w ∈ new := by
  induction new generalizing seen with
  | nil => exact .inl h
  | cons v new ih =>
      rcases ih h with hw | hw
      · rcases mem_pushNew hw with hw | rfl
        · exact .inl hw
        · exact .inr List.mem_cons_self
      · exact .inr (List.mem_cons_of_mem v hw)

theorem exists_mem_pushAllNew {new seen : List Value} {v : Value} (h : v ∈ new) :
    ∃ w ∈ pushAllNew seen new, w = v ∨ same w v = true := by
  induction new generalizing seen with
  | nil => cases h
  | cons v' new ih =>
      rcases List.mem_cons.mp h with rfl | h
      · obtain ⟨w, hw, hsame⟩ := exists_mem_pushNew seen v
        have hkept : w ∈ pushAllNew (pushNew seen v) new := mem_pushAllNew_of_mem hw
        exact ⟨w, hkept, hsame⟩
      · exact ih h

end Value

namespace Store

/-- The different values are the first occurrences among the contributions of the documents
that match, in order. -/
theorem distinct_eq (s : Store) (path : String) (f : Filter) :
    s.distinct path f =
      ((s.matching f).flatMap fun d => d.contributions path).eraseDupsBy
        fun v w => w.same v := by
  rw [← Value.pushAllNew_nil, Value.pushAllNew, List.foldl_flatMap]
  rfl

variable {s : Store} {path : String} {f : Filter} {v : Value}

theorem distinct_eq_pushAllNew (s : Store) (path : String) (f : Filter) :
    s.distinct path f =
      Value.pushAllNew [] ((s.matching f).flatMap fun d => d.contributions path) := by
  rw [distinct_eq, Value.pushAllNew_nil]

theorem exists_of_mem_distinct (h : v ∈ s.distinct path f) :
    ∃ d ∈ s.matching f, v ∈ d.contributions path := by
  rw [distinct_eq_pushAllNew] at h
  rcases Value.mem_pushAllNew h with hnil | hcontributed
  · cases hnil
  · exact List.mem_flatMap.mp hcontributed

theorem exists_mem_distinct {d : Document} (hd : d ∈ s.matching f)
    (hv : v ∈ d.contributions path) : ∃ w ∈ s.distinct path f, w = v ∨ w.same v = true := by
  rw [distinct_eq_pushAllNew]
  exact Value.exists_mem_pushAllNew (List.mem_flatMap.mpr ⟨d, hd, hv⟩)

end Store
end SeriesCatalog
