import Mathlib.Tactic.Choose
import SeriesCatalog.Proofs.Service.Completions
import SeriesCatalog.Proofs.Service.Failures

/-!
# All or nothing

A request makes one call for its documents at most, as planned, and one lookup for each of
its specifiers.  The calls run at the same time and complete in any order, and each of them
may answer, fail or break off.

* `Service.Possible`: what a request may come to, over all orders of its calls.
* `Service.Fetched`, `Service.CallFails`: the planned call answers; one of the calls fails.

Results:
* `Service.possible_error_iff`, `Service.possible_ok_iff`: what a request may come to, said
  without an order.
* `Service.executeInOrder_congr`: calls that are not made do not matter.
* `Service.execute_all_or_nothing`: a request has all of its answers or one of its errors.
-/

namespace SeriesCatalog

/-- Two executors give the same outcome for a planned call. -/
def Executor.SameFetch (x y : Executor) (f : Filter) : Plan → Prop
  | .skip => True
  | .count => x.count f = y.count f
  | .find limit => x.find f limit = y.find f limit

namespace Service

/-- What a request comes to if its calls complete in some order. -/
def Possible (s : Service) (r : Request) (o : Except QueryError Envelope) : Prop :=
  ∃ order : List Call, order.Perm (calls r) ∧ s.executeInOrder r order = o

/-- The call that is planned for the documents answers, or none is planned. -/
inductive Fetched (s : Service) (r : Request) : ResultSet → Prop
  | skip (hplan : s.plan r.filter r.length = .skip) : Fetched s r .nothing
  | count {n : Nat} (hplan : s.plan r.filter r.length = .count)
      (h : s.executor.count r.filter = .value n) : Fetched s r (.count n)
  | find {limit : Limit} {found : Found} (hplan : s.plan r.filter r.length = .find limit)
      (h : s.executor.find r.filter limit = .value found) :
      Fetched s r (.page found.documents found.matched)

/-- A call of a request fails, and is reported as an error. -/
inductive CallFails (s : Service) (r : Request) : QueryError → Prop
  | count {e : QueryError} (hplan : s.plan r.filter r.length = .count)
      (h : (s.executor.count r.filter).failure? .store = some e) : CallFails s r e
  | find {limit : Limit} {e : QueryError} (hplan : s.plan r.filter r.length = .find limit)
      (h : (s.executor.find r.filter limit).failure? .store = some e) : CallFails s r e
  | lookup {spec : Specifier} {e : QueryError} (hspec : spec ∈ r.specifiers.list)
      (h : (s.executor.lookup spec r.filter).failure? (.lookup spec.responseKey) = some e) :
      CallFails s r e

variable {s : Service} {r : Request}

theorem fetched_iff {result : ResultSet} :
    s.Fetched r result ↔ s.fetch r.filter (s.plan r.filter r.length) = .value result := by
  constructor
  · intro h
    cases h with
    | skip hplan => rw [hplan]; rfl
    | count hplan h => rw [hplan, fetch, h]; rfl
    | find hplan h => rw [hplan, fetch, h]; rfl
  · intro h
    cases hplan : s.plan r.filter r.length with
    | skip =>
        rw [hplan] at h
        cases h
        exact .skip hplan
    | count =>
        rw [hplan, fetch] at h
        cases hn : s.executor.count r.filter with
        | value n => rw [hn] at h; cases h; exact .count hplan hn
        | failed e => rw [hn] at h; cases h
        | brokeOff b => rw [hn] at h; cases h
    | find limit =>
        rw [hplan, fetch] at h
        cases hfound : s.executor.find r.filter limit with
        | value found => rw [hfound] at h; cases h; exact .find hplan hfound
        | failed e => rw [hfound] at h; cases h
        | brokeOff b => rw [hfound] at h; cases h

theorem callFailure?_fetch :
    s.callFailure? r .fetch = match s.plan r.filter r.length with
      | .skip => none
      | .count => (s.executor.count r.filter).failure? .store
      | .find limit => (s.executor.find r.filter limit).failure? .store := by
  simp only [callFailure?, completion?, Option.bind_some, Completion.failure?]
  cases s.plan r.filter r.length with
  | skip => rfl
  | count => exact Outcome.failure?_map _ _
  | find limit => exact Outcome.failure?_map _ _

theorem callFailure?_lookup {i : Nat} {spec : Specifier}
    (hi : r.specifiers.list[i]? = some spec) :
    s.callFailure? r (.lookup i) =
      (s.executor.lookup spec r.filter).failure? (.lookup spec.responseKey) :=
  lookupFailure?_eq hi

theorem callFails_iff {e : QueryError} :
    s.CallFails r e ↔ ∃ c ∈ calls r, s.callFailure? r c = some e := by
  constructor
  · intro h
    cases h with
    | count hplan h =>
        exact ⟨.fetch, List.mem_cons_self, by rw [callFailure?_fetch, hplan]; exact h⟩
    | find hplan h =>
        exact ⟨.fetch, List.mem_cons_self, by rw [callFailure?_fetch, hplan]; exact h⟩
    | lookup hspec h =>
        obtain ⟨i, hi⟩ := List.getElem?_of_mem hspec
        have hlt := (List.getElem?_eq_some_iff.mp hi).1
        exact ⟨.lookup i, lookup_mem_calls.mpr hlt, by rw [callFailure?_lookup hi]; exact h⟩
  · rintro ⟨c, hc, h⟩
    cases c with
    | fetch =>
        rw [callFailure?_fetch] at h
        cases hplan : s.plan r.filter r.length with
        | skip => rw [hplan] at h; cases h
        | count => rw [hplan] at h; exact .count hplan h
        | find limit => rw [hplan] at h; exact .find hplan h
    | lookup i =>
        have hi := List.getElem?_eq_getElem (lookup_mem_calls.mp hc)
        rw [callFailure?_lookup hi] at h
        exact .lookup (List.mem_of_getElem? hi) h

theorem answers_of_no_failure (h : ∀ c ∈ calls r, s.callFailure? r c = none) :
    ∃ result values, s.Answers r result values := by
  have hfetch : ∃ result, s.fetch r.filter (s.plan r.filter r.length) = .value result := by
    have hnone := h .fetch List.mem_cons_self
    simpa [callFailure?, completion?, Completion.failure?, Outcome.failure?_eq_none_iff]
      using hnone
  have hlookup : ∀ spec ∈ r.specifiers.list,
      ∃ l, s.executor.lookup spec r.filter = .value l := by
    intro spec hspec
    obtain ⟨i, hi⟩ := List.getElem?_of_mem hspec
    have hlt := (List.getElem?_eq_some_iff.mp hi).1
    have hnone := h (.lookup i) (lookup_mem_calls.mpr hlt)
    rw [callFailure?_lookup hi] at hnone
    exact Outcome.failure?_eq_none_iff.mp hnone
  obtain ⟨result, hresult⟩ := hfetch
  choose! values hvalues using hlookup
  exact ⟨result, values, hresult, hvalues⟩

/-- **The errors that a request may come to are those of its failing calls.** -/
theorem possible_error_iff {e : QueryError} : s.Possible r (.error e) ↔ s.CallFails r e := by
  rw [callFails_iff]
  constructor
  · rintro ⟨order, horder, h⟩
    obtain ⟨c, hc, hfails⟩ :=
      List.exists_of_findSome?_eq_some (executeInOrder_eq_error_iff.mp h)
    exact ⟨c, horder.mem_iff.mp hc, hfails⟩
  · rintro ⟨c, hc, hfails⟩
    -- The failing call completes before all others.
    refine ⟨c :: (calls r).erase c, (List.perm_cons_erase hc).symm, ?_⟩
    rw [executeInOrder_eq_error_iff, List.findSome?_cons, hfails]

/-- **A request comes to an answer exactly if all of its calls answer, and then to this one.** -/
theorem possible_ok_iff {envelope : Envelope} :
    s.Possible r (.ok envelope) ↔ ∃ result values, s.Answers r result values ∧
      envelope = .success result
        (if r.specifiers.isEmpty then none
          else some (r.specifiers.list.map fun spec => (spec.responseKey, values spec))) := by
  constructor
  · rintro ⟨order, horder, h⟩
    have hnone : ∀ c ∈ calls r, s.callFailure? r c = none := by
      intro c hc
      cases hfirst : order.findSome? (s.callFailure? r) with
      | none => exact List.findSome?_eq_none_iff.mp hfirst c (horder.mem_iff.mpr hc)
      | some e =>
          rw [executeInOrder_eq_error_iff.mpr hfirst] at h
          cases h
    obtain ⟨result, values, hanswers⟩ := answers_of_no_failure hnone
    rw [hanswers.executeInOrder_answers horder] at h
    exact ⟨result, values, hanswers, (Except.ok.inj h).symm⟩
  · rintro ⟨result, values, hanswers, rfl⟩
    exact ⟨calls r, List.Perm.refl _, hanswers.executeInOrder_answers (List.Perm.refl _)⟩

/-- Services that agree on the calls of a request agree on the request. -/
theorem executeInOrder_congr {y : Executor}
    (hfetch : s.executor.SameFetch y r.filter (s.plan r.filter r.length))
    (hlookup : ∀ spec ∈ r.specifiers.list,
      s.executor.lookup spec r.filter = y.lookup spec r.filter) (order : List Call) :
    s.executeInOrder r order = { s with executor := y }.executeInOrder r order := by
  have hcompletion : ∀ c, s.completion? r c = { s with executor := y }.completion? r c := by
    intro c
    cases c with
    | fetch =>
        -- The plan depends on the policy, and not on the executor.
        change some _ = some (Completion.fetch
          (fetch { s with executor := y } r.filter (s.plan r.filter r.length)))
        cases hplan : s.plan r.filter r.length with
        | skip => rfl
        | count =>
            rw [hplan] at hfetch
            simp only [fetch]
            rw [show s.executor.count r.filter = y.count r.filter from hfetch]
        | find limit =>
            rw [hplan] at hfetch
            simp only [fetch]
            rw [show s.executor.find r.filter limit = y.find r.filter limit from hfetch]
    | lookup i =>
        cases hi : r.specifiers.list[i]? with
        | none => simp [completion?, lookup?, hi]
        | some spec => simp [completion?, lookup?, hi, hlookup spec (List.mem_of_getElem? hi)]
  simp only [executeInOrder, funext hcompletion]

theorem possible_congr {y : Executor}
    (hfetch : s.executor.SameFetch y r.filter (s.plan r.filter r.length))
    (hlookup : ∀ spec ∈ r.specifiers.list,
      s.executor.lookup spec r.filter = y.lookup spec r.filter)
    (o : Except QueryError Envelope) :
    s.Possible r o ↔ { s with executor := y }.Possible r o := by
  simp only [Possible, executeInOrder_congr hfetch hlookup]

/-- **A request has all of its answers or one of its errors.**  It comes to an answer exactly
if the planned call and all lookups answer, the answer then holds what they answered and
nothing else, and otherwise the request comes to the error of a call that failed, which is
sent with nothing but its message.  No call that is not made can change this. -/
theorem execute_all_or_nothing (s : Service) (r : Request) :
    (∃ o, s.Possible r o) ∧
    (∀ o, s.Possible r o →
      ((∃ envelope, o = .ok envelope) ↔
        (∃ result, s.Fetched r result) ∧
          ∀ spec ∈ r.specifiers.list, ∃ l, s.executor.lookup spec r.filter = .value l) ∧
      (∀ envelope, o = .ok envelope → ∃ result, ∃ values : Specifier → List Value,
        s.Fetched r result ∧
        (∀ spec ∈ r.specifiers.list, s.executor.lookup spec r.filter = .value (values spec)) ∧
        envelope = .success result
          (if r.specifiers.isEmpty then none
            else some (r.specifiers.list.map fun spec => (spec.responseKey, values spec)))) ∧
      (∀ e, o = .error e → s.CallFails r e ∧ envelopeOf o = .failure e.message ∧
        (envelopeOf o).members = [("success", .bool false), ("error", .string e.message)])) ∧
    (∀ y : Executor, s.executor.SameFetch y r.filter (s.plan r.filter r.length) →
      (∀ spec ∈ r.specifiers.list,
        s.executor.lookup spec r.filter = y.lookup spec r.filter) →
      ∀ o, s.Possible r o ↔ { s with executor := y }.Possible r o) ∧
    (r.length = .countOnly → ∀ (find : Filter → Limit → Outcome Found) (o),
      s.Possible r o ↔
        { s with executor := { s.executor with find := find } }.Possible r o) ∧
    (∀ (x : Submission) (e : QueryError), x.check = .error e →
      ∀ (y : Executor) (elapsed? : Option Nat),
        { s with executor := y }.handle x elapsed? =
          (.ofError e, auditRecord elapsed? (.error e))) := by
  refine ⟨⟨_, calls r, List.Perm.refl _, rfl⟩, fun o ho => ⟨⟨?_, ?_⟩, ?_, ?_⟩, ?_, ?_, ?_⟩
  · rintro ⟨envelope, rfl⟩
    obtain ⟨result, values, hanswers, -⟩ := possible_ok_iff.mp ho
    exact ⟨⟨result, fetched_iff.mpr hanswers.fetch⟩,
      fun spec hspec => ⟨_, hanswers.lookup spec hspec⟩⟩
  · rintro ⟨⟨result, hresult⟩, hlookup⟩
    choose! values hvalues using hlookup
    have hanswers : s.Answers r result values := ⟨fetched_iff.mp hresult, hvalues⟩
    obtain ⟨order, horder, rfl⟩ := ho
    exact ⟨_, hanswers.executeInOrder_answers horder⟩
  · rintro envelope rfl
    obtain ⟨result, values, hanswers, rfl⟩ := possible_ok_iff.mp ho
    exact ⟨result, values, fetched_iff.mpr hanswers.fetch, hanswers.lookup, rfl⟩
  · rintro e rfl
    exact ⟨possible_error_iff.mp ho, rfl, rfl⟩
  · exact fun y hfetch hlookup => possible_congr hfetch hlookup
  · intro hlength find o
    have hplan : s.plan r.filter r.length = .count := by rw [hlength]; rfl
    have hfetch : s.executor.SameFetch { s.executor with find := find } r.filter
        (s.plan r.filter r.length) := by
      rw [hplan]
      rfl
    exact possible_congr hfetch (fun _ _ => rfl) o
  · intro x e hx y elapsed?
    simp [handle, outcome, hx, envelopeOf]

/-- A service that counts three documents and finds none, and that has the values of every field
but one. -/
def oneFieldDown : Service :=
  ⟨⟨fun _ _ => .brokeOff "find", fun _ => .value 3, fun path _ =>
    if path = "fields.b" then .failed (.io "down") else .value [.string path]⟩, .standard⟩

/-- A field that cannot be looked up matters only if it is asked for, and a search that breaks off
does not matter to a request that only counts. -/
theorem execute_all_or_nothing_oneFieldDown :
    (∀ o, oneFieldDown.Possible ⟨.empty, .countOnly, .ofTexts ["a", "c"]⟩ o →
      o = .ok (.success (.count 3)
        (some [("a", [.string "fields.a"]), ("c", [.string "fields.c"])]))) ∧
      ∀ o, oneFieldDown.Possible ⟨.empty, .countOnly, .ofTexts ["a", "b"]⟩ o →
        o = .error (.lookup "b" (.io "down")) := by
  constructor
  · intro o ho
    have hlist : (Specifiers.ofTexts ["a", "c"]).list = [.field "a", .field "c"] := by decide
    obtain ⟨-, hpossible, -⟩ :=
      execute_all_or_nothing oneFieldDown ⟨.empty, .countOnly, .ofTexts ["a", "c"]⟩
    obtain ⟨hiff, hok, -⟩ := hpossible o ho
    have hlookup : ∀ spec ∈ (Specifiers.ofTexts ["a", "c"]).list,
        ∃ l, oneFieldDown.executor.lookup spec .empty = .value l := by
      simp only [hlist, List.mem_cons, List.not_mem_nil, or_false, forall_eq_or_imp, forall_eq]
      exact ⟨⟨_, rfl⟩, _, rfl⟩
    obtain ⟨envelope, rfl⟩ := hiff.mpr ⟨⟨_, .count rfl rfl⟩, hlookup⟩
    obtain ⟨result, values, hresult, hvalues, rfl⟩ := hok envelope rfl
    have hfirst : values (.field "a") = [.string "fields.a"] :=
      (Outcome.value.inj (hvalues (.field "a") (by simp [hlist]))).symm
    have hsecond : values (.field "c") = [.string "fields.c"] :=
      (Outcome.value.inj (hvalues (.field "c") (by simp [hlist]))).symm
    cases hresult with
    | skip hplan => cases hplan
    | find hplan _ => cases hplan
    | count _ h =>
        cases h
        simp [Specifiers.isEmpty, hlist, hfirst, hsecond, Specifier.responseKey]
  · intro o ho
    obtain ⟨-, hpossible, -⟩ :=
      execute_all_or_nothing oneFieldDown ⟨.empty, .countOnly, .ofTexts ["a", "b"]⟩
    have hlist : (Specifiers.ofTexts ["a", "b"]).list = [.field "a", .field "b"] := by decide
    obtain ⟨hiff, -, herror⟩ := hpossible o ho
    cases o with
    | ok envelope =>
        obtain ⟨-, hlookup⟩ := hiff.mp ⟨envelope, rfl⟩
        obtain ⟨l, hl⟩ := hlookup (.field "b") (by simp [hlist])
        cases hl
    | error e =>
        obtain ⟨hfails, -⟩ := herror e rfl
        cases hfails with
        | count _ h => cases h
        | find hplan _ => cases hplan
        | lookup hspec h =>
          rw [hlist] at hspec
          obtain rfl | rfl := by simpa using hspec
          · cases h
          · cases h
            rfl

end Service
end SeriesCatalog
