import SeriesCatalog.Proofs.Query.Submissions
import SeriesCatalog.Proofs.Service.Completions
import SeriesCatalog.Proofs.Store.Distinct

/-!
# The answer to a submission

What a service on a store answers can be said without filters, plans and calls: from the keys
with values, the length and the names that a submission gives, and the documents of the store.

* `meeting`: the documents that meet the keys and values, in the order of the store.
* `Expected.result`, `Expected.distinct?`: what is to be answered from these documents.

Result: `Service.handle_eq_expected`, the answer to every accepted submission.
-/

namespace SeriesCatalog

/-- The filter of keys and values decides whether a document meets them. -/
instance (pairs : List (String × String)) (d : Document) : Decidable (Meets pairs d) :=
  decidable_of_iff _ Filter.matchesDocument_ofPairs

/-- The documents that meet keys and values, in order. -/
def meeting (pairs : List (String × String)) (documents : List Document) : List Document :=
  documents.filter fun d => decide (Meets pairs d)

namespace Expected

/-- The result from the documents that meet the keys and values.  A length of zero asks for
their number alone, a positive length for that many of them, and minus one for all of them
or, without any key, for what the policy says. -/
def result (policy : Policy) (pairs : List (String × String)) (len : Int)
    (found : List Document) : ResultSet :=
  if len = 0 then .count found.length
  else if 0 < len then .page (found.take len.toNat) found.length
  else if pairs = [] then
    match policy with
    | .countOnly => .count found.length
    | .returnAll => .page found found.length
    | .nothing => .nothing
  else .page found found.length

/-- The different values at the end of a path, each where it comes first. -/
def valuesAt (path : String) (found : List Document) : List Value :=
  (found.flatMap fun d => d.contributions path).eraseDupsBy fun v w => w.same v

/-- The values for a name: those of the field, or the names of all fields. -/
def values (found : List Document) (name : String) : List Value :=
  if name = Series.fieldsKey then
    (keysOfDocuments (valuesAt Series.fieldsKey found)).map .string
  else valuesAt (Series.fieldPath name) found

/-- One list of values for each different name, if there is any name. -/
def distinct? (found : List Document) (names : List String) : Option DistinctMap :=
  if names = [] then none
  else some (names.eraseDups.map fun name => (name, values found name))

/-- The answer from all documents of a store. -/
def answer (policy : Policy) (documents : List Document) (pairs : List (String × String))
    (len : Int) (names : List String) : Envelope :=
  .success (result policy pairs len (meeting pairs documents))
    (distinct? (meeting pairs documents) names)

end Expected

/-- The documents that the filter of keys and values matches are those that meet them. -/
theorem Store.matching_ofPairs (s : Store) (pairs : List (String × String)) :
    s.matching (.ofPairs pairs) = meeting pairs s.documents.toList := by
  refine List.filter_congr fun d _ => ?_
  rw [Bool.eq_iff_iff, decide_eq_true_iff, Filter.matchesDocument_ofPairs]

namespace Service

variable {s : Store} {policy : Policy} {pairs : List (String × String)}

def onStore (s : Store) (policy : Policy) : Service :=
  ⟨s.executor, policy⟩

theorem fetch_count :
    (onStore s policy).fetch (.ofPairs pairs) .count =
      .value (.count (meeting pairs s.documents.toList).length) := by
  simp [fetch, onStore, Store.executor, Outcome.map, Store.count, Store.matching_ofPairs]

theorem fetch_find_unlimited :
    (onStore s policy).fetch (.ofPairs pairs) (.find .unlimited) =
      .value (.page (meeting pairs s.documents.toList)
        (meeting pairs s.documents.toList).length) := by
  simp [fetch, onStore, Store.executor, Outcome.map, Store.find, Limit.cap?,
    Store.matching_ofPairs]

theorem fetch_find_atMost (n : Nat) :
    (onStore s policy).fetch (.ofPairs pairs) (.find (.atMost n)) =
      .value (.page ((meeting pairs s.documents.toList).take n)
        (meeting pairs s.documents.toList).length) := by
  simp [fetch, onStore, Store.executor, Outcome.map, Store.find, Limit.cap?,
    Store.matching_ofPairs]

/-- Without a key and without a length the policy says what is answered. -/
theorem fetch_unbounded_nil :
    (onStore s policy).fetch (.ofPairs []) ((onStore s policy).plan (.ofPairs []) .unbounded) =
      .value (Expected.result policy [] (-1) (meeting [] s.documents.toList)) := by
  cases policy with
  | countOnly => exact fetch_count
  | returnAll => exact fetch_find_unlimited
  | nothing => rfl

/-- With a key and without a length all documents are found. -/
theorem fetch_unbounded_of_ne_nil (hpairs : pairs ≠ []) :
    (onStore s policy).fetch (.ofPairs pairs)
        ((onStore s policy).plan (.ofPairs pairs) .unbounded) =
      .value (Expected.result policy pairs (-1) (meeting pairs s.documents.toList)) := by
  have hcond : (Filter.ofPairs pairs).isEmpty = false := by
    simpa [hpairs] using Filter.isEmpty_ofPairs pairs
  have hplan : (onStore s policy).plan (.ofPairs pairs) .unbounded = .find .unlimited := by
    simp [plan, hcond]
  rw [hplan, fetch_find_unlimited]
  simp [Expected.result, hpairs]

/-- The call for the documents answers with the expected result. -/
theorem fetch_onStore {len : Int} {length : Length}
    (hlength : Length.ofDirective len = .ok length) :
    (onStore s policy).fetch (.ofPairs pairs)
        ((onStore s policy).plan (.ofPairs pairs) length) =
      .value (Expected.result policy pairs len (meeting pairs s.documents.toList)) := by
  unfold Length.ofDirective at hlength
  split at hlength
  · rename_i hall
    cases hlength
    subst hall
    by_cases hpairs : pairs = []
    · subst hpairs
      exact fetch_unbounded_nil
    · exact fetch_unbounded_of_ne_nil hpairs
  · split at hlength
    · rename_i hzero
      cases hlength
      rw [plan, fetch_count]
      simp [Expected.result, hzero]
    · split at hlength
      · rename_i hzero hpos
        cases hlength
        rw [plan, fetch_find_atMost]
        simp [Expected.result, hzero, hpos]
      · cases hlength

/-- The call for a specifier answers with the expected values. -/
theorem lookup_onStore (name : String) :
    (onStore s policy).executor.lookup (.parse name) (.ofPairs pairs) =
      .value (Expected.values (meeting pairs s.documents.toList) name) := by
  have hdistinct : ∀ path, s.distinct path (.ofPairs pairs) =
      Expected.valuesAt path (meeting pairs s.documents.toList) := by
    intro path
    rw [Store.distinct_eq, Store.matching_ofPairs, Expected.valuesAt]
  by_cases hname : name = Series.fieldsKey
  · simp [Executor.lookup, onStore, Store.executor, Specifier.parse, hname, Outcome.map,
      Specifier.storePath, Specifier.interpret, hdistinct, Expected.values]
  · simp [Executor.lookup, onStore, Store.executor, Specifier.parse, hname, Outcome.map,
      Specifier.storePath, Specifier.interpret, hdistinct, Expected.values]

theorem answers_onStore {r : Request} {len : Int} {names : List String}
    (hfilter : r.filter = .ofPairs pairs) (hlength : Length.ofDirective len = .ok r.length)
    (hspecifiers : r.specifiers = .ofTexts names) :
    (onStore s policy).Answers r
      (Expected.result policy pairs len (meeting pairs s.documents.toList))
      (fun spec =>
        Expected.values (meeting pairs s.documents.toList) spec.responseKey) where
  fetch := by
    rw [hfilter]
    exact fetch_onStore hlength
  lookup := by
    intro spec hspec
    rw [hspecifiers, Specifiers.list_ofTexts] at hspec
    obtain ⟨name, _, rfl⟩ := List.mem_map.mp hspec
    rw [hfilter, Specifier.responseKey_parse]
    exact lookup_onStore name

/-- The values for the specifiers of names, by the names. -/
theorem distinct?_ofTexts (found : List Document) (names : List String) :
    (if (Specifiers.ofTexts names).isEmpty then none
      else some ((Specifiers.ofTexts names).list.map fun spec =>
        (spec.responseKey, Expected.values found spec.responseKey))) =
      Expected.distinct? found names := by
  cases names with
  | nil => rfl
  | cons name names =>
      have hempty : (Specifiers.ofTexts (name :: names)).isEmpty = false := by
        simp [Specifiers.isEmpty, Specifiers.list_ofTexts, List.eraseDups_cons]
      simp [hempty, Expected.distinct?, Specifiers.list_ofTexts, Function.comp_def]

/-- **The answer to an accepted submission.**  What the submission gives determines the answer
from the documents of the store, in whatever order the calls of the request complete. -/
theorem handle_eq_expected (s : Store) (policy : Policy) (x : Submission) (r : Request)
    (hx : x.check = .ok r) :
    ∃ pairs len names, x.Gives pairs len names ∧
      (∀ elapsed?, ((onStore s policy).handle x elapsed?).1 =
        Expected.answer policy s.documents.toList pairs len names) ∧
      ∀ order : List Call, order.Perm (calls r) →
        (onStore s policy).executeInOrder r order =
          .ok (Expected.answer policy s.documents.toList pairs len names) := by
  obtain ⟨pairs, len, names, hgives, hfilter, hlength, hspecifiers⟩ :=
    Submission.gives_of_check hx
  have hanswers : (onStore s policy).Answers r _ _ :=
    answers_onStore hfilter hlength hspecifiers
  have horder : ∀ order : List Call, order.Perm (calls r) →
      (onStore s policy).executeInOrder r order =
        .ok (Expected.answer policy s.documents.toList pairs len names) := by
    intro order hperm
    rw [hanswers.executeInOrder_answers hperm, hspecifiers, distinct?_ofTexts]
    rfl
  refine ⟨pairs, len, names, hgives, fun elapsed? => ?_, horder⟩
  have hexecute := horder (calls r) (List.Perm.refl _)
  simp only [handle, outcome, hx, execute, hexecute, envelopeOf]

/-- Of two series, the one in Recife is found. -/
theorem handle_city_recife :
    ((onStore
        ((Store.empty.upsertFields "a" [("city", .string "Recife")]).upsertFields "b"
          [("city", .string "Olinda")]) .countOnly).handle
      (.ofParts "city=Recife" 1 (some ["city"]))).1 =
      .success
        (.page [[("_id", .string "a"), ("fields", .document [("city", .string "Recife")])]] 1)
        (some [("city", [.string "Recife"])]) := by
  have hdocuments :
      ((Store.empty.upsertFields "a" [("city", .string "Recife")]).upsertFields "b"
        [("city", .string "Olinda")]).documents.toList =
        [[("_id", .string "a"), ("fields", .document [("city", .string "Recife")])],
          [("_id", .string "b"), ("fields", .document [("city", .string "Olinda")])]] := by
    simp [Store.upsertFields, Store.mergeInto, Store.empty, Store.append]
    exact ⟨rfl, rfl⟩
  obtain ⟨pairs, len, names, hgives, hhandle, -⟩ :=
    handle_eq_expected _ .countOnly (.ofParts "city=Recife" 1 (some ["city"]))
      ⟨.ofPairs [("city", "Recife")], .bounded 1, .ofTexts ["city"]⟩ rfl
  have hcity : (Submission.ofParts "city=Recife" 1 (some ["city"])).Gives
      [("city", "Recife")] 1 ["city"] := ⟨⟨_, rfl, rfl⟩, rfl, .list ["city"]⟩
  obtain ⟨rfl, rfl, rfl⟩ := hgives.unique hcity
  rw [hhandle, hdocuments]
  rfl

end Service
end SeriesCatalog
