import SeriesCatalog.Service.Basic

/-!
# Calls that fail

A call fails if the store fails or if the call breaks off.  Of the calls of a request, in the
order in which they complete, the first that fails gives the error of the request, and nothing
that completes later can change it.

* `Outcome.failure?`, `Service.callFailure?`: the error that a call is reported as.

Results:
* `gather_eq_error_iff`: completions come to the first failure among them, if there is one.
* `Service.executeInOrder_eq_error_iff`, `Service.aggregateInOrder_eq_error_iff`: so do a
  request and the lookups of specifiers.
-/

namespace SeriesCatalog

/-- The error that a call is reported as, if it fails. -/
def Outcome.failure? {α : Type} (report : StoreError → QueryError) :
    Outcome α → Option QueryError
  | .value _ => none
  | .failed e => some (report e)
  | .brokeOff b => some (.task b)

theorem Outcome.failure?_eq_none_iff {α : Type} {report : StoreError → QueryError}
    {o : Outcome α} : o.failure? report = none ↔ ∃ a, o = .value a := by
  cases o <;> simp [failure?]

theorem Outcome.failure?_map {α β : Type} {report : StoreError → QueryError} (f : α → β)
    (o : Outcome α) : (o.map f).failure? report = o.failure? report := by
  cases o <;> rfl

/-- The error that a completion is reported as, if its call has failed. -/
def Completion.failure? : Completion → Option QueryError
  | .fetch o => o.failure? .store
  | .lookup _ key o => o.failure? (.lookup key)

theorem Progress.complete_eq_error_iff {p : Progress} {c : Completion} {e : QueryError} :
    p.complete c = .error e ↔ c.failure? = some e := by
  cases c with
  | fetch o => cases o <;> simp [complete, Completion.failure?, Outcome.failure?]
  | lookup i key o => cases o <;> simp [complete, Completion.failure?, Outcome.failure?]

/-- The completions of calls come to the first failure among them, if there is one. -/
theorem gather_eq_error_iff {α : Type} {completion? : α → Option Completion} {l : List α}
    {p : Progress} {e : QueryError} :
    gather p (l.filterMap completion?) = .error e ↔
      l.findSome? (fun a => (completion? a).bind Completion.failure?) = some e := by
  induction l generalizing p with
  | nil => simp [gather]
  | cons a l ih =>
      cases ha : completion? a with
      | none => simpa [ha] using ih
      | some c =>
          rw [List.filterMap_cons_some ha, gather]
          cases hc : p.complete c with
          | error e' => simp [ha, Progress.complete_eq_error_iff.mp hc]
          | ok q =>
              have hanswers : c.failure? = none := by
                cases hfails : c.failure? with
                | none => rfl
                | some e' =>
                    rw [Progress.complete_eq_error_iff.mpr hfails] at hc
                    cases hc
              simpa [ha, hanswers] using ih

namespace Service

variable {s : Service} {r : Request} {e : QueryError}

/-- The error that a call of a request is reported as, if it fails. -/
def callFailure? (s : Service) (r : Request) (c : Call) : Option QueryError :=
  (s.completion? r c).bind Completion.failure?

/-- The error that the lookup for the specifier at a place is reported as, if it fails. -/
def lookupFailure? (s : Service) (specifiers : Specifiers) (f : Filter) (place : Nat) :
    Option QueryError :=
  (s.lookup? specifiers f place).bind Completion.failure?

theorem lookupFailure?_eq {specifiers : Specifiers} {f : Filter} {place : Nat}
    {spec : Specifier} (h : specifiers.list[place]? = some spec) :
    s.lookupFailure? specifiers f place =
      (s.executor.lookup spec f).failure? (.lookup spec.responseKey) := by
  simp [lookupFailure?, lookup?, h, Completion.failure?]

/-- **The first call that fails gives the error of the request.** -/
theorem executeInOrder_eq_error_iff {order : List Call} :
    s.executeInOrder r order = .error e ↔ order.findSome? (s.callFailure? r) = some e := by
  have hgather : s.executeInOrder r order = .error e ↔
      gather (.start r.specifiers.list.length) (order.filterMap (s.completion? r)) =
        .error e := by
    simp only [executeInOrder]
    split <;> simp [*]
  exact hgather.trans gather_eq_error_iff

/-- **The first lookup that fails gives the error of all of them.** -/
theorem aggregateInOrder_eq_error_iff {specifiers : Specifiers} {f : Filter}
    {order : List Nat} :
    s.aggregateInOrder specifiers f order = .error e ↔
      order.findSome? (s.lookupFailure? specifiers f) = some e := by
  have hgather : s.aggregateInOrder specifiers f order = .error e ↔
      gather (.start specifiers.list.length) (order.filterMap (s.lookup? specifiers f)) =
        .error e := by
    simp only [aggregateInOrder]
    split <;> simp [*]
  exact hgather.trans gather_eq_error_iff

end Service
end SeriesCatalog
