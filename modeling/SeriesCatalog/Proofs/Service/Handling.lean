import SeriesCatalog.Proofs.Service.Execution

/-!
# Handling a line

A line is read as a submission, the submission is checked, and the calls of the request that
it makes complete in some order.  If no call fails, the order does not show.

* `Service.MayAnswer`: the answers to a line, over all orders of the calls.
* `Executor.NeverFails`: every call answers.

Results:
* `Service.mayAnswer_handleLine`: one of the answers is the one in the order of the request.
* `Service.mayAnswer_iff`: it is the only one if no call fails.
* `Store.executor_neverFails`: on a store no call fails.
-/

namespace SeriesCatalog

/-- Every call answers. -/
structure Executor.NeverFails (x : Executor) : Prop where
  find : ∀ f limit, ∃ found, x.find f limit = .value found
  count : ∀ f, ∃ n, x.count f = .value n
  distinct : ∀ path f, ∃ l, x.distinct path f = .value l

theorem Store.executor_neverFails (s : Store) : s.executor.NeverFails :=
  ⟨fun _ _ => ⟨_, rfl⟩, fun _ => ⟨_, rfl⟩, fun _ _ => ⟨_, rfl⟩⟩

theorem Executor.NeverFails.lookup {x : Executor} (h : x.NeverFails) (spec : Specifier)
    (f : Filter) : ∃ l, x.lookup spec f = .value l := by
  obtain ⟨l, hl⟩ := h.distinct spec.storePath f
  exact ⟨spec.interpret l, by rw [Executor.lookup, hl, Outcome.map]⟩

namespace Service

/-- What handling a line may give, over all orders of the calls of its request. -/
inductive MayAnswer (s : Service) (line : String) : Envelope → Prop
  | unread {e : QueryError} (hread : Submission.read line = .error e) :
      MayAnswer s line (.ofError e)
  | refused {x : Submission} {e : QueryError} (hread : Submission.read line = .ok x)
      (hcheck : x.check = .error e) : MayAnswer s line (.ofError e)
  | executed {x : Submission} {r : Request} {o : Except QueryError Envelope}
      (hread : Submission.read line = .ok x) (hcheck : x.check = .ok r)
      (ho : s.Possible r o) : MayAnswer s line (envelopeOf o)

variable {s : Service} {r : Request} {line : String} {envelope : Envelope}

theorem handleLine_of_check {x : Submission} (hread : Submission.read line = .ok x)
    (hcheck : x.check = .ok r) : (s.handleLine line).1 = envelopeOf (s.execute r) := by
  simp [handleLine, handle, outcome, hread, hcheck]

/-- The answer in the order of the request is one of the answers. -/
theorem mayAnswer_handleLine (s : Service) (line : String) :
    s.MayAnswer line (s.handleLine line).1 := by
  cases hread : Submission.read line with
  | error e =>
      simp only [handleLine, hread]
      exact .unread hread
  | ok x =>
      cases hcheck : x.check with
      | error e =>
          simp only [handleLine, handle, outcome, hread, hcheck, envelopeOf]
          exact .refused hread hcheck
      | ok r =>
          rw [handleLine_of_check hread hcheck]
          exact .executed hread hcheck ⟨calls r, List.Perm.refl _, rfl⟩

theorem not_callFails (hnever : s.executor.NeverFails) {e : QueryError} : ¬s.CallFails r e := by
  intro h
  cases h with
  | count _ h =>
      obtain ⟨n, hn⟩ := hnever.count r.filter
      rw [hn] at h
      cases h
  | @find limit _ _ h =>
      obtain ⟨found, hfound⟩ := hnever.find r.filter limit
      rw [hfound] at h
      cases h
  | @lookup spec _ _ h =>
      obtain ⟨l, hl⟩ := hnever.lookup spec r.filter
      rw [hl] at h
      cases h

theorem eq_execute_of_possible (hnever : s.executor.NeverFails)
    {o : Except QueryError Envelope} (ho : s.Possible r o) : o = s.execute r := by
  cases o with
  | error e => exact absurd (possible_error_iff.mp ho) (not_callFails hnever)
  | ok envelope =>
      obtain ⟨result, values, hanswers, rfl⟩ := possible_ok_iff.mp ho
      exact (hanswers.executeInOrder_answers (List.Perm.refl _)).symm

/-- **If no call fails, a line has one answer, whatever the order of its calls is.** -/
theorem mayAnswer_iff (hnever : s.executor.NeverFails) :
    s.MayAnswer line envelope ↔ envelope = (s.handleLine line).1 := by
  constructor
  · intro h
    cases h with
    | unread hread => simp [handleLine, hread]
    | refused hread hcheck => simp [handleLine, handle, outcome, hread, hcheck, envelopeOf]
    | executed hread hcheck ho =>
        rw [handleLine_of_check hread hcheck, eq_execute_of_possible hnever ho]
  · rintro rfl
    exact mayAnswer_handleLine s line

end Service
end SeriesCatalog
