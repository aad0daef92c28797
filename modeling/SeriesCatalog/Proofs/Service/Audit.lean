import SeriesCatalog.Proofs.Service.Handling

/-!
# What is recorded of a request

A request comes to an answer or an error, and it is this outcome that is both sent and recorded.
A line that is no request is recorded where it is read, every other one where it is handled.

* `Service.ComesTo`, `Service.LineComesTo`: what a submission and a line may come to.
* `Service.Audited`: an outcome with the answer that is sent and the record that is made of it.
* `Service.lineTime?`: the time that the record of a line shows.

Results:
* `Service.audited`: whatever a line comes to, the record tells of the answer.
* `Service.lineComesTo_error_iff`: the errors that a line may come to.
-/

namespace SeriesCatalog
namespace Service

/-- What a submission may come to, over all orders of the calls of its request. -/
inductive ComesTo (s : Service) (x : Submission) : Except QueryError Envelope → Prop
  | refused {e : QueryError} (hcheck : x.check = .error e) : ComesTo s x (.error e)
  | executed {r : Request} {o : Except QueryError Envelope} (hcheck : x.check = .ok r)
      (ho : s.Possible r o) : ComesTo s x o

inductive LineComesTo (s : Service) (line : String) : Except QueryError Envelope → Prop
  | unread {e : QueryError} (hread : Submission.read line = .error e) :
      LineComesTo s line (.error e)
  | read {x : Submission} {o : Except QueryError Envelope}
      (hread : Submission.read line = .ok x) (ho : s.ComesTo x o) : LineComesTo s line o

/-- A count in a record: the number behind `Some`, or `None` without one. -/
inductive ShowsCount : Option Nat → String → Prop
  | some (n : Nat) : ShowsCount (some n) ("Some(" ++ toString n ++ ")")
  | none : ShowsCount none "None"

/-- The end of a record: the milliseconds where they were measured. -/
inductive ShowsTime : Option Nat → String → Prop
  | measured (n : Nat) : ShowsTime (some n) (" elapsed_ms=" ++ toString n)
  | unmeasured : ShowsTime none ""

/-- A success is sent as it is, and recorded with its count and the number of its lists of
different values.  An error is sent with its message, and recorded with its kind and message. -/
inductive Audited (elapsed? : Option Nat) :
    Except QueryError Envelope → Envelope → LogRecord → Prop
  | success {result : ResultSet} {distinct? : Option DistinctMap} {count time : String}
      (hcount : ShowsCount result.count? count) (htime : ShowsTime elapsed? time) :
      Audited elapsed? (.ok (.success result distinct?)) (.success result distinct?)
        ⟨.info, "seriesquery::audit", "outcome=ok len=" ++ count ++ " distinct=" ++
          toString ((distinct?.map List.length).getD 0) ++ time⟩
  | failure {e : QueryError} {time : String} (htime : ShowsTime elapsed? time) :
      Audited elapsed? (.error e) (.failure e.message)
        ⟨.warn, "seriesquery::audit", "outcome=error kind=" ++ e.kind ++ " message=\"" ++
          e.message ++ "\"" ++ time⟩

/-- The milliseconds that the record of a line shows: those that were measured, and none if the
line is no submission. -/
def lineTime? (line : String) (elapsed? : Option Nat) : Option Nat :=
  match Submission.read line with
  | .ok _ => elapsed?
  | .error _ => none

variable {s : Service} {x : Submission} {line : String} {o : Except QueryError Envelope}

theorem comesTo_outcome (s : Service) (x : Submission) : s.ComesTo x (s.outcome x) := by
  cases hcheck : x.check with
  | error e =>
      simp only [outcome, hcheck]
      exact .refused hcheck
  | ok r =>
      simp only [outcome, hcheck]
      exact .executed hcheck ⟨calls r, List.Perm.refl _, rfl⟩

/-- What handling gives is the answer and the record of one outcome. -/
theorem exists_handle_eq (s : Service) (x : Submission) (elapsed? : Option Nat) :
    ∃ o, s.ComesTo x o ∧ s.handle x elapsed? = (envelopeOf o, auditRecord elapsed? o) :=
  ⟨s.outcome x, comesTo_outcome s x, rfl⟩

theorem exists_handleLine_eq (s : Service) (line : String) (elapsed? : Option Nat) :
    ∃ o, s.LineComesTo line o ∧
      s.handleLine line elapsed? = (envelopeOf o, auditRecord (lineTime? line elapsed?) o) := by
  cases hread : Submission.read line with
  | error e =>
      refine ⟨.error e, .unread hread, ?_⟩
      simp only [handleLine, lineTime?, hread, envelopeOf]
  | ok x =>
      obtain ⟨o, ho, heq⟩ := exists_handle_eq s x elapsed?
      refine ⟨o, .read hread ho, ?_⟩
      simp only [handleLine, lineTime?, hread, heq]

theorem showsCount (n? : Option Nat) : ShowsCount n? (shownCount n?) := by
  cases n? with
  | none => exact .none
  | some n => exact .some n

theorem showsTime (elapsed? : Option Nat) : ShowsTime elapsed? (shownTime elapsed?) := by
  cases elapsed? with
  | none => exact .unmeasured
  | some n => exact .measured n

theorem audited_error (elapsed? : Option Nat) (e : QueryError) :
    Audited elapsed? (.error e) (envelopeOf (.error e)) (auditRecord elapsed? (.error e)) :=
  .failure (showsTime elapsed?)

theorem ComesTo.audited (h : s.ComesTo x o) (elapsed? : Option Nat) :
    Audited elapsed? o (envelopeOf o) (auditRecord elapsed? o) := by
  cases o with
  | error e => exact audited_error elapsed? e
  | ok envelope =>
      cases h with
      | executed _ ho =>
          -- A request that comes to an answer comes to a success.
          obtain ⟨result, values, -, rfl⟩ := possible_ok_iff.mp ho
          exact .success (showsCount _) (showsTime elapsed?)

/-- **Whatever a line comes to, its record tells of the answer that is sent.** -/
theorem audited (h : s.LineComesTo line o) (elapsed? : Option Nat) :
    Audited elapsed? o (envelopeOf o) (auditRecord elapsed? o) := by
  cases h with
  | unread => exact audited_error elapsed? _
  | read _ ho => exact ho.audited elapsed?

theorem comesTo_error_iff {e : QueryError} :
    s.ComesTo x (.error e) ↔ x.check = .error e ∨ ∃ r, x.check = .ok r ∧ s.CallFails r e := by
  constructor
  · rintro (hcheck | ⟨hcheck, ho⟩)
    · exact .inl hcheck
    · exact .inr ⟨_, hcheck, possible_error_iff.mp ho⟩
  · rintro (hcheck | ⟨r, hcheck, hfails⟩)
    · exact .refused hcheck
    · exact .executed hcheck (possible_error_iff.mpr hfails)

/-- **The errors of a line** are that it is no request, that its request is refused, and that a
call fails or breaks off. -/
theorem lineComesTo_error_iff {e : QueryError} :
    s.LineComesTo line (.error e) ↔ Submission.read line = .error e ∨
      ∃ x, Submission.read line = .ok x ∧
        (x.check = .error e ∨ ∃ r, x.check = .ok r ∧ s.CallFails r e) := by
  simp only [← comesTo_error_iff]
  constructor
  · rintro (hread | ⟨hread, ho⟩)
    · exact .inl hread
    · exact .inr ⟨_, hread, ho⟩
  · rintro (hread | ⟨x, hread, ho⟩)
    · exact .unread hread
    · exact .read hread ho

/-- **If no call fails, a line comes to one outcome**, which is the one that handling it records. -/
theorem LineComesTo.handleLine_eq (hnever : s.executor.NeverFails) (h : s.LineComesTo line o)
    (elapsed? : Option Nat) :
    s.handleLine line elapsed? = (envelopeOf o, auditRecord (lineTime? line elapsed?) o) := by
  cases h with
  | unread hread => simp only [handleLine, lineTime?, hread, envelopeOf]
  | read hread ho =>
      cases ho with
      | refused hcheck => simp only [handleLine, handle, outcome, lineTime?, hread, hcheck]
      | executed hcheck ho =>
          rw [eq_execute_of_possible hnever ho]
          simp only [handleLine, handle, outcome, lineTime?, hread, hcheck]

/-- The answers to a line are those of what it may come to. -/
theorem mayAnswer_iff_comesTo {envelope : Envelope} :
    s.MayAnswer line envelope ↔ ∃ o, s.LineComesTo line o ∧ envelope = envelopeOf o := by
  constructor
  · rintro (⟨hread⟩ | ⟨hread, hcheck⟩ | ⟨hread, hcheck, ho⟩)
    · exact ⟨_, .unread hread, rfl⟩
    · exact ⟨_, .read hread (.refused hcheck), rfl⟩
    · exact ⟨_, .read hread (.executed hcheck ho), rfl⟩
  · rintro ⟨o, ho, rfl⟩
    cases ho with
    | unread hread => exact .unread hread
    | read hread ho =>
        cases ho with
        | refused hcheck => exact .refused hread hcheck
        | executed hcheck ho => exact .executed hread hcheck ho

end Service
end SeriesCatalog
