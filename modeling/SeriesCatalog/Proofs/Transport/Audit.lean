import Mathlib.Data.List.Basic
import SeriesCatalog.Proofs.Service.Audit
import SeriesCatalog.Proofs.Transport.Sessions

/-!
# The audit log of a session

The tasks of a session finish in any order, and each one that handles its line leaves a record.
The log is compared with the outcomes of the tasks in the order of their requests.

* `Account`: an outcome with the time that its record shows.
* `Serves`: a session of a service with the audit log that it leaves.
* `Accounts`: the accounts of the tasks, with which a log agrees.

Results:
* `Serves.exists_accounts`: there is one record for each task that has handled its line.
* `Serves.of_result_ok`: a session that comes to a number has as many records as answers.
* `one_record_each`: every request is recorded once, with what is sent for it.
-/

namespace SeriesCatalog
namespace Transport

open Service (envelopeOf auditRecord)

/-- What a task that has handled its line gives account of: what the line has come to, and the
milliseconds that its record shows. -/
structure Account where
  outcome : Except QueryError Envelope
  shown? : Option Nat

namespace Account

/-- The answer that is sent. -/
def envelope (x : Account) : Envelope :=
  envelopeOf x.outcome

/-- The record that is left. -/
def record (x : Account) : LogRecord :=
  auditRecord x.shown? x.outcome

/-- An account of a line, for the milliseconds that it took: the line may come to the outcome, and
shows the time if it is a submission. -/
structure Of (service : Service) (line : String) (elapsed? : Option Nat) (x : Account) : Prop where
  outcome : service.LineComesTo line x.outcome
  shown : x.shown? = Service.lineTime? line elapsed?

end Account

/-- A session whose tasks handle their lines with a service, by a clock that measures each of them.
A task that breaks off leaves no record. -/
inductive Serves (service : Service) (clock : Command.Clock) (lines : List Arrival) :
    List Move → State → List LogRecord → Prop
  | start : Serves service clock lines [] (.start lines) []
  | other {moves : List Move} {m : Move} {s t : State} {log : List LogRecord}
      (h : Serves service clock lines moves s log) (hm : ∀ i r, m ≠ .finish i r)
      (hstep : s.step m = some t) : Serves service clock lines (moves ++ [m]) t log
  | brokeOff {moves : List Move} {s t : State} {log : List LogRecord} {i : Nat} {b : Breakdown}
      (h : Serves service clock lines moves s log)
      (hstep : s.step (.finish i (.brokeOff b)) = some t) :
      Serves service clock lines (moves ++ [.finish i (.brokeOff b)]) t log
  | handled {moves : List Move} {s t : State} {log : List LogRecord} {i : Nat} {line : String}
      {x : Account} (h : Serves service clock lines moves s log)
      (hline : s.requests[i]? = some line) (hx : x.Of service line (clock i))
      (hstep : s.step (.finish i (.answered x.envelope)) = some t) :
      Serves service clock lines (moves ++ [.finish i (.answered x.envelope)]) t
        (log ++ [x.record])

/-- The answer of a task that has handled its line. -/
def TaskResult.handled? : TaskResult → Option Envelope
  | answered e => some e
  | brokeOff _ => none

/-- A session and its log are accounted for: those tasks have an account that have handled their
line, it is one of that line, its answer is what was answered, and the log holds the records of all
of them. -/
structure Accounts (service : Service) (clock : Command.Clock) (s : State) (log : List LogRecord)
    (accounts : List (Option Account)) : Prop where
  lines : ∀ (i : Nat) (x : Account), accounts[i]? = some (some x) →
    ∃ line, s.requests[i]? = some line ∧ x.Of service line (clock i)
  answers : s.results.map (fun r? => r?.bind TaskResult.handled?) =
    accounts.map (Option.map Account.envelope)
  records : log.Perm ((accounts.filterMap id).map Account.record)

variable {service : Service} {clock : Command.Clock} {lines : List Arrival} {moves : List Move}
  {s t : State} {log : List LogRecord} {accounts : List (Option Account)} {m : Move}

/-- If no call fails, a line has one record, which is the one of handling it. -/
theorem Account.Of.record_eq {line : String} {elapsed? : Option Nat} {x : Account}
    (h : x.Of service line elapsed?) (hnever : service.executor.NeverFails) :
    x.record = (service.handleLine line elapsed?).2 := by
  rw [h.outcome.handleLine_eq hnever, record, h.shown]

theorem Serves.reaches (h : Serves service clock lines moves s log) :
    Reaches (.start lines) moves s := by
  induction h with
  | start => exact .refl _
  | other _ _ hstep ih => exact ih.move hstep
  | brokeOff _ hstep ih => exact ih.move hstep
  | handled _ _ _ hstep ih => exact ih.move hstep

theorem accounts_start (service : Service) (clock : Command.Clock) (lines : List Arrival) :
    Accounts service clock (.start lines) [] [] :=
  ⟨by simp, rfl, .refl _⟩

/-! ## Steps -/

theorem set_of_getElem? {α : Type} {l : List α} {i : Nat} {a : α} (h : l[i]? = some a) :
    l.set i a = l := by
  obtain ⟨hi, rfl⟩ := List.getElem?_eq_some_iff.mp h
  exact List.set_getElem_self hi

/-- An element more, at whatever place, is one more in the end. -/
theorem filterMap_set_perm {α : Type} {l : List (Option α)} {i : Nat} (a : α)
    (h : l[i]? = some none) : ((l.set i (some a)).filterMap id).Perm (l.filterMap id ++ [a]) := by
  induction l generalizing i with
  | nil => simp at h
  | cons a? l ih =>
      cases i with
      | zero =>
          obtain rfl : a? = none := by simpa using h
          simpa using (List.perm_append_singleton a _).symm
      | succ i =>
          have hrest := ih (by simpa using h)
          cases a? with
          | none => simpa using hrest
          | some b => simpa using hrest.cons b

theorem State.results_of_finish {i : Nat} {r : TaskResult} (h : s.step (.finish i r) = some t) :
    s.results[i]? = some none ∧ t.requests = s.requests ∧ t.results = s.results.set i (some r) := by
  cases State.step_eq_some_iff.mp h with
  | finish hresult => exact ⟨hresult, rfl, rfl⟩

/-- A move that finishes no task adds a task without an account, or changes no task. -/
theorem Accounts.other (h : Accounts service clock s log accounts) (hm : ∀ i r, m ≠ .finish i r)
    (hstep : s.step m = some t) : ∃ accounts', Accounts service clock t log accounts' := by
  cases State.step_eq_some_iff.mp hstep with
  | readRequest =>
      refine ⟨accounts ++ [none], fun i x hi => ?_, by simp [h.answers], by simpa using h.records⟩
      rw [List.getElem?_append] at hi
      split at hi
      · obtain ⟨line, hline, hx⟩ := h.lines i x hi
        have hlt := (List.getElem?_eq_some_iff.mp hline).1
        exact ⟨line, by rwa [List.getElem?_append_left hlt], hx⟩
      · exact absurd (List.mem_of_getElem? hi) (by simp)
  | finish => exact absurd rfl (hm _ _)
  | _ => exact ⟨accounts, h.lines, h.answers, h.records⟩

/-- A task that breaks off had no account, and gets none. -/
theorem Accounts.brokeOff (h : Accounts service clock s log accounts) {i : Nat} {b : Breakdown}
    (hstep : s.step (.finish i (.brokeOff b)) = some t) :
    Accounts service clock t log accounts := by
  obtain ⟨hresult, hrequests, hresults⟩ := State.results_of_finish hstep
  refine ⟨hrequests ▸ h.lines, ?_, h.records⟩
  rw [← h.answers, hresults, List.map_set]
  exact set_of_getElem? (by simp [hresult, TaskResult.handled?])

theorem Accounts.getElem?_of_none (h : Accounts service clock s log accounts) {i : Nat}
    (hresult : s.results[i]? = some none) : accounts[i]? = some none := by
  have hi := congrArg (·[i]?) h.answers
  simp only [List.getElem?_map, hresult] at hi
  cases hx : accounts[i]? with
  | none => simp [hx] at hi
  | some x? => cases x? <;> simp [hx] at hi ⊢

theorem Accounts.handled (h : Accounts service clock s log accounts) {i : Nat} {line : String}
    {x : Account} (hline : s.requests[i]? = some line) (hx : x.Of service line (clock i))
    (hstep : s.step (.finish i (.answered x.envelope)) = some t) :
    Accounts service clock t (log ++ [x.record]) (accounts.set i (some x)) := by
  obtain ⟨hresult, hrequests, hresults⟩ := State.results_of_finish hstep
  have hnone := h.getElem?_of_none hresult
  refine ⟨fun j y hj => ?_, ?_, ?_⟩
  · rw [hrequests]
    by_cases hij : i = j
    · subst hij
      rw [List.getElem?_set_self (List.getElem?_eq_some_iff.mp hnone).1] at hj
      cases hj
      exact ⟨line, hline, hx⟩
    · rw [List.getElem?_set_ne hij] at hj
      exact h.lines j y hj
  · rw [hresults, List.map_set, List.map_set, h.answers]
    rfl
  · have hadded := (filterMap_set_perm x hnone).map Account.record
    rw [List.map_append, List.map_singleton] at hadded
    exact (h.records.append_right _).trans hadded.symm

/-! ## Sessions -/

theorem Step.getElem?_requests (h : Step s m t) {i : Nat} {line : String}
    (hline : s.requests[i]? = some line) : t.requests[i]? = some line := by
  cases h with
  | readRequest =>
      change (s.requests ++ [_])[i]? = some line
      rwa [List.getElem?_append_left (List.getElem?_eq_some_iff.mp hline).1]
  | _ => exact hline

/-- A task that finishes has a line. -/
theorem Reaches.exists_line (h : Reaches (.start lines) moves s) {i : Nat} {r : TaskResult}
    (hstep : s.step (.finish i r) = some t) : ∃ line, s.requests[i]? = some line := by
  have hlt := (List.getElem?_eq_some_iff.mp (State.results_of_finish hstep).1).1
  rw [h.readInOrder.results] at hlt
  exact ⟨_, List.getElem?_eq_getElem hlt⟩

/-- Every session whose tasks answer as the service may, or break off, leaves a log, whatever the
clock says. -/
theorem Reaches.exists_serves (h : Reaches (.start lines) moves s) (clock : Command.Clock)
    (hanswers : ∀ (i : Nat) e line, .finish i (.answered e) ∈ moves →
      s.requests[i]? = some line → service.MayAnswer line e) :
    ∃ log, Serves service clock lines moves s log := by
  generalize hstart : State.start lines = start at h
  induction h with
  | refl => exact ⟨[], hstart ▸ .start⟩
  | @move s t moves m hrun hstep ih =>
      subst hstart
      have hrule := State.step_eq_some_iff.mp hstep
      obtain ⟨log, hlog⟩ := ih fun i e line hmem hline =>
        hanswers i e line (List.mem_append_left _ hmem) (hrule.getElem?_requests hline)
      have hlast : m ∈ moves ++ [m] := List.mem_append_right _ List.mem_cons_self
      cases m with
      | finish i r =>
          cases r with
          | brokeOff b => exact ⟨log, hlog.brokeOff hstep⟩
          | answered e =>
              obtain ⟨line, hline⟩ := hrun.exists_line hstep
              obtain ⟨o, ho, rfl⟩ := Service.mayAnswer_iff_comesTo.mp
                (hanswers i e line hlast (hrule.getElem?_requests hline))
              exact ⟨_, hlog.handled (x := ⟨o, Service.lineTime? line (clock i)⟩) hline ⟨ho, rfl⟩
                hstep⟩
      | _ => exact ⟨log, hlog.other (by simp) hstep⟩

/-- **There is one record for each task that has handled its line**, in whatever order the tasks
have finished. -/
theorem Serves.exists_accounts (h : Serves service clock lines moves s log) :
    ∃ accounts, Accounts service clock s log accounts := by
  induction h with
  | start => exact ⟨[], accounts_start service clock lines⟩
  | other _ hm hstep ih =>
      obtain ⟨accounts, h⟩ := ih
      exact h.other hm hstep
  | brokeOff _ hstep ih =>
      obtain ⟨accounts, h⟩ := ih
      exact ⟨accounts, h.brokeOff hstep⟩
  | handled _ hline hx hstep ih =>
      obtain ⟨accounts, h⟩ := ih
      exact ⟨_, h.handled hline hx hstep⟩

/-- If no task breaks off and all have finished, each of them has an account. -/
theorem Accounts.eq_map_some (h : Accounts service clock s log accounts) {a : List TaskResult}
    (hresults : s.results = a.map some) (ha : ∀ b, .brokeOff b ∉ a) :
    accounts = (accounts.filterMap id).map some ∧
      a = (accounts.filterMap id).map fun x => .answered x.envelope := by
  have hanswers := h.answers
  rw [hresults, List.map_map] at hanswers
  clear h hresults
  induction accounts generalizing a with
  | nil => simpa using hanswers
  | cons x? accounts ih =>
      cases a with
      | nil => cases hanswers
      | cons r a =>
          injection hanswers with hr hrest
          obtain ⟨hsome, heq⟩ := ih (fun b hmem => ha b (List.mem_cons_of_mem r hmem)) hrest
          cases r with
          | brokeOff b => exact absurd List.mem_cons_self (ha b)
          | answered e =>
              cases x? with
              | none => cases hr
              | some x =>
                  cases hr
                  simp only [List.filterMap_cons, id, List.map_cons]
                  exact ⟨congrArg _ hsome, congrArg _ heq⟩

/-- **A session that comes to a number has as many records as answers**, if no task breaks off:
the answers are those of accounts of the requests, in their order, and the records are those of
the same accounts. -/
theorem Serves.of_result_ok (h : Serves service clock lines moves s log) {n : Nat}
    (hok : s.result? = some (.ok n)) (hmoves : ∀ i b, .finish i (.brokeOff b) ∉ moves) :
    ∃ a : List Account, a.length = n ∧
      (requestLines lines).length = n ∧
      (∀ (i : Nat) x, a[i]? = some x →
        ∃ line, (requestLines lines)[i]? = some line ∧ x.Of service line (clock i)) ∧
      s.output = transcript (a.map fun x => .answered x.envelope) ∧
      log.Perm (a.map Account.record) := by
  obtain ⟨accounts, haccounts⟩ := h.exists_accounts
  obtain ⟨-, ⟨texts, rfl, hrequests, hn⟩, b, hlength, hfinish, hout⟩ := h.reaches.of_result_ok hok
  have hknows : s.Knows b := fun i r hi => h.reaches.finish_mem_iff.mp ((hfinish i r).mpr hi)
  have hcount : b.length = s.results.length := by
    rw [hlength, hn, h.reaches.readInOrder.results, hrequests]
  have hb : ∀ breakdown, .brokeOff breakdown ∉ b := by
    intro breakdown hmem
    obtain ⟨i, hi⟩ := List.getElem?_of_mem hmem
    exact hmoves i breakdown ((hfinish i _).mpr hi)
  obtain ⟨hsome, heq⟩ := haccounts.eq_map_some (hknows.results_eq hcount) hb
  refine ⟨accounts.filterMap id, ?_, ?_, fun i x hi => ?_, heq ▸ hout, haccounts.records⟩
  · rw [← hlength, heq, List.length_map]
  · rw [requestLines_map_line, hn]
  · rw [requestLines_map_line, ← hrequests]
    exact haccounts.lines i x (by rw [hsome, List.getElem?_map, hi]; rfl)

theorem not_blank_of_mem_requestLines {line : String} (h : line ∈ requestLines lines) :
    Text.isBlankText line = false := by
  induction lines with
  | nil => cases h
  | cons arrival lines ih =>
      cases arrival with
      | unreadable c => cases h
      | line text =>
          simp only [requestLines] at h
          split at h
          · exact ih h
          · rename_i hblank
            rcases List.mem_cons.mp h with rfl | h
            · exact Bool.eq_false_iff.mpr hblank
            · exact ih h

/-! ## The program -/

theorem target_handleLine (service : Service) (line : String) (elapsed? : Option Nat) :
    (service.handleLine line elapsed?).2.target = auditTarget := by
  obtain ⟨o, -, heq⟩ := service.exists_handleLine_eq line elapsed?
  rw [heq]
  cases o <;> rfl

theorem filter_sessionRecords (service : Service) (requests : List String)
    (clock : Command.Clock) :
    (Command.sessionRecords service requests clock).filter (fun r => r.target = auditTarget) =
      requests.mapIdx fun i line => (service.handleLine line (clock i)).2 := by
  refine List.filter_eq_self.mpr fun r hr => ?_
  obtain ⟨i, hi, rfl⟩ := List.mem_mapIdx.mp hr
  simp [target_handleLine]

/-- The other record of a session, of its end, has another target. -/
theorem filter_runServe (service : Service) (input : List UInt8) (clock : Command.Clock) :
    (Command.runServe service input clock).records.filter (fun r => r.target = auditTarget) =
      (serve (Command.conduct service) (arrivals input)).requests.mapIdx
        fun i line => (service.handleLine line (clock i)).2 := by
  have hother : ¬Startup.programTarget = auditTarget := by decide
  unfold Command.runServe
  dsimp only
  split <;> simp [filter_sessionRecords, List.filter_append, hother]

theorem requests_serve {service : Service} {texts : List String} :
    (serve (Command.conduct service) (texts.map .line)).requests = nonBlank texts := by
  obtain ⟨moves, hrun, -, -⟩ := reaches_serve (Command.conduct service) (texts.map .line)
  have hok := (serve_answers (c := Command.conduct service) rfl texts).1
  obtain ⟨-, ⟨texts', htexts, hrequests, -⟩, -⟩ := hrun.of_result_ok hok
  rw [hrequests, ← requestLines_map_line, ← htexts, requestLines_map_line]

/-- The program that serves lines leaves a record for each request that it takes, in their
order, and it takes all of them if it can read all lines. -/
theorem runServe_records (service : Service) (input : List UInt8) (clock : Command.Clock) :
    ∃ requests, requests <+: requestLines (arrivals input) ∧
      (Command.runServe service input clock).records.filter (fun r => r.target = auditTarget) =
        requests.mapIdx (fun i line => (service.handleLine line (clock i)).2) ∧
      ∀ texts : List String, arrivals input = texts.map .line → requests = nonBlank texts := by
  obtain ⟨moves, hrun, -, -⟩ := reaches_serve (Command.conduct service) (arrivals input)
  refine ⟨_, hrun.readInOrder.requests_begin, filter_runServe service input clock,
    fun texts hinput => ?_⟩
  rw [hinput]
  exact requests_serve

/-- **Every request is recorded once, with what is sent for it.**  What a submission or a line
comes to is sent and recorded: a success with its count and the number of its lists of different
values, an error with its kind and the message that is sent.  A record shows the milliseconds that
were measured, unless the line is no submission.  An error is that the line is no request, that it
is refused, or that a call fails or breaks off.  In a session the tasks finish in any order, and the
log holds one record for each task that has handled its line, which is never a blank one; if all of
them have, it holds as many records as there are answers.  The program that serves lines records
them like this. -/
theorem one_record_each (service : Service) :
    (∀ x elapsed?, ∃ o, service.ComesTo x o ∧ Service.Audited elapsed? o
      (service.handle x elapsed?).1 (service.handle x elapsed?).2) ∧
    (∀ line elapsed?, ∃ o, service.LineComesTo line o ∧
      Service.Audited (Service.lineTime? line elapsed?) o
        (service.handleLine line elapsed?).1 (service.handleLine line elapsed?).2) ∧
    (∀ x o elapsed?, service.ComesTo x o →
      Service.Audited elapsed? o (envelopeOf o) (auditRecord elapsed? o)) ∧
    (∀ line elapsed? (x : Account), x.Of service line elapsed? →
      Service.Audited (Service.lineTime? line elapsed?) x.outcome x.envelope x.record) ∧
    (∀ line e, service.LineComesTo line (.error e) ↔ Submission.read line = .error e ∨
      ∃ x, Submission.read line = .ok x ∧
        (x.check = .error e ∨ ∃ r, x.check = .ok r ∧ service.CallFails r e)) ∧
    (∀ clock lines moves s, Reaches (.start lines) moves s →
      (∀ (i : Nat) e line, .finish i (.answered e) ∈ moves → s.requests[i]? = some line →
        service.MayAnswer line e) → ∃ log, Serves service clock lines moves s log) ∧
    (∀ clock lines moves s log, Serves service clock lines moves s log →
      (∃ accounts, Accounts service clock s log accounts) ∧
      (∀ line ∈ s.requests, Text.isBlankText line = false) ∧
      ∀ n, s.result? = some (.ok n) → (∀ i b, .finish i (.brokeOff b) ∉ moves) →
        ∃ a : List Account, a.length = n ∧
          (requestLines lines).length = n ∧
          (∀ (i : Nat) x, a[i]? = some x →
            ∃ line, (requestLines lines)[i]? = some line ∧ x.Of service line (clock i)) ∧
          s.output = transcript (a.map fun x => .answered x.envelope) ∧
          log.Perm (a.map Account.record)) ∧
    ∀ input clock, ∃ requests, requests <+: requestLines (arrivals input) ∧
      (Command.runServe service input clock).records.filter (fun r => r.target = auditTarget) =
        requests.mapIdx (fun i line => (service.handleLine line (clock i)).2) ∧
      ∀ texts : List String, arrivals input = texts.map .line → requests = nonBlank texts := by
  refine ⟨fun x elapsed? => ?_, fun line elapsed? => ?_, fun x o elapsed? ho => ho.audited elapsed?,
    fun line elapsed? x hx => ?_, fun line e => Service.lineComesTo_error_iff,
    fun clock lines moves s h => h.exists_serves clock, fun clock lines moves s log h => ?_,
    runServe_records service⟩
  · obtain ⟨o, ho, heq⟩ := service.exists_handle_eq x elapsed?
    exact ⟨o, ho, heq ▸ ho.audited elapsed?⟩
  · obtain ⟨o, ho, heq⟩ := service.exists_handleLine_eq line elapsed?
    exact ⟨o, ho, heq ▸ Service.audited ho _⟩
  · rw [Account.record, hx.shown]
    exact Service.audited hx.outcome _
  · refine ⟨h.exists_accounts, fun line hline => ?_, fun n hok => h.of_result_ok hok⟩
    exact not_blank_of_mem_requestLines (h.reaches.readInOrder.requests_begin.subset hline)

/-- A line that is no request and one that asks for nothing special, of which the second is
handled first. -/
def bothHandled : List Move :=
  [.read, .send, .read, .receive, .read, .finish 1 (.answered (.success (.count 0) none)), .send,
    .finish 0 (.answered (.failure "Invalid request: expected value at line 1 column 1")),
    .compose, .write (TaskResult.answered
      (.failure "Invalid request: expected value at line 1 column 1")).octets.length,
    .read, .receive, .compose,
    .write (TaskResult.answered (.success (.count 0) none)).octets.length, .flush none]

theorem one_record_each_bothHandled :
    ∃ s log, Serves ⟨Store.empty.executor, .standard⟩ (fun i => some (i + 4))
        (["x", " ", "\x7b\x7d"].map .line) bothHandled s log ∧
      s.result? = some (.ok 2) ∧
      log.Perm [⟨.info, "seriesquery::audit", "outcome=ok len=Some(0) distinct=0 elapsed_ms=5"⟩,
        ⟨.warn, "seriesquery::audit", "outcome=error kind=invalid-request " ++
          "message=\"Invalid request: expected value at line 1 column 1\""⟩] := by
  have hfinal : (bothHandled.foldlM State.step (.start (["x", " ", "\x7b\x7d"].map .line))).map
      (fun s => (s.reader, s.writer, s.answered, s.requests)) =
        some (.ended, .ended, 2, ["x", "\x7b\x7d"]) := by
    decide +kernel
  obtain ⟨s, hrun, hs⟩ := exists_reaches hfinal
  simp only [Prod.mk.injEq] at hs
  obtain ⟨hreader, hwriter, hanswered, hrequests⟩ := hs
  have hok := State.result?_eq_ok_iff.mpr ⟨.inl hreader, hwriter, hanswered⟩
  obtain ⟨-, -, -, -, -, hlogged, hrecords, -⟩ :=
    one_record_each ⟨Store.empty.executor, .standard⟩
  have hanswers : ∀ (i : Nat) e line, .finish i (.answered e) ∈ bothHandled →
      s.requests[i]? = some line →
      (⟨Store.empty.executor, .standard⟩ : Service).MayAnswer line e := by
    intro i e line hmem hline
    rw [hrequests] at hline
    obtain ⟨rfl, rfl⟩ | ⟨rfl, rfl⟩ := by simpa [bothHandled] using hmem
    · cases hline
      exact Service.mayAnswer_handleLine _ _
    · cases hline
      exact Service.mayAnswer_handleLine _ _
  obtain ⟨log, hserves⟩ := hlogged (fun i => some (i + 4)) _ _ _ hrun hanswers
  obtain ⟨-, -, hcomplete⟩ := hrecords _ _ _ _ _ hserves
  obtain ⟨a, hlength, -, hof, -, hperm⟩ := hcomplete 2 hok (by simp [bothHandled])
  have hrecord : ∀ {i : Nat} {x : Account}, a[i]? = some x → ∃ line,
      ["x", "\x7b\x7d"][i]? = some line ∧ x.record =
        ((⟨Store.empty.executor, .standard⟩ : Service).handleLine line (some (i + 4))).2 := by
    intro i x hi
    obtain ⟨line, hline, hx⟩ := hof i x hi
    exact ⟨line, hline, hx.record_eq Store.empty.executor_neverFails⟩
  obtain ⟨x, y, rfl⟩ := List.length_eq_two.mp hlength
  obtain ⟨_, hfirst, hx⟩ := hrecord (i := 0) rfl
  obtain ⟨_, hsecond, hy⟩ := hrecord (i := 1) rfl
  cases hfirst
  cases hsecond
  refine ⟨s, log, hserves, hok, hperm.trans ?_⟩
  rw [List.map_cons, List.map_singleton, hx, hy]
  exact .swap _ _ []

end Transport
end SeriesCatalog
