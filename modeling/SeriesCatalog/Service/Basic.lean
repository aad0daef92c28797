import SeriesCatalog.Logging.Level
import SeriesCatalog.Query.Request
import SeriesCatalog.Service.Fanout
import SeriesCatalog.Service.Policy

/-!
# The service

A service answers requests with an executor, under a policy.

* `Service.plan`: the call for the documents of a request.
* `Service.execute`: the answer to a request, for an order in which its calls complete.
* `Service.handle`: the answer to a submission, with the record of it in the audit log.
-/

namespace SeriesCatalog

/-- The call for the documents of a request. -/
inductive Plan
  | skip
  | count
  | find (limit : Limit)
deriving DecidableEq, Repr

structure Service where
  executor : Executor
  policy : Policy := .standard

/-- A call of a request. -/
inductive Call
  /-- The call for the documents. -/
  | fetch
  /-- The call for the specifier at a place. -/
  | lookup (place : Nat)
deriving DecidableEq, Repr

namespace Service

def plan (s : Service) (f : Filter) : Length → Plan
  | .countOnly => .count
  | .bounded n => .find (.atMost n)
  | .unbounded =>
      if f.isEmpty then
        match s.policy with
        | .countOnly => .count
        | .returnAll => .find .unlimited
        | .nothing => .skip
      else .find .unlimited

/-- Makes the call for the documents. -/
def fetch (s : Service) (f : Filter) : Plan → Outcome ResultSet
  | .skip => .value .nothing
  | .count => (s.executor.count f).map .count
  | .find limit => (s.executor.find f limit).map fun r => .page r.documents r.matched

/-- The calls of a request in the order of the request. -/
def calls (r : Request) : List Call :=
  .fetch :: (List.range r.specifiers.list.length).map .lookup

/-- Makes the call for the specifier at a place. -/
def lookup? (s : Service) (specifiers : Specifiers) (f : Filter) (place : Nat) :
    Option Completion :=
  (specifiers.list[place]?).map fun spec =>
    .lookup place spec.responseKey (s.executor.lookup spec f)

/-- Makes a call of a request. -/
def completion? (s : Service) (r : Request) : Call → Option Completion
  | .fetch => some (.fetch (s.fetch r.filter (s.plan r.filter r.length)))
  | .lookup i => s.lookup? r.specifiers r.filter i

/-- The answer to a request whose calls complete in a given order. -/
def executeInOrder (s : Service) (r : Request) (order : List Call) :
    Except QueryError Envelope :=
  let start := Progress.start r.specifiers.list.length
  match gather start (order.filterMap (s.completion? r)) with
  | .error e => .error e
  | .ok p =>
      let distinct? := if r.specifiers.isEmpty then none else some (p.distinctMap r.specifiers)
      .ok (.success (p.result?.getD .nothing) distinct?)

/-- The answer to a request whose calls complete in the order of the request. -/
def execute (s : Service) (r : Request) : Except QueryError Envelope :=
  s.executeInOrder r (calls r)

/-- The lists of different values for specifiers whose lookups complete in a given order. -/
def aggregateInOrder (s : Service) (specifiers : Specifiers) (f : Filter)
    (order : List Nat) : Except QueryError DistinctMap :=
  let start := Progress.start specifiers.list.length
  match gather start (order.filterMap (s.lookup? specifiers f)) with
  | .error e => .error e
  | .ok p => .ok (p.distinctMap specifiers)

/-- The lists of different values for specifiers, looked up in the order of the request. -/
def aggregate (s : Service) (specifiers : Specifiers) (f : Filter) :
    Except QueryError DistinctMap :=
  s.aggregateInOrder specifiers f (List.range specifiers.list.length)

/-- A number that may be absent, as the audit log shows it. -/
def shownCount : Option Nat → String
  | some n => s!"Some({n})"
  | none => "None"

/-- The milliseconds that a request took, as the audit log shows them where they are measured. -/
def shownTime : Option Nat → String
  | some n => s!" elapsed_ms={n}"
  | none => ""

/-- The record of an answer in the audit log. -/
def auditRecord (elapsed? : Option Nat) : Except QueryError Envelope → LogRecord
  | .ok e =>
      let fields := (e.distinct?.map List.length).getD 0
      ⟨.info, auditTarget,
        s!"outcome=ok len={shownCount e.count?} distinct={fields}" ++ shownTime elapsed?⟩
  | .error e =>
      ⟨.warn, auditTarget,
        s!"outcome=error kind={e.kind} message=\"{e.message}\"" ++ shownTime elapsed?⟩

/-- The answer that an outcome is sent as. -/
def envelopeOf : Except QueryError Envelope → Envelope
  | .ok e => e
  | .error e => .ofError e

def outcome (s : Service) (x : Submission) : Except QueryError Envelope :=
  match x.check with
  | .ok r => s.execute r
  | .error e => .error e

/-- The answer to a submission, with its audit record, which shows how many milliseconds it took
if a clock says so. -/
def handle (s : Service) (x : Submission) (elapsed? : Option Nat := none) :
    Envelope × LogRecord :=
  let o := s.outcome x
  (envelopeOf o, auditRecord elapsed? o)

/-- The answer to a line of JSON text, with its audit record.  A line that is no submission is
refused at once, and its record shows no time. -/
def handleLine (s : Service) (line : String) (elapsed? : Option Nat := none) :
    Envelope × LogRecord :=
  match Submission.read line with
  | .ok x => s.handle x elapsed?
  | .error e => (.ofError e, auditRecord none (.error e))

end Service

end SeriesCatalog
