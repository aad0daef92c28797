import SeriesCatalog.Service.Envelope
import SeriesCatalog.Store.Executor

/-!
# Calls that run at the same time

A request makes one call for its documents and one for each specifier.  The calls run at
the same time and complete in any order.  The first failure in that order is the error of
the request; if there is none, the answers are put together in the order of the request.

* `Progress.complete`: takes the completion of one call.
* `gather`: takes completions one after the other, up to the first failure.
-/

namespace SeriesCatalog

/-- A call that has completed. -/
inductive Completion
  /-- The call for the documents. -/
  | fetch (outcome : Outcome ResultSet)
  /-- The call for the specifier at a place, with its key in the answer. -/
  | lookup (place : Nat) (key : String) (outcome : Outcome (List Value))

/-- The answers that have come in. -/
structure Progress where
  /-- The result of the call for the documents. -/
  result? : Option ResultSet
  /-- The values for each specifier. -/
  slots : List (Option (List Value))

namespace Progress

/-- No answers yet, for a number of specifiers. -/
def start (n : Nat) : Progress :=
  ⟨none, List.replicate n none⟩

/-- Takes the completion of a call, or its failure. -/
def complete (p : Progress) : Completion → Except QueryError Progress
  | .fetch (.value r) => .ok { p with result? := some r }
  | .fetch (.failed e) => .error (.store e)
  | .fetch (.brokeOff b) => .error (.task b)
  | .lookup i _ (.value l) => .ok { p with slots := p.slots.set i (some l) }
  | .lookup _ key (.failed e) => .error (.lookup key e)
  | .lookup _ _ (.brokeOff b) => .error (.task b)

end Progress

/-- Takes completions one after the other. -/
def gather (p : Progress) : List Completion → Except QueryError Progress
  | [] => .ok p
  | c :: l =>
      match p.complete c with
      | .ok p => gather p l
      | .error e => .error e

/-- The lists of different values that have come in, with their keys. -/
def Progress.distinctMap (p : Progress) (s : Specifiers) : DistinctMap :=
  (s.list.zip p.slots).map fun e => (e.1.responseKey, e.2.getD [])

end SeriesCatalog
