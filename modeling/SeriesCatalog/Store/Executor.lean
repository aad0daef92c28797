import SeriesCatalog.Query.Specifier
import SeriesCatalog.Store.Basic
import SeriesCatalog.Text.Quoted

/-!
# Executors

An executor answers the three questions of a store.  An answer may also be a failure, and
a call may break off.

* `Breakdown.text`: what is reported of a call that broke off.
* `Store.executor`: the executor of a store, which always answers.
* `Executor.lookup`: the different values that a specifier asks for.
-/

namespace SeriesCatalog

universe u v

/-- How a task broke off.  A task has a number, which may be left open. -/
inductive Breakdown
  /-- The task panicked, with a message unless it gave something else. -/
  | panicked (task? : Option Nat) (message? : Option String)
  /-- The task was cancelled before its end. -/
  | cancelled (task? : Option Nat)
deriving DecidableEq, Repr

namespace Breakdown

/-- The number of a task, or what stands for one that is left open. -/
def shownTask : Option Nat → String
  | some n => toString n
  | none => "<n>"

/-- What is reported of a task that broke off. -/
def text : Breakdown → String
  | panicked task? (some m) =>
      "task " ++ shownTask task? ++ " panicked with message " ++ Text.quoted m
  | panicked task? none => "task " ++ shownTask task? ++ " panicked"
  | cancelled task? => "task " ++ shownTask task? ++ " was cancelled"

end Breakdown

/-- A message by itself stands for a panic with it, in a task whose number is left open. -/
instance : Coe String Breakdown :=
  ⟨fun message => .panicked none (some message)⟩

/-- A breakdown is reported by its text. -/
instance : Coe Breakdown String :=
  ⟨Breakdown.text⟩

/-- What a call came to. -/
inductive Outcome (α : Type u)
  | value (a : α)
  | failed (e : StoreError)
  | brokeOff (b : Breakdown)

/-- Applies a function to the answer of a call. -/
def Outcome.map {α : Type u} {β : Type v} (f : α → β) : Outcome α → Outcome β
  | .value a => .value (f a)
  | .failed e => .failed e
  | .brokeOff b => .brokeOff b

/-- The questions of a store. -/
structure Executor where
  /-- Searches for documents up to a limit. -/
  find : Filter → Limit → Outcome Found
  count : Filter → Outcome Nat
  /-- Lists the different values at the end of a path. -/
  distinct : String → Filter → Outcome (List Value)

def Store.executor (s : Store) : Executor :=
  { find := fun f l => .value (s.find f l)
    count := fun f => .value (s.count f)
    distinct := fun path f => .value (s.distinct path f) }

/-- Adds a text to texts in ascending order, unless it is among them. -/
def insertText (t : String) : List String → List String
  | [] => [t]
  | u :: l => if t < u then t :: u :: l else if t = u then u :: l else u :: insertText t l

/-- The keys of the documents among values, in ascending order. -/
def keysOfDocuments (values : List Value) : List String :=
  values.foldl
    (fun keys v => match v with
      | .document m => (Entries.keys m).foldl (fun l k => insertText k l) keys
      | _ => keys)
    []

/-- What the answer to the question of a specifier means. -/
def Specifier.interpret : Specifier → List Value → List Value
  | .field _, values => values
  | .schemaKeys, values => (keysOfDocuments values).map .string

/-- The different values that a specifier asks for. -/
def Executor.lookup (e : Executor) (s : Specifier) (f : Filter) : Outcome (List Value) :=
  (e.distinct s.storePath f).map s.interpret

end SeriesCatalog
