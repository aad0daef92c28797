import SeriesCatalog.Document.Written
import SeriesCatalog.Json.Writer
import SeriesCatalog.Query.Error

/-!
# Answers

An answer is a success, with documents, a count or neither and possibly with lists of
different values, or a failure with its message.
-/

namespace SeriesCatalog

/-- What the search for documents came to. -/
inductive ResultSet
  /-- Neither documents nor a count were asked for. -/
  | nothing
  /-- The number of documents that match. -/
  | count (n : Nat)
  /-- Documents with the number of all that match. -/
  | page (documents : List Document) (count : Nat)

/-- Keys of an answer with lists of different values, in the order of the request. -/
abbrev DistinctMap := Entries (List Value)

namespace ResultSet

/-- The number of documents that match. -/
def count? : ResultSet → Option Nat
  | nothing => none
  | count n => some n
  | page _ n => some n

def documents? : ResultSet → Option (List Document)
  | page l _ => some l
  | _ => none

end ResultSet

/-- The answer to a request. -/
inductive Envelope
  | success (result : ResultSet) (distinct? : Option DistinctMap)
  | failure (message : String)

/-- Lists of different values as JSON. -/
def DistinctMap.toJson (m : DistinctMap) : Json :=
  .object (m.map fun e => (e.1, .list (Value.itemsToJson e.2)))

/-- Lists of different values as JSON, or the complaint about the first value that cannot be
written. -/
def DistinctMap.writeBy (write : Value → Except String Json) (m : DistinctMap) :
    Except String Json :=
  .object <$> m.mapM fun e => (fun l => (e.1, Json.list l)) <$> e.2.mapM write

namespace Envelope

/-- The answer to a request with an error. -/
def ofError (e : QueryError) : Envelope :=
  failure e.message

/-- Whether the answer is a success. -/
def isSuccess : Envelope → Bool
  | success _ _ => true
  | failure _ => false

/-- The number of documents that match. -/
def count? : Envelope → Option Nat
  | success r _ => r.count?
  | failure _ => none

def documents? : Envelope → Option (List Document)
  | success r _ => r.documents?
  | failure _ => none

def distinct? : Envelope → Option DistinctMap
  | success _ d => d
  | failure _ => none

def message? : Envelope → Option String
  | success _ _ => none
  | failure m => some m

/-- The members of the object that writes an answer. -/
def members : Envelope → List (String × Json)
  | success r d =>
      ("success", .bool true)
        :: ((r.documents?.map fun l => ("content", Json.list (l.map Document.toJson))).toList
          ++ (r.count?.map fun n : Nat => ("len", Json.whole n)).toList
          ++ (d.map fun m => ("distinct", m.toJson)).toList)
  | failure m => [("success", .bool false), ("error", .string m)]

def toJson (e : Envelope) : Json :=
  .object e.members

/-- The members of the object that writes an answer, or the complaint about the first value
that cannot be written. -/
def membersBy (write : Value → Except String Json) :
    Envelope → Except String (List (String × Json))
  | success r d => do
      let content? ← r.documents?.mapM fun l => l.mapM fun doc => write (.document doc)
      let lists? ← d.mapM (DistinctMap.writeBy write)
      pure (("success", .bool true)
        :: ((content?.map fun l => ("content", Json.list l)).toList
          ++ (r.count?.map fun n : Nat => ("len", Json.whole n)).toList
          ++ (lists?.map fun m => ("distinct", m)).toList))
  | failure m => pure [("success", .bool false), ("error", .string m)]

/-- The line of an answer.  If a value cannot be written, it is the line of a failure with the
complaint. -/
def lineBy (write : Value → Except String Json) (e : Envelope) : String :=
  match e.membersBy write with
  | .ok m => (Json.object m).text
  | .error complaint =>
      match (failure ("Serialization failure: " ++ complaint)).membersBy write with
      | .ok m => (Json.object m).text
      | .error _ => "\x7b\"success\":false\x7d"

/-- The line of an answer whose values are written in their JSON forms. -/
def line (e : Envelope) : String :=
  e.lineBy fun v => .ok v.toJson

end Envelope

end SeriesCatalog
