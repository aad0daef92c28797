import Std.Data.HashMap
import SeriesCatalog.Document.Shown
import SeriesCatalog.Query.Filter
import SeriesCatalog.Query.Length
import SeriesCatalog.Store.Error

/-!
# The store

A store holds documents in the order in which their identities came first, with an index
from identities to places.

* `Store.insert`: adds a document, or replaces the one with its identity.
* `Store.upsertFields`, `Store.addPoint`, `Store.addPoints`: merge entries into a series.
* `Store.find`, `Store.count`, `Store.distinct`: the three questions that a store answers.
-/

namespace SeriesCatalog

structure Store where
  documents : Array Document
  places : Std.HashMap String Nat

/-- What a search for documents gives. -/
structure Found where
  documents : List Document
  matched : Nat

namespace Store

def empty : Store :=
  ⟨#[], ∅⟩

/-- The identity that a value stands for. -/
def identityOfValue : Value → Except StoreError String
  | .string s => .ok s
  | .objectId id => .ok id.hex
  | v => .error (.invalidDocument ("unsupported _id: " ++ v.shown))

def identity (d : Document) : Except StoreError String :=
  match Entries.lookup Series.identityKey d with
  | some v => identityOfValue v
  | none => .error (.invalidDocument "missing _id")

/-- A document with an identity, which is `fresh` if it had none. -/
def identified (fresh : ObjectId) (d : Document) : Document :=
  if Entries.contains Series.identityKey d then d
  else Entries.put Series.identityKey (.objectId fresh) d

/-- A document under its identity, which is `fresh` if it had none. -/
def named (fresh : ObjectId) (d : Document) : Except StoreError (String × Document) :=
  let d := identified fresh d
  match identity d with
  | .ok id => .ok (id, d)
  | .error e => .error e

/-- Adds a document under an identity that has no place. -/
def append (id : String) (d : Document) (s : Store) : Store :=
  let place := s.documents.size
  ⟨s.documents.push d, s.places.insert id place⟩

/-- Puts a document at the place of its identity. -/
def set (id : String) (d : Document) (s : Store) : Store :=
  match s.places[id]? with
  | some place => { s with documents := s.documents.setIfInBounds place d }
  | none => s.append id d

/-- Adds a document, or replaces the one with its identity.  The answer is the identity,
which is `fresh` if the document has none. -/
def insert (fresh : ObjectId) (d : Document) (s : Store) :
    Except StoreError (String × Store) :=
  match named fresh d with
  | .ok (id, d) => .ok (id, s.set id d)
  | .error e => .error e

/-- Merges entries into the document at a key.  Another value at that key gives way to an
empty document. -/
def mergeAt (key : String) (entries : Document) (d : Document) : Document :=
  match Entries.lookup key d with
  | some (.document old) => Entries.put key (.document (Entries.merge old entries)) d
  | _ => Entries.put key (.document (Entries.merge [] entries)) d

/-- A series without fields and points. -/
def newSeries (id : String) : Document :=
  [(Series.identityKey, .string id)]

/-- Merges entries into the document at a key of a series, which is new if there is none. -/
def mergeInto (id key : String) (entries : Document) (s : Store) : Store :=
  match s.places[id]? with
  | some place => { s with documents := s.documents.modify place (mergeAt key entries) }
  | none => s.append id (mergeAt key entries (newSeries id))

def upsertFields (id : String) (fields : Document) (s : Store) : Store :=
  s.mergeInto id Series.fieldsKey fields

/-- A value at an instant, in milliseconds since the beginning of 1970.  A store keeps nothing of
the instant but its whole second (`Point.key`), so that a finer unit would make no difference. -/
structure Point where
  instant : Int
  value : Decimal.Double

/-- The key of a point: the whole seconds up to its instant. -/
def Point.key (p : Point) : String :=
  toString (Int.fdiv p.instant 1000)

/-- The entries of points, of which the last in a second counts. -/
def entriesOfPoints (points : List Point) : Document :=
  Entries.merge [] (points.map fun p => (p.key, .double p.value))

def addPoints (id : String) (points : List Point) (s : Store) : Store :=
  s.mergeInto id Series.pointsKey (entriesOfPoints points)

/-- Merges one point into a series. -/
def addPoint (id : String) (point : Point) (s : Store) : Store :=
  s.addPoints id [point]

def size (s : Store) : Nat :=
  s.documents.size

/-- The documents that match a filter, in order. -/
def matching (s : Store) (f : Filter) : List Document :=
  s.documents.toList.filter f.matchesDocument

/-- Searches for documents up to a limit. -/
def find (s : Store) (f : Filter) (limit : Limit) : Found :=
  let all := s.matching f
  match limit.cap? with
  | none => ⟨all, all.length⟩
  | some n => ⟨all.take n, all.length⟩

def count (s : Store) (f : Filter) : Nat :=
  (s.matching f).length

/-- The different values that documents have at the end of a path, in the order in which
they came first. -/
def distinct (s : Store) (path : String) (f : Filter) : List Value :=
  (s.matching f).foldl (fun l d => Value.pushAllNew l (d.contributions path)) []

end Store

end SeriesCatalog
