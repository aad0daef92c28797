import SeriesCatalog.Query.Error
import SeriesCatalog.Words

/-!
# How many documents a request asks for

The directive of a request is a number: minus one asks for all documents, zero for the
count alone, and a positive number for that many documents at most.  A store has a
convention of its own, in which the number zero stands for no limit.
-/

namespace SeriesCatalog

/-- The number of documents that a store may return. -/
inductive Limit
  | unlimited
  | atMost (n : Nat)
deriving DecidableEq, Repr

namespace Limit

/-- The number that a store takes for a limit. -/
def raw : Limit → Nat
  | unlimited => 0
  | atMost n => n

/-- The limit that a store understands by a number. -/
def ofRaw : Nat → Limit
  | 0 => unlimited
  | n => atMost n

/-- The greatest number of documents, if there is one. -/
def cap? : Limit → Option Nat
  | unlimited => none
  | atMost n => some n

end Limit

/-- What a request asks for in terms of length. -/
inductive Length
  | unbounded
  | countOnly
  | bounded (n : Nat)
deriving DecidableEq, Repr

namespace Length

/-- The directive of a request that gives none. -/
def defaultDirective : Int := -1

def ofDirective (n : Int) : Except QueryError Length :=
  if n = -1 then .ok unbounded
  else if n = 0 then .ok countOnly
  else if 0 < n then .ok (bounded n.toNat)
  else .error (.invalidLength (toString n))

/-- The limit of the search for documents, if documents are asked for. -/
def limit? : Length → Option Limit
  | unbounded => some .unlimited
  | countOnly => none
  | bounded n => some (.atMost n)

def greatestDirective : Nat := Words.half64 - 1

def directive : Length → Int
  | unbounded => -1
  | countOnly => 0
  | bounded n => if n ≤ greatestDirective then n else greatestDirective

def text : Length → String
  | unbounded => "unbounded"
  | countOnly => "count-only"
  | bounded n => s!"bounded({n})"

end Length

end SeriesCatalog
