import SeriesCatalog.Decimal.Decimal128
import SeriesCatalog.Decimal.Double
import SeriesCatalog.Document.ObjectId
import SeriesCatalog.Entries

/-!
# Document values

A document is a list of keys with values, in order.  A value has one of twenty-one
kinds.

* `Value.same`: the equality that lists of different values go by.  Values of different
  kinds differ, the order of the keys of a document does not matter, and a number that
  equals nothing makes every value around it equal to nothing.
-/

namespace SeriesCatalog

/-- A value of a document. -/
inductive Value
  | double (value : Decimal.Double)
  | decimal (value : Decimal.Decimal128)
  | string (text : String)
  | array (items : List Value)
  | document (members : List (String × Value))
  | bool (value : Bool)
  | null
  /-- A whole number of 32 bits. -/
  | int32 (value : Int)
  /-- A whole number of 64 bits. -/
  | int64 (value : Int)
  | objectId (id : ObjectId)
  /-- An instant, in milliseconds since the beginning of 1970. -/
  | dateTime (milliseconds : Int)
  | binary (subtype : UInt8) (octets : List UInt8)
  | code (text : String)
  /-- Program text with the values of its variables. -/
  | scopedCode (text : String) (scope : List (String × Value))
  | symbol (text : String)
  /-- A pattern with its options, which are in ascending order. -/
  | regex (pattern options : String)
  /-- A count of seconds with a counter. -/
  | timestamp (seconds increment : Nat)
  /-- A reference to a document. -/
  | pointer (space : String) (id : ObjectId)
  | minKey
  | maxKey
  | undefined

abbrev Document := Entries Value

namespace Value

mutual

def same : Value → Value → Bool
  | double a, double b => a.same b
  | decimal a, decimal b => a = b
  | string a, string b => a = b
  | array a, array b => sameItems a b
  | document a, document b => a.length = b.length && sameMembers a b
  | bool a, bool b => a = b
  | null, null => true
  | int32 a, int32 b => a = b
  | int64 a, int64 b => a = b
  | objectId a, objectId b => a = b
  | dateTime a, dateTime b => a = b
  | binary s a, binary t b => s = t && a = b
  | code a, code b => a = b
  | scopedCode s a, scopedCode t b => s = t && (a.length = b.length && sameMembers a b)
  | symbol a, symbol b => a = b
  | regex p s, regex q t => p = q && s = t
  | timestamp a i, timestamp b j => a = b && i = j
  | pointer s a, pointer t b => s = t && a = b
  | minKey, minKey => true
  | maxKey, maxKey => true
  | undefined, undefined => true
  | _, _ => false

/-- Whether two lists hold equal values at equal places. -/
def sameItems : List Value → List Value → Bool
  | [], [] => true
  | v :: a, w :: b => same v w && sameItems a b
  | _, _ => false

/-- Whether every entry of a document has an equal value under its key in another. -/
def sameMembers : List (String × Value) → List (String × Value) → Bool
  | [], _ => true
  | (k, v) :: a, b =>
      (match Entries.lookup k b with
        | some w => same v w
        | none => false) && sameMembers a b

end

end Value

end SeriesCatalog
