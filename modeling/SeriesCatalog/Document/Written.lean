import SeriesCatalog.Document.Value
import SeriesCatalog.Json.Basic
import SeriesCatalog.Text.Base64

/-!
# Documents written as JSON

A number is written as a number, octets of the general kind as a list of numbers, and every
other value of a kind that JSON does not have as an object with its special key.
-/

namespace SeriesCatalog
namespace Value

def writtenId (id : ObjectId) : Json :=
  .object [("$oid", .string id.hex)]

mutual

def toJson : Value → Json
  | double d => match d with
      | .finite .. => .double d
      | .infinite _ => .null
      | .nan => .null
  | decimal d => .object [("$numberDecimal", .string d.text)]
  | string s => .string s
  | array l => .list (itemsToJson l)
  | document m => .object (membersToJson m)
  | bool b => .bool b
  | null => .null
  | int32 n => .whole n
  | int64 n => .whole n
  | objectId id => writtenId id
  | dateTime n => .object [("$date", .object [("$numberLong", .string (toString n))])]
  | binary s l =>
      if s = 0 then .list (l.map fun b => .whole b.toNat)
      else .object [("$binary", .object
        [("base64", .string (String.ofList (Text.Base64.encode l))),
          ("subType", .string (String.ofList (Text.hexText 2 s.toNat)))])]
  | code s => .object [("$code", .string s)]
  | scopedCode s m => .object [("$code", .string s), ("$scope", .object (membersToJson m))]
  | symbol s => .object [("$symbol", .string s)]
  | regex p o =>
      .object [("$regularExpression",
        .object [("pattern", .string p), ("options", .string o)])]
  | timestamp t i => .object [("$timestamp", .object [("t", .whole t), ("i", .whole i)])]
  | pointer s id =>
      .object [("$dbPointer", .object [("$ref", .string s), ("$id", writtenId id)])]
  | minKey => .object [("$minKey", .whole 1)]
  | maxKey => .object [("$maxKey", .whole 1)]
  | undefined => .object [("$undefined", .bool true)]

/-- The items of a list as JSON. -/
def itemsToJson : List Value → List Json
  | [] => []
  | v :: l => toJson v :: itemsToJson l

/-- The entries of a document as JSON. -/
def membersToJson : List (String × Value) → List (String × Json)
  | [] => []
  | (k, v) :: l => (k, toJson v) :: membersToJson l

end

end Value

def Document.toJson (d : Document) : Json :=
  .object (Value.membersToJson d)

end SeriesCatalog
