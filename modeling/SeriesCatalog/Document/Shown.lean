import SeriesCatalog.Decimal.Notation
import SeriesCatalog.Document.Instant
import SeriesCatalog.Document.Value
import SeriesCatalog.Text.Base64

/-!
# Values in messages
-/

namespace SeriesCatalog
namespace Value

mutual

/-- A value as messages show it. -/
def shown : Value → String
  | double d => d.plainText
  | decimal d => d.text
  | string s => "\"" ++ s ++ "\""
  | array l => "[" ++ shownItems l ++ "]"
  | document m => "\x7b" ++ shownMembers true m
  | bool b => if b then "true" else "false"
  | null => "null"
  | int32 n => toString n
  | int64 n => toString n
  | objectId id => "ObjectId(\"" ++ id.hex ++ "\")"
  | dateTime n => "DateTime(\"" ++ Instant.text n ++ "\")"
  | binary s l =>
      "Binary(0x" ++ String.ofList (Text.hexText 1 s.toNat) ++ ", "
        ++ String.ofList (Text.Base64.encode l) ++ ")"
  | code s => s
  | scopedCode s _ => s
  | symbol s => "Symbol(\"" ++ s ++ "\")"
  | regex p o => "/" ++ p ++ "/" ++ o
  | timestamp t i => "Timestamp(" ++ toString t ++ ", " ++ toString i ++ ")"
  | pointer s id => "DbPointer(" ++ s ++ ", " ++ id.hex ++ ")"
  | minKey => "MinKey"
  | maxKey => "MaxKey"
  | undefined => "undefined"

/-- The items of a list, with a comma between two. -/
def shownItems : List Value → String
  | [] => ""
  | [v] => shown v
  | v :: l => shown v ++ ", " ++ shownItems l

/-- The entries of a document and its end, where no entry may have been shown before. -/
def shownMembers (first : Bool) : List (String × Value) → String
  | [] => if first then "\x7d" else " \x7d"
  | (k, v) :: l =>
      (if first then " " else ", ") ++ "\"" ++ k ++ "\": " ++ shown v
        ++ shownMembers false l

end

end Value
end SeriesCatalog
