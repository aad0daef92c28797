import SeriesCatalog.Decimal.Double
import SeriesCatalog.Entries

/-!
# JSON values
-/

namespace SeriesCatalog

/-- A JSON value.  A number is whole if it is written without a point or an exponent and
fits 64 bits, with or without a sign. -/
inductive Json
  | null
  | bool (value : Bool)
  | whole (value : Int)
  | double (value : Decimal.Double)
  | string (text : String)
  | list (items : List Json)
  /-- An object, whose members are in the order in which their keys came first. -/
  | object (members : List (String × Json))
deriving Repr

end SeriesCatalog
