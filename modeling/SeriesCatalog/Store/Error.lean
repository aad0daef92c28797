import SeriesCatalog.Json.Error

/-!
# Failures of a store
-/

namespace SeriesCatalog

/-- Why a store cannot serve a call. -/
inductive StoreError
  | io (detail : String)
  /-- A record is no JSON text. -/
  | json (cause : Json.ReadError)
  /-- A record has no document for its value. -/
  | conversion (detail : String)
  /-- The records cannot be loaded at all. -/
  | connect (detail : String)
  /-- A document cannot be stored. -/
  | invalidDocument (detail : String)
deriving DecidableEq, Repr

namespace StoreError

def message : StoreError → String
  | io d => "I/O error: " ++ d
  | json e => "Serde JSON: " ++ e.message
  | conversion d => "BSON: " ++ d
  | connect d => "Store connection failed: " ++ d
  | invalidDocument d => "Invalid document: " ++ d

end StoreError
end SeriesCatalog
