import SeriesCatalog.Store.Error

/-!
# Errors of a request
-/

namespace SeriesCatalog

/-- Why a request has no result. -/
inductive QueryError
  /-- The query text does not parse. -/
  | malformedQuery (detail : String)
  /-- The length is no number in range. -/
  | invalidLength (shown : String)
  /-- The distinct fields are neither a text nor a list of texts. -/
  | invalidDistinct
  /-- The request does not have the shape of one. -/
  | invalidRequest (detail : String)
  | store (cause : StoreError)
  /-- The store failed to look up the values of a field. -/
  | lookup (field : String) (cause : StoreError)
  | task (detail : String)
deriving DecidableEq, Repr

namespace QueryError

def message : QueryError → String
  | malformedQuery d => "Malformed query: " ++ d
  | invalidLength s => "Invalid len: " ++ s ++ " (len must be -1 or higher)"
  | invalidDistinct => "Distinct must be a string or an array of strings"
  | invalidRequest d => "Invalid request: " ++ d
  | store e => "Store failure: " ++ e.message
  | lookup f e => "Distinct lookup failed for '" ++ f ++ "': " ++ e.message
  | task d => "Task failure: " ++ d

/-- The short name of the kind of an error. -/
def kind : QueryError → String
  | malformedQuery _ => "malformed-query"
  | invalidLength _ => "invalid-length"
  | invalidDistinct => "invalid-distinct-shape"
  | invalidRequest _ => "invalid-request"
  | store _ => "store-failure"
  | lookup _ _ => "aggregation-failure"
  | task _ => "task-failure"

end QueryError
end SeriesCatalog
