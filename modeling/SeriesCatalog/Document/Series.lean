/-!
# The layout of a series

A series is a document with an identity, a document of fields and a document of points.
-/

namespace SeriesCatalog
namespace Series

def identityKey : String := "_id"

def fieldsKey : String := "fields"

def pointsKey : String := "points"

/-- The word with which a query addresses the identity. -/
def identityWord : String := "uid"

def fieldPath (name : String) : String :=
  fieldsKey ++ "." ++ name

/-- The path that a key of a query addresses. -/
def pathOfKey (key : String) : String :=
  if key = identityWord then identityKey else fieldPath key

end Series
end SeriesCatalog
