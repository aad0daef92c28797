import SeriesCatalog.Query.Error
import SeriesCatalog.Query.Filter
import SeriesCatalog.Query.Token

/-!
# Query texts

A query text is a list of tokens `key=value`.  A token is split at its first equals sign,
and its key must not be empty.

* `Filter.parse`: the filter of a query text.
-/

namespace SeriesCatalog
namespace Query

/-- What is wrong with a query text. -/
inductive Malformed
  | openRun (run : OpenRun)
  | noEquals (token : String)
  | noKey (token : String)
deriving DecidableEq, Repr

def Malformed.detail : Malformed → String
  | .openRun r => s!"unterminated {r.quote} in '{r.kept}'"
  | .noEquals t => s!"token '{t}' has no '='"
  | .noKey t => s!"token '{t}' has an empty key"

/-- The text before the first equals sign and the text after it. -/
def splitEquals : List Char → Option (List Char × List Char)
  | [] => none
  | c :: l =>
      if c = '=' then some ([], l)
      else match splitEquals l with
        | some (key, value) => some (c :: key, value)
        | none => none

/-- The key and the value of a token. -/
def pairOfToken (token : String) : Except Malformed (String × String) :=
  match splitEquals token.toList with
  | none => .error (.noEquals token)
  | some ([], _) => .error (.noKey token)
  | some (key, value) => .ok (String.ofList key, String.ofList value)

/-- The keys and values of tokens, up to the first token that has none. -/
def pairsOfTokens : List String → Except Malformed (List (String × String))
  | [] => .ok []
  | t :: l =>
      match pairOfToken t with
      | .error e => .error e
      | .ok p => (p :: ·) <$> pairsOfTokens l

/-- The keys and values of a query text. -/
def pairs (text : String) : Except Malformed (List (String × String)) :=
  match tokens text with
  | .error run => .error (.openRun run)
  | .ok l => pairsOfTokens l

end Query

/-- The filter of a query text. -/
def Filter.parse (text : String) : Except QueryError Filter :=
  match Query.pairs text with
  | .ok l => .ok (.ofPairs l)
  | .error e => .error (.malformedQuery e.detail)

end SeriesCatalog
