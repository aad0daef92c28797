import SeriesCatalog.Json.Reader
import SeriesCatalog.Json.Writer
import SeriesCatalog.Query.Length
import SeriesCatalog.Query.Parse
import SeriesCatalog.Query.Specifier
import SeriesCatalog.Words

/-!
# Requests

A request arrives as a submission: three optional JSON values.  It is checked in four
stages, of which the first that fails gives the error: the shape of the query, its text,
the length and the specifiers.

* `Submission.read`: the submission of a line of JSON text.
* `Submission.check`: the request of a submission.
-/

namespace SeriesCatalog

/-- A request as it arrives. -/
structure Submission where
  query? : Option Json
  len? : Option Json
  distinct? : Option Json

/-- A request that has been checked. -/
structure Request where
  /-- Which documents are asked for. -/
  filter : Filter
  length : Length
  /-- The fields whose different values are asked for. -/
  specifiers : Specifiers

namespace Submission

/-- The submission of a query text, a length and a list of specifiers. -/
def ofParts (query : String) (len : Int) (distinct? : Option (List String)) : Submission :=
  { query? := some (.string query)
    len? := some (.whole len)
    distinct? := distinct?.map fun l => .list (l.map .string) }

/-- The value of a member, where null is as good as no member. -/
def member? (key : String) (m : Entries Json) : Option Json :=
  match Entries.lookup key m with
  | some .null => none
  | v? => v?

/-- The submission of a line of JSON text. -/
def read (line : String) : Except QueryError Submission :=
  match Json.read line with
  | .error e => .error (.invalidRequest e.message)
  | .ok (.object m) => .ok ⟨member? "query" m, member? "len" m, member? "distinct" m⟩
  | .ok _ => .error (.invalidRequest "request must be a JSON object")

/-- A submission as a JSON value. -/
def toJson (s : Submission) : Json :=
  .object
    [("query", s.query?.getD .null), ("len", s.len?.getD .null),
      ("distinct", s.distinct?.getD .null)]

def queryText : Option Json → Except QueryError String
  | none => .ok ""
  | some .null => .ok ""
  | some (.string s) => .ok s
  | some (.list _) => .error (.invalidRequest "accepts only a single query")
  | some (.object _) => .error (.invalidRequest "accepts only a single query")
  | some v => .error (.invalidRequest ("query must be a string, got " ++ v.text))

def directive : Option Json → Except QueryError Int
  | none => .ok Length.defaultDirective
  | some .null => .ok Length.defaultDirective
  | some (.whole n) =>
      if Words.fitsSigned64 n then .ok n
      else .error (.invalidLength (toString n))
  | some (.string s) =>
      let trimmed := Text.trimBlanks s
      if trimmed.isEmpty then .ok Length.defaultDirective
      else match Text.readSigned Words.half64 trimmed with
        | .ok n => .ok n
        | .error _ => .error (.invalidLength s!"'{s}'")
  | some v => .error (.invalidLength v.text)

/-- The texts of a list, if it holds nothing else. -/
def texts? : List Json → Option (List String)
  | [] => some []
  | .string s :: l => (s :: ·) <$> texts? l
  | _ :: _ => none

def specifiers : Option Json → Except QueryError Specifiers
  | none => .ok .none
  | some .null => .ok .none
  | some (.string s) => .ok (.ofTexts [s])
  | some (.list l) =>
      match texts? l with
      | some l => .ok (.ofTexts l)
      | none => .error .invalidDistinct
  | some _ => .error .invalidDistinct

def check (s : Submission) : Except QueryError Request := do
  let text ← queryText s.query?
  let filter ← Filter.parse text
  let directive ← directive s.len?
  let length ← Length.ofDirective directive
  let specifiers ← specifiers s.distinct?
  pure ⟨filter, length, specifiers⟩

end Submission

end SeriesCatalog
