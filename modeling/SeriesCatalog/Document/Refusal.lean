import SeriesCatalog.Document.ObjectId
import SeriesCatalog.Json.Writer
import SeriesCatalog.Text.Quoted

/-!
# Refusals of document values

A JSON value is refused as a document value for its shape or for its content.  A refusal
says what was found and what was expected.
-/

namespace SeriesCatalog

/-- What was found where something else was expected. -/
inductive Finding
  | null
  | bool (value : Bool)
  | whole (value : Int)
  | double (value : Decimal.Double)
  | string (text : String)
  | octets
  | list
  | object

/-- The kind of a JSON value, with its content if it is short. -/
def Json.found : Json → Finding
  | .null => .null
  | .bool b => .bool b
  | .whole n => .whole n
  | .double d => .double d
  | .string s => .string s
  | .list _ => .list
  | .object _ => .object

/-- How a message shows what was found. -/
def Finding.text : Finding → String
  | .null => "null"
  | .bool b => "boolean `" ++ (if b then "true" else "false") ++ "`"
  | .whole n => "integer `" ++ toString n ++ "`"
  | .double d => "floating point `" ++ d.jsonText ++ "`"
  | .string s => "string " ++ Text.quoted s
  | .octets => "byte array"
  | .list => "sequence"
  | .object => "map"

/-- Why a JSON value is no document value. -/
inductive Refusal
  /-- The text of an identifier is none. -/
  | objectId (cause : ObjectId.Refusal)
  /-- A key is none of the keys allowed. -/
  | unknownField (key : String) (allowed : List String)
  | missingField (key : String)
  /-- A value has the wrong kind. -/
  | wrongType (found : Finding) (expected : String)
  /-- A value of the right kind has the wrong content. -/
  | wrongValue (found : Finding) (expected : String)
  /-- A list has the wrong length. -/
  | wrongLength (length : Nat) (expected : String)
  /-- A date has none of its forms. -/
  | noDate
  /-- A text that a zero character would end holds one. -/
  | zeroInside (text : String)

/-- A list of keys in a message. -/
def allowedText (keys : List String) : String :=
  " or ".intercalate (keys.map fun k => "`" ++ k ++ "`")

/-- What a refusal says about the shape or the content of a value. -/
def Refusal.detail : Refusal → String
  | .objectId cause => cause.message
  | .unknownField key allowed =>
      "unknown field `" ++ key ++ "`, expected " ++ allowedText allowed
  | .missingField key => "missing field `" ++ key ++ "`"
  | .wrongType found expected => s!"invalid type: {found.text}, expected {expected}"
  | .wrongValue found expected => s!"invalid value: {found.text}, expected {expected}"
  | .wrongLength length expected => s!"invalid length {length}, expected {expected}"
  | .noDate => "data did not match any variant of untagged enum DateTimeBody"
  | .zeroInside text => s!"cstring with interior null: {Text.quoted text}"

/-- The kind of fault that a refusal reports. -/
def Refusal.kind : Refusal → String
  | .objectId _ => "An ObjectId-related error occurred: "
  | .zeroInside _ => "Malformed BSON bytes. Message: "
  | _ => "A deserialization-related error occurred. Message: "

def Refusal.message (r : Refusal) : String :=
  s!"BSON error. Kind: {r.kind}{r.detail}."

end SeriesCatalog
