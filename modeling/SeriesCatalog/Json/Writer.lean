import SeriesCatalog.Decimal.Notation
import SeriesCatalog.Json.Basic
import SeriesCatalog.Text.Hex

/-!
# Writing JSON text

Output: the characters of a value, either without any space or with one line per item and
two spaces per container.  Of a string only quotes, backslashes and control characters
are escaped.
-/

namespace SeriesCatalog
namespace Json

def escape (c : Char) : List Char :=
  match c with
  | '"' => ['\\', '"']
  | '\\' => ['\\', '\\']
  | '\x08' => ['\\', 'b']
  | '\x0c' => ['\\', 'f']
  | '\n' => ['\\', 'n']
  | '\r' => ['\\', 'r']
  | '\t' => ['\\', 't']
  | c => if c.toNat < 0x20 then '\\' :: 'u' :: Text.hexText 4 c.toNat else [c]

def quote (s : String) : List Char :=
  '"' :: s.toList.flatMap escape ++ ['"']

mutual

def compact : Json → List Char
  | .null => "null".toList
  | .bool b => (if b then "true" else "false").toList
  | .whole n => (toString n).toList
  | .double d => d.jsonText.toList
  | .string s => quote s
  | .list [] => ['[', ']']
  | .list (v :: l) => '[' :: compact v ++ compactItems l ++ [']']
  | .object [] => ['{', '}']
  | .object ((k, v) :: l) =>
      '{' :: quote k ++ ':' :: compact v ++ compactMembers l ++ ['}']

/-- The items of a list after the first. -/
def compactItems : List Json → List Char
  | [] => []
  | v :: l => ',' :: compact v ++ compactItems l

/-- The members of an object after the first. -/
def compactMembers : List (String × Json) → List Char
  | [] => []
  | (k, v) :: l => ',' :: quote k ++ ':' :: compact v ++ compactMembers l

end

/-- The text of a value without any space. -/
def text (v : Json) : String :=
  String.ofList (compact v)

/-- A new line inside `depth` containers. -/
def newLine (depth : Nat) : List Char :=
  '\n' :: List.replicate (2 * depth) ' '

mutual

/-- A value inside `depth` containers, with one line per item. -/
def indented (depth : Nat) : Json → List Char
  | .null => "null".toList
  | .bool b => (if b then "true" else "false").toList
  | .whole n => (toString n).toList
  | .double d => d.jsonText.toList
  | .string s => quote s
  | .list [] => ['[', ']']
  | .list (v :: l) =>
      '[' :: newLine (depth + 1) ++ indented (depth + 1) v ++ indentedItems (depth + 1) l
        ++ newLine depth ++ [']']
  | .object [] => ['{', '}']
  | .object ((k, v) :: l) =>
      '{' :: newLine (depth + 1) ++ quote k ++ ':' :: ' ' :: indented (depth + 1) v
        ++ indentedMembers (depth + 1) l ++ newLine depth ++ ['}']

/-- The items of a list after the first, with one line per item. -/
def indentedItems (depth : Nat) : List Json → List Char
  | [] => []
  | v :: l => ',' :: newLine depth ++ indented depth v ++ indentedItems depth l

/-- The members of an object after the first, with one line per member. -/
def indentedMembers (depth : Nat) : List (String × Json) → List Char
  | [] => []
  | (k, v) :: l =>
      ',' :: newLine depth ++ quote k ++ ':' :: ' ' :: indented depth v
        ++ indentedMembers depth l

end

/-- The text of a value with one line per item. -/
def indentedText (v : Json) : String :=
  String.ofList (indented 0 v)

end Json
end SeriesCatalog
