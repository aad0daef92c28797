/-!
# Refusals of JSON text
-/

namespace SeriesCatalog
namespace Json

/-- What is wrong with a text that is no JSON value. -/
inductive Fault
  /-- The text ends where a value has to stand. -/
  | endInValue
  /-- The text ends in a list. -/
  | endInList
  /-- The text ends in an object. -/
  | endInObject
  /-- The text ends in a string. -/
  | endInString
  /-- No value begins with the character. -/
  | noValue
  /-- A word is none of the three that are values. -/
  | noWord
  /-- A key is no string. -/
  | noKey
  /-- A key has no colon. -/
  | noColon
  /-- An item is followed neither by a comma nor by the end of the list. -/
  | noListEnd
  /-- A member is followed neither by a comma nor by the end of the object. -/
  | noObjectEnd
  /-- A comma is followed by the end of the container. -/
  | trailingComma
  | trailingText
  | noNumber
  /-- A number is too large. -/
  | outOfRange
  /-- A backslash is followed by no escape. -/
  | noEscape
  /-- The first half of a pair of escapes has no second half. -/
  | halfPair
  /-- One half of a pair of escapes stands where it may not. -/
  | wrongHalf
  /-- A control character stands in a string. -/
  | control
  /-- The containers are nested too deeply. -/
  | tooDeep
deriving DecidableEq, Repr

def Fault.message : Fault → String
  | .endInValue => "EOF while parsing a value"
  | .endInList => "EOF while parsing a list"
  | .endInObject => "EOF while parsing an object"
  | .endInString => "EOF while parsing a string"
  | .noValue => "expected value"
  | .noWord => "expected ident"
  | .noKey => "key must be a string"
  | .noColon => "expected `:`"
  | .noListEnd => "expected `,` or `]`"
  | .noObjectEnd => "expected `,` or `\x7d`"
  | .trailingComma => "trailing comma"
  | .trailingText => "trailing characters"
  | .noNumber => "invalid number"
  | .outOfRange => "number out of range"
  | .noEscape => "invalid escape"
  | .halfPair => "unexpected end of hex escape"
  | .wrongHalf => "lone leading surrogate in hex escape"
  | .control => "control character (\\u0000-\\u001F) found while parsing a string"
  | .tooDeep => "recursion limit exceeded"

/-- A fault with its place in the text, of which the column counts octets. -/
structure ReadError where
  fault : Fault
  line : Nat
  /-- The octets of the line up to the fault. -/
  column : Nat
deriving DecidableEq, Repr

def ReadError.message (e : ReadError) : String :=
  s!"{e.fault.message} at line {e.line} column {e.column}"

/-- Line and column after a number of octets of a text. -/
def placeAfter : Nat → List Char → Nat × Nat → Nat × Nat
  | 0, _, place => place
  | _, [], place => place
  | n + 1, c :: l, (line, column) =>
      if c = '\n' then placeAfter n l (line + 1, 0)
      else if n + 1 ≤ c.utf8Size then (line, column + n + 1)
      else placeAfter (n + 1 - c.utf8Size) l (line, column + c.utf8Size)

end Json
end SeriesCatalog
