import SeriesCatalog.Decimal.Numeral
import SeriesCatalog.Document.Instant
import SeriesCatalog.Document.Refusal
import SeriesCatalog.Document.Uuid
import SeriesCatalog.Document.Value
import SeriesCatalog.Text.Base64
import SeriesCatalog.Words

/-!
# Documents in extended JSON

A JSON value stands for a document value.  An object with one of sixteen special keys
stands for a value of a kind that JSON does not have; it may hold no other key than those
of its form.  Any other object is a document.

* `Document.ofMembers`: the document of the members of an object, in which special keys
  mean nothing at the top.
-/

namespace SeriesCatalog
namespace Extended

def readString : Json → Except Refusal String
  | .string s => .ok s
  | v => .error (.wrongType v.found "a string")

def readBool : Json → Except Refusal Bool
  | .bool b => .ok b
  | v => .error (.wrongType v.found "a boolean")

/-- Reads a whole number without a sign. -/
def readUnsigned (greatest : Nat) (name : String) : Json → Except Refusal Nat
  | .whole n =>
      if 0 ≤ n && n ≤ greatest then .ok n.toNat else .error (.wrongValue (.whole n) name)
  | v => .error (.wrongType v.found name)

/-- Reads a whole number of 8 bits. -/
def readOctet : Json → Except Refusal Nat :=
  readUnsigned Words.greatest8 "u8"

/-- Reads a whole number of 32 bits without a sign. -/
def readWord : Json → Except Refusal Nat :=
  readUnsigned Words.greatest32 "u32"

section Fields

variable {α β : Type}

/-- Reads the entries of an object that has one key. -/
def readOne (key : String) (read : Json → Except Refusal α) :
    Option α → Entries Json → Except Refusal α
  | some a, [] => .ok a
  | none, [] => .error (.missingField key)
  | _, (k, v) :: l =>
      if k = key then
        match read v with
        | .ok a => readOne key read (some a) l
        | .error e => .error e
      else .error (.unknownField k [key])

/-- A key with the way to read its value. -/
structure Field (α : Type) where
  key : String
  read : Json → Except Refusal α

/-- Reads the entries of an object that has two keys. -/
def readTwo (a : Field α) (b : Field β) :
    Option α → Option β → Entries Json → Except Refusal (α × β)
  | some x, some y, [] => .ok (x, y)
  | none, _, [] => .error (.missingField a.key)
  | some _, none, [] => .error (.missingField b.key)
  | x?, y?, (k, v) :: l =>
      if k = a.key then
        match a.read v with
        | .ok x => readTwo a b (some x) y? l
        | .error e => .error e
      else if k = b.key then
        match b.read v with
        | .ok y => readTwo a b x? (some y) l
        | .error e => .error e
      else .error (.unknownField k [a.key, b.key])

/-- The complaint about a list that is too long. -/
def tooLong (length : Nat) : Refusal :=
  .wrongLength length "fewer elements in array"

/-- Reads a body with two fields: an object, or a list of the two values. -/
def readBody (name : String) (a : Field α) (b : Field β) : Json → Except Refusal (α × β)
  | .object m => readTwo a b none none m
  | .list l =>
      let short := s!"struct {name} with 2 elements"
      match l with
      | [] => .error (.wrongLength 0 short)
      | v :: l => do
          let x ← a.read v
          match l with
          | [] => .error (.wrongLength 1 short)
          | w :: l =>
              let y ← b.read w
              if l.isEmpty then pure (x, y) else .error (tooLong (l.length + 2))
  | v => .error (.wrongType v.found s!"struct {name}")

end Fields

/-- Reads a whole number in a text. -/
def wholeOfText (half : Nat) (name s : String) : Except Refusal Int :=
  match Text.readSigned half s with
  | .ok n => .ok n
  | .error _ => .error (.wrongValue (.string s) s!"{name} as a string")

/-- Reads a double in a text. -/
def doubleOfText (s : String) : Except Refusal Value :=
  match Decimal.ofNumeral? s with
  | some d => .ok (.double d)
  | none => .error (.wrongValue (.string s) "bson double as string")

/-- Reads a decimal number in a text. -/
def decimalOfText (s : String) : Except Refusal Value :=
  match Decimal.Decimal128.read? s with
  | some d => .ok (.decimal d)
  | none => .error (.wrongValue (.string s) "bson decimal128 as string")

/-- Reads the identifier in a text. -/
def objectIdOfText (s : String) : Except Refusal ObjectId :=
  (ObjectId.parse s).mapError .objectId

/-- Reads octets and the number of their kind. -/
def binaryOfTexts (base64 subtype : String) : Except Refusal Value :=
  match Text.Base64.decode? base64.toList with
  | none => .error (.wrongValue (.string base64) "base64 encoded bytes")
  | some octets =>
      match Text.octetsOfHex? subtype.toList with
      | none => .error (.wrongValue (.string subtype) "hexadecimal number as a string")
      | some [kind] => .ok (.binary kind octets)
      | some _ => .error (.wrongValue .octets "one byte subtype")

/-- The kind of octets that are a universally unique identifier. -/
def uuidKind : UInt8 := 4

/-- Reads the octets of a universally unique identifier. -/
def uuidOfText (s : String) : Except Refusal Value :=
  match Uuid.octets? s with
  | some octets => .ok (.binary uuidKind octets)
  | none =>
      .error (.wrongValue (.string s)
        "$uuid value does not follow RFC 4122 format regarding length and hyphens")

/-- The forms of the text or the number of an instant. -/
inductive DateBody
  | canonical (text : String)
  | relaxed (text : String)
  | number (milliseconds : Int)

/-- Reads one of the forms of an instant. -/
def readDateBody : Json → Except Refusal DateBody
  | .object [("$numberLong", .string s)] => .ok (.canonical s)
  | .list [.string s] => .ok (.canonical s)
  | .string s => .ok (.relaxed s)
  | .whole n =>
      if Words.fitsSigned64 n then .ok (.number n) else .error .noDate
  | _ => .error .noDate

/-- The instant of one of its forms. -/
def DateBody.instant : DateBody → Except Refusal Int
  | .canonical s => wholeOfText Words.half64 "i64" s
  | .relaxed s =>
      match Instant.read? s with
      | some n => .ok n
      | none => .error (.wrongValue (.string s) "rfc3339 formatted utc datetime")
  | .number n => .ok n

def sortedOptions (s : String) : String :=
  String.ofList (s.toList.mergeSort fun a b => a.toNat ≤ b.toNat)

/-- A text that a zero character would end. -/
def endedByZero (s : String) : Except Refusal String :=
  if s.toList.contains '\x00' then .error (.zeroInside s) else .ok s

def regexOfTexts (pattern options : String) : Except Refusal Value := do
  let pattern ← endedByZero pattern
  let options ← endedByZero (sortedOptions options)
  pure (.regex pattern options)

/-- Reads an identifier inside a reference. -/
def readPointedId : Json → Except Refusal String
  | .object m => readOne "$oid" readString none m
  | .list [] => .error (.wrongLength 0 "struct ObjectId with 1 element")
  | .list (v :: l) => do
      let s ← readString v
      if l.isEmpty then pure s else .error (tooLong (l.length + 1))
  | v => .error (.wrongType v.found "struct ObjectId")

/-- Reads a value that has to be a given number. -/
def readKeyMark (key : String) (value : Value) (m : Entries Json) : Except Refusal Value :=
  match readOne key readOctet none m with
  | .error e => .error e
  | .ok 1 => .ok value
  | .ok n => .error (.wrongValue (.whole n) s!"value of {key} should always be 1")

/-- Reads program text with the presence of a scope. -/
def readCode : Option String → Entries Json → Except Refusal String
  | some s, [] => .ok s
  | none, [] => .error (.missingField "$code")
  | s?, (k, v) :: l =>
      if k = "$code" then
        match readString v with
        | .ok s => readCode (some s) l
        | .error e => .error e
      else if k = "$scope" then
        match v with
        | .null => readCode s? l
        | .object _ => readCode s? l
        | v => .error (.wrongType v.found "a map")
      else .error (.unknownField k ["$code", "$scope"])

/-- The value of an object with a special key, in which a scope is left out. -/
def special? (m : Entries Json) : Option (Except Refusal Value) :=
  let one {α : Type} (key : String) (read : Json → Except Refusal α)
      (make : α → Except Refusal Value) : Except Refusal Value :=
    match readOne key read none m with
    | .ok a => make a
    | .error e => .error e
  let has (key : String) : Bool := Entries.contains key m
  if has "$oid" then some (one "$oid" readString fun s => .objectId <$> objectIdOfText s)
  else if has "$symbol" then some (one "$symbol" readString fun s => .ok (.symbol s))
  else if has "$regularExpression" then
    some (one "$regularExpression"
      (readBody "RegexBody" ⟨"pattern", readString⟩ ⟨"options", readString⟩)
      fun b => regexOfTexts b.1 b.2)
  else if has "$numberInt" then
    some (one "$numberInt" readString fun s => .int32 <$> wholeOfText Words.half32 "i32" s)
  else if has "$numberLong" then
    some (one "$numberLong" readString fun s => .int64 <$> wholeOfText Words.half64 "i64" s)
  else if has "$numberDouble" then some (one "$numberDouble" readString doubleOfText)
  else if has "$numberDecimal" then some (one "$numberDecimal" readString decimalOfText)
  else if has "$binary" then
    some (one "$binary"
      (readBody "BinaryBody" ⟨"base64", readString⟩ ⟨"subType", readString⟩)
      fun b => binaryOfTexts b.1 b.2)
  else if has "$uuid" then some (one "$uuid" readString uuidOfText)
  else if has "$code" then some (.code <$> readCode none m)
  else if has "$timestamp" then
    some (one "$timestamp" (readBody "TimestampBody" ⟨"t", readWord⟩ ⟨"i", readWord⟩)
      fun b => .ok (.timestamp b.1 b.2))
  else if has "$date" then
    some (one "$date" readDateBody fun b => .dateTime <$> b.instant)
  else if has "$minKey" then some (readKeyMark "$minKey" .minKey m)
  else if has "$maxKey" then some (readKeyMark "$maxKey" .maxKey m)
  else if has "$dbPointer" then
    some (one "$dbPointer"
      (readBody "DbPointerBody" ⟨"$ref", readString⟩ ⟨"$id", readPointedId⟩)
      fun b => .pointer b.1 <$> objectIdOfText b.2)
  else if has "$undefined" then
    some (one "$undefined" readBool fun b =>
      if b then .ok .undefined
      else .error (.wrongValue (.bool b) "$undefined should always be true"))
  else none

/-- The value of a whole number: of 32 bits if it fits, else of 64 bits with a sign, else a
double. -/
def ofWhole (n : Int) : Value :=
  if Words.fitsSigned32 n then .int32 n
  else if Words.fitsSigned64 n then .int64 n
  else .double (.ofFraction (decide (n < 0)) n.natAbs 1)

mutual

/-- The value that a JSON value stands for. -/
def value : Json → Except Refusal Value
  | .null => .ok .null
  | .bool b => .ok (.bool b)
  | .whole n => .ok (ofWhole n)
  | .double d => .ok (.double d)
  | .string s => .ok (.string s)
  | .list l => .array <$> values l
  | .object m =>
      match special? m with
      | none => .document <$> members m
      | some (.ok (.code s)) =>
          match scope? m with
          | none => .ok (.code s)
          | some scope => .scopedCode s <$> scope
      | some v => v

/-- The values that the items of a list stand for. -/
def values : List Json → Except Refusal (List Value)
  | [] => .ok []
  | v :: l => do
      let v ← value v
      let l ← values l
      pure (v :: l)

/-- The entries that the members of an object stand for. -/
def members : List (String × Json) → Except Refusal (List (String × Value))
  | [] => .ok []
  | (k, v) :: l => do
      let v ← value v
      let l ← members l
      pure ((k, v) :: l)

/-- The scope among the members of an object, if there is one. -/
def scope? : List (String × Json) → Option (Except Refusal (List (String × Value)))
  | [] => none
  | (k, v) :: l =>
      if k = "$scope" then
        match v with
        | .object m => some (members m)
        | _ => none
      else scope? l

end

end Extended

/-- The document that the members of an object stand for. -/
def Document.ofMembers (m : Entries Json) : Except Refusal Document :=
  Extended.members m

end SeriesCatalog
