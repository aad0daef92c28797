import SeriesCatalog.Text.Hex
import SeriesCatalog.Text.Utf8

/-!
# Object identifiers

An object identifier is twelve octets, kept as the twenty-four lower-case hexadecimal
digits that write them.
-/

namespace SeriesCatalog

/-- The number of hexadecimal digits of an identifier. -/
def identifierLength : Nat := 24

/-- Whether characters are the digits of an identifier. -/
def isIdentifier (l : List Char) : Bool :=
  l.length = identifierLength && l.all Text.isLowerHex

structure ObjectId where
  digits : List Char
  /-- There are twenty-four of them, in lower case. -/
  valid : isIdentifier digits = true
deriving DecidableEq

namespace ObjectId

/-- The digits of an identifier as a text. -/
def hex (id : ObjectId) : String :=
  String.ofList id.digits

/-- Why a text is no identifier. -/
inductive Refusal
  /-- The octets of the text are not in pairs. -/
  | unpaired (octets : Nat)
  /-- The digits spell the wrong number of octets. -/
  | length (spelled : Nat)
  /-- An octet is no hexadecimal digit. -/
  | digit (octet : UInt8) (index : Nat)
deriving DecidableEq, Repr

def Refusal.message : Refusal → String
  | .unpaired n => s!"invalid hex string length {n}"
  | .length n => s!"invalid hex string length {n}"
  | .digit b i => s!"invalid character '{Char.ofNat b.toNat}' encountered at index {i}"

/-- The first octet that is no hexadecimal digit, where the first octet has an index. -/
def foreignDigit? (index : Nat) : List UInt8 → Option (UInt8 × Nat)
  | [] => none
  | b :: l =>
      if (Text.hexValue? (Char.ofNat b.toNat)).isSome then foreignDigit? (index + 1) l
      else some (b, index)

/-- A hexadecimal digit in lower case. -/
def lowerDigit (c : Char) : Char :=
  Text.hexDigit ((Text.hexValue? c).getD 0)

/-- The identifier with the digits of a text, in which upper case is allowed. -/
def parse (s : String) : Except Refusal ObjectId :=
  let octets := Text.Utf8.encode s
  if octets.length % 2 ≠ 0 then .error (.unpaired octets.length)
  else match foreignDigit? 0 octets with
    | some (b, i) => .error (.digit b i)
    | none =>
        let digits := s.toList.map lowerDigit
        if h : isIdentifier digits = true then .ok ⟨digits, h⟩
        else .error (.length (octets.length / 2))

/-- The digits of a number, of which an identifier has the lowest. -/
def digitsOfNat (n : Nat) : List Char :=
  (List.range identifierLength).map fun i =>
    Text.hexDigit (n / Nat.pow 16 (identifierLength - 1 - i))

theorem isLowerHex_hexDigit (n : Nat) : Text.isLowerHex (Text.hexDigit n) = true := by
  have h : n % 16 < 16 := Nat.mod_lt _ (by decide)
  have all : ∀ k, k < 16 → Text.isLowerHex (Text.hexDigits.getD k '0') = true := by decide
  exact all _ h

theorem isIdentifier_digitsOfNat (n : Nat) :
    isIdentifier (digitsOfNat n) = true := by
  simp [isIdentifier, identifierLength, digitsOfNat, isLowerHex_hexDigit]

/-- The identifier that a number spells in hexadecimal digits. -/
def ofNat (n : Nat) : ObjectId :=
  ⟨digitsOfNat n, isIdentifier_digitsOfNat n⟩

end ObjectId

end SeriesCatalog
