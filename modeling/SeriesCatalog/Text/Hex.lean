/-!
# Hexadecimal digits
-/

namespace SeriesCatalog
namespace Text

/-- The sixteen digits, in lower case. -/
def hexDigits : List Char :=
  ['0', '1', '2', '3', '4', '5', '6', '7', '8', '9', 'a', 'b', 'c', 'd', 'e', 'f']

/-- The lower-case digit of a value below sixteen. -/
def hexDigit (n : Nat) : Char :=
  hexDigits.getD (n % 16) '0'

/-- Whether a character is a hexadecimal digit in lower case. -/
def isLowerHex (c : Char) : Bool :=
  c.isDigit || ('a' ≤ c && c ≤ 'f')

/-- The value of a hexadecimal digit of either case. -/
def hexValue? (c : Char) : Option Nat :=
  if c.isDigit then some (c.toNat - '0'.toNat)
  else if 'a' ≤ c && c ≤ 'f' then some (c.toNat - 'a'.toNat + 10)
  else if 'A' ≤ c && c ≤ 'F' then some (c.toNat - 'A'.toNat + 10)
  else none

/-- A number with at least `width` hexadecimal digits, the highest first. -/
def hexText (width n : Nat) : List Char :=
  let digits := (Nat.toDigits 16 n)
  List.replicate (width - digits.length) '0' ++ digits

/-- The octets that pairs of hexadecimal digits spell. -/
def octetsOfHex? : List Char → Option (List UInt8)
  | [] => some []
  | [_] => none
  | c :: d :: l => do
      let high ← hexValue? c
      let low ← hexValue? d
      let rest ← octetsOfHex? l
      pure (UInt8.ofNat (16 * high + low) :: rest)

end Text
end SeriesCatalog
