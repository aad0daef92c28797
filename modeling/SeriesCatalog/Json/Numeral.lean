import SeriesCatalog.Json.Basic
import SeriesCatalog.Text.Numeral
import SeriesCatalog.Words

/-!
# Numbers in JSON text

A number is read as a significand of at most 64 bits and a power of ten.  Digits that do
not fit the significand only raise the power of ten before the point, and are dropped
after it.  The value is rounded when the significand becomes a double, when the power
becomes a double, and when the two are multiplied or divided.

* `Numeral.value`: the number that a numeral stands for, unless it is out of range.
-/

namespace SeriesCatalog
namespace Json

/-- The exponent of a number. -/
structure Exponent where
  negative : Bool
  digits : List Char
deriving Repr

/-- The parts of a number. -/
structure Numeral where
  negative : Bool
  whole : List Char
  fraction : List Char
  exponent? : Option Exponent
deriving Repr

def greatestSignificand : Nat := Words.greatest64

/-- Appends digits to a significand as long as it fits.  The second number counts the
digits from the first one that did not fit on. -/
def takeDigits : Nat → List Char → Nat × Nat
  | n, [] => (n, 0)
  | n, c :: l =>
      let next := 10 * n + (Text.digit? c).getD 0
      if greatestSignificand < next then (n, l.length + 1) else takeDigits next l

/-- The greatest power of ten that is a double. -/
def greatestPower : Nat := 308

/-- The rank of a power of ten. -/
def powerRank (n : Nat) : Nat :=
  Decimal.nearestRank (Nat.pow 10 n) 1

/-- The rank nearest to the product of two ranks. -/
def mulRank (a b : Nat) : Nat :=
  Decimal.nearestRank (Decimal.units a * Decimal.units b)
    (Decimal.unitsPerOne * Decimal.unitsPerOne)

/-- The rank nearest to the quotient of two ranks. -/
def divRank (a b : Nat) : Nat :=
  Decimal.nearestRank (Decimal.units a) (Decimal.units b)

/-- Divides a rank by a power of ten, in steps of the greatest power. -/
def scaleDown (rank n : Nat) : Nat :=
  if n ≤ greatestPower then divRank rank (powerRank n)
  else if rank = 0 then 0
  else scaleDown (divRank rank (powerRank greatestPower)) (n - greatestPower)
termination_by n
decreasing_by
  simp only [greatestPower] at *
  omega

/-- Multiplies a rank by a power of ten, unless the product is no finite magnitude. -/
def scaleUp? (rank n : Nat) : Option Nat :=
  if n ≤ greatestPower then
    let product := mulRank rank (powerRank n)
    if product < Decimal.rankCount then some product else none
  else if rank = 0 then some 0
  else none

/-- Scales a significand by a power of ten. -/
def scale? (significand : Nat) (power : Int) : Option Nat :=
  let rank := Decimal.nearestRank significand 1
  if power < 0 then some (scaleDown rank power.natAbs) else scaleUp? rank power.toNat

/-- The greatest exponent that is read to its end. -/
def greatestExponent : Nat := Words.half32 - 1

/-- Reads the digits of an exponent, or says how many digits are left when it becomes too
large. -/
def readExponent : Nat → List Char → Except Nat Nat
  | n, [] => .ok n
  | n, c :: l =>
      let next := 10 * n + (Text.digit? c).getD 0
      if greatestExponent < next then .error l.length else readExponent next l

/-- The significand and the power of ten of the digits of a number. -/
def Numeral.significand (n : Numeral) : Nat × Int :=
  let (a, raised) := takeDigits 0 n.whole
  let (b, dropped) := takeDigits a n.fraction
  (b, (raised : Int) - ((n.fraction.length : Int) - (dropped : Int)))

/-- The double that a numeral stands for.  A number out of range is reported with the
number of digits that were not needed to see it. -/
def Numeral.double (n : Numeral) : Except Nat Decimal.Double :=
  let (significand, power) := n.significand
  let finish (power : Int) : Except Nat Decimal.Double :=
    match scale? significand power with
    | some rank => .ok (.ofRank n.negative rank)
    | none => .error 0
  match n.exponent? with
  | none => finish power
  | some e =>
      match readExponent 0 e.digits with
      | .ok k => finish (if e.negative then power - k else power + k)
      | .error left =>
          if significand ≠ 0 && !e.negative then .error left
          else .ok (.zero n.negative)

/-- The number that a numeral stands for. -/
def Numeral.value (n : Numeral) : Except Nat Json :=
  let (m, raised) := takeDigits 0 n.whole
  let isWhole := n.fraction.isEmpty && n.exponent?.isNone && raised = 0
    && (!n.negative || (0 < m && m ≤ Words.half64))
  if isWhole then .ok (.whole (if n.negative then -(m : Int) else m))
  else Json.double <$> n.double

end Json
end SeriesCatalog
