import SeriesCatalog.Decimal.Notation
import SeriesCatalog.Decimal.Numeral
import SeriesCatalog.Words

/-!
# Decimal numbers of 128 bits

Such a number is a whole coefficient of at most thirty-four digits with a power of ten.
The same value may have several coefficients, and zero has a sign and a power too; all of
them are different numbers here.

* `Decimal128.read?`: the number of a numeral that needs no rounding.
* `Decimal128.text`: a number in scientific notation, or positional if it is short.
-/

namespace SeriesCatalog
namespace Decimal

/-- A decimal number of 128 bits. -/
inductive Decimal128
  /-- A number `coefficient * 10 ^ exponent` with a sign. -/
  | finite (negative : Bool) (coefficient : Nat) (exponent : Int)
  | infinite (negative : Bool)
  /-- No number, which may be one that signals. -/
  | nan (negative signalling : Bool)
deriving DecidableEq, Repr

namespace Decimal128

/-- The greatest number of digits of a coefficient. -/
def greatestLength : Nat := 34

def leastExponent : Int := -6176

def greatestExponent : Int := 6111

/-- Digits with a power of ten. -/
structure Scaled where
  digits : List Char
  exponent : Int
deriving DecidableEq, Repr

namespace Scaled

/-- Leaves out digits at the end, which have to be zeros. -/
def shorten? (n : Nat) (s : Scaled) : Option Scaled :=
  if s.digits.length < n then none
  else
    let kept := s.digits.length - n
    if (s.digits.drop kept).all (· = '0') then some ⟨s.digits.take kept, s.exponent + n⟩
    else none

/-- Appends zeros, if there is room for them. -/
def lengthen? (n : Nat) (s : Scaled) : Option Scaled :=
  if s.digits.length + n ≤ greatestLength then
    some ⟨s.digits ++ List.replicate n '0', s.exponent - n⟩
  else none

/-- Leaves out the digits beyond those of a coefficient. -/
def trim? (s : Scaled) : Option Scaled :=
  s.shorten? (s.digits.length - greatestLength)

/-- Brings the exponent into its range.  For a zero the nearest exponent will do; any other
number has to keep its value. -/
def fit? (s : Scaled) : Option Scaled :=
  if s.digits = ['0'] then
    some ⟨s.digits, max leastExponent (min greatestExponent s.exponent)⟩
  else if s.exponent < leastExponent then s.shorten? (leastExponent - s.exponent).toNat
  else if greatestExponent < s.exponent then
    s.lengthen? (s.exponent - greatestExponent).toNat
  else some s

/-- The number of digits, which may have a plus sign before them. -/
def toNumber? (negative : Bool) (s : Scaled) : Option Decimal128 :=
  match Text.readUnsigned Words.greatest128 (String.ofList s.digits) with
  | .ok n => some (.finite negative n s.exponent)
  | .error _ => none

end Scaled

/-- Digits without the zeros before them.  No digits are a zero. -/
def withoutZeros (l : List Char) : List Char :=
  match l.dropWhile (· = '0') with
  | [] => ['0']
  | l => l

/-- The digits around the first point with a power of ten, which has at most 128 bits. -/
def scaled? (l : List Char) (exponent : Int) : Option Scaled :=
  match l.span (· ≠ '.') with
  | (whole, []) => some ⟨withoutZeros whole, exponent⟩
  | (whole, _ :: fraction) =>
      let scale := exponent - fraction.length
      if Words.fitsSigned128 scale then some ⟨withoutZeros (whole ++ fraction), scale⟩
      else none

/-- The number of digits around a point and an exponent of at most 128 bits.  Digits may be
missing where a zero can stand for them. -/
def readFinite? (negative : Bool) (l : List Char) : Option Decimal128 := do
  let (mantissa, exponent) ← match l.span (fun c => c ≠ 'e' && c ≠ 'E') with
    | (mantissa, []) => some (mantissa, 0)
    | (mantissa, _ :: l) =>
        match Text.readSigned Words.half128 (String.ofList l) with
        | .ok n => some (mantissa, n)
        | .error _ => none
  let s ← scaled? mantissa exponent
  let s ← s.trim?
  let s ← s.fit?
  s.toNumber? negative

/-- The number of a numeral.  A numeral with more digits than a coefficient has, or with
an exponent out of range, is one only if zeros make up for it. -/
def read? (s : String) : Option Decimal128 :=
  let (negative, l) := match s.toList with
    | '-' :: l => (true, l)
    | '+' :: l => (false, l)
    | l => (false, l)
  let name := lowered l
  if name = "nan" then some (.nan negative false)
  else if name = "snan" then some (.nan negative true)
  else if name = "infinity" || name = "inf" then some (.infinite negative)
  else readFinite? negative l

/-- Whether a number is written without an exponent, for the exponent of its last digit and
that of its first. -/
def isPositional (last first : Int) : Bool :=
  last ≤ 0 && -6 ≤ first

def magnitude (coefficient : Nat) (exponent : Int) : String :=
  let digits := Nat.toDigits 10 coefficient
  let power := exponent + (digits.length : Int) - 1
  if isPositional exponent power then
    let (whole, fraction) := positional digits (power + 1)
    if fraction.isEmpty then String.ofList whole
    else String.ofList whole ++ "." ++ String.ofList fraction
  else
    let mantissa := match digits with
      | [] => ""
      | [c] => String.ofList [c]
      | c :: l => String.ofList (c :: '.' :: l)
    let mark := if 0 < power then "E+" else "E"
    mantissa ++ mark ++ toString power

/-- A number as it is written. -/
def text : Decimal128 → String
  | .finite negative c e => signText negative ++ magnitude c e
  | .infinite negative => signText negative ++ "Infinity"
  | .nan _ _ => "NaN"

end Decimal128
end Decimal
end SeriesCatalog
