import SeriesCatalog.Decimal.Double
import SeriesCatalog.Text.Numeral

/-!
# Numerals of doubles

A numeral is an optional sign followed by the name of an infinity, the name of no-number,
or digits around an optional point with an optional exponent.  It stands for the double
nearest to its value.
-/

namespace SeriesCatalog
namespace Decimal

/-- The letters of a text in lower case. -/
def lowered (l : List Char) : String :=
  String.ofList (l.map Char.toLower)

def digitsValue (l : List Char) : Nat :=
  l.foldl (fun n c => 10 * n + (Text.digit? c).getD 0) 0

/-- The double nearest to `n * 10 ^ e`.  A number whose first digit is far out of range is
settled without computing the power. -/
def ofDecimal (negative : Bool) (n : Nat) (e : Int) : Double :=
  if n = 0 then Double.zero negative
  else
    let leading := ((Nat.toDigits 10 n).length : Int) + e
    if 400 < leading then .infinite negative
    else if leading < -400 then Double.zero negative
    else Double.ofFraction negative (n * Nat.pow 10 e.toNat) (Nat.pow 10 (-e).toNat)

/-- The exponent that ends a numeral: nothing, or a letter, an optional sign and digits. -/
def exponent? : List Char → Option Int
  | [] => some 0
  | mark :: l =>
      if mark ≠ 'e' && mark ≠ 'E' then none
      else
        let (negative, digits) := match l with
          | '-' :: l => (true, l)
          | '+' :: l => (false, l)
          | l => (false, l)
        if digits.isEmpty || !digits.all Char.isDigit then none
        else
          let n : Int := digitsValue digits
          some (if negative then -n else n)

/-- The double that digits around a point stand for. -/
def unsigned? (negative : Bool) (l : List Char) : Option Double := do
  let whole := l.takeWhile Char.isDigit
  let rest := l.dropWhile Char.isDigit
  let (fraction, rest) := match rest with
    | '.' :: rest => (rest.takeWhile Char.isDigit, rest.dropWhile Char.isDigit)
    | rest => ([], rest)
  if whole.isEmpty && fraction.isEmpty then none
  else
    let e ← exponent? rest
    pure (ofDecimal negative (digitsValue (whole ++ fraction)) (e - fraction.length))

/-- The double that a numeral stands for. -/
def ofNumeral? (s : String) : Option Double :=
  let (negative, l) := match s.toList with
    | '-' :: l => (true, l)
    | '+' :: l => (false, l)
    | l => (false, l)
  let name := lowered l
  if name = "inf" || name = "infinity" then some (.infinite negative)
  else if name = "nan" then some .nan
  else unsigned? negative l

end Decimal
end SeriesCatalog
