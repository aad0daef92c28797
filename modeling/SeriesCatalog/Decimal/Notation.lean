import SeriesCatalog.Decimal.Shortest

/-!
# Written doubles

Two notations write the shortest decimal of a double.  The JSON notation keeps a digit
after the point and turns to an exponent for large and small numbers; the plain notation
never writes an exponent and drops the point of a whole number.  Of two shortest decimals
that are equally near, the former takes the even one and the latter the greater one.
-/

namespace SeriesCatalog
namespace Decimal

/-- The digits of a decimal around its point, with `leading` digits before it: no digit
before the point is written as zero. -/
def positional (digits : List Char) (leading : Int) : List Char × List Char :=
  if leading ≤ 0 then (['0'], List.replicate (-leading).toNat '0' ++ digits)
  else
    let n := leading.toNat
    (digits.take n ++ List.replicate (n - digits.length) '0', digits.drop n)

/-- The sign of a written number. -/
def signText (negative : Bool) : String :=
  if negative then "-" else ""

/-- The powers of ten of the first digit that the JSON notation writes without an
exponent. -/
def isPositionalPower (power : Int) : Bool :=
  -5 ≤ power && power ≤ 15

def jsonMagnitude (rank : Nat) : String :=
  if rank = 0 then "0.0"
  else
    let d := shortest .even rank
    let digits := digitsOf d.coefficient
    let power := d.exponent + (digits.length : Int) - 1
    if isPositionalPower power then
      let (whole, fraction) := positional digits (power + 1)
      String.ofList whole ++ "." ++
        (if fraction.isEmpty then "0" else String.ofList fraction)
    else
      let mantissa := match digits with
        | [] => ""
        | [c] => String.ofList [c]
        | c :: l => String.ofList (c :: '.' :: l)
      let mark := if power < 0 then "e-" else "e+"
      mantissa ++ mark ++ toString power.natAbs

/-- A number in JSON notation, which knows finite numbers only. -/
def Double.jsonText : Double → String
  | .finite negative rank => signText negative ++ jsonMagnitude rank
  | .infinite _ => "null"
  | .nan => "null"

def plainMagnitude (rank : Nat) : String :=
  if rank = 0 then "0"
  else
    let d := shortest .greater rank
    let digits := digitsOf d.coefficient
    let (whole, fraction) := positional digits (d.exponent + (digits.length : Int))
    if fraction.isEmpty then String.ofList whole
    else String.ofList whole ++ "." ++ String.ofList fraction

def Double.plainText : Double → String
  | .finite negative rank => signText negative ++ plainMagnitude rank
  | .infinite negative => signText negative ++ "inf"
  | .nan => "NaN"

end Decimal
end SeriesCatalog
