/-!
# Double-precision numbers

A finite double is a sign and a rank: its place in the ascending list of the
magnitudes that have 53 binary digits and an exponent in range.  Zero has rank zero and
the least positive magnitude `2 ^ -1074` has rank one.  All arithmetic is exact
arithmetic on natural numbers followed by one rounding.

* `units`: the magnitude of a rank, as a multiple of `2 ^ -1074`.
* `nearestRank`: the rank whose magnitude is nearest to a fraction.
* `Double.same`: the comparison of numbers, in which no-number equals nothing.
-/

namespace SeriesCatalog
namespace Decimal

/-- The number of magnitudes between two neighbouring powers of two. -/
def binade : Nat := Nat.pow 2 52

def rankCount : Nat := 2047 * binade

/-- How many of the least positive magnitude make one. -/
def unitsPerOne : Nat := Nat.pow 2 1074

/-- The magnitude of a rank, as a multiple of the least positive magnitude. -/
def units (rank : Nat) : Nat :=
  if rank < binade then rank
  else (binade + rank % binade) * Nat.pow 2 (rank / binade - 1)

/-- A fraction rounded to the nearest natural number, a half to the even neighbour. -/
def roundHalfEven (num den : Nat) : Nat :=
  let q := num / den
  let r := num % den
  if 2 * r < den then q
  else if den < 2 * r then q + 1
  else q + q % 2

/-- The rank whose magnitude is nearest to a fraction, of two the even one.  The answer
is `rankCount` or more if the fraction is too large for a finite magnitude. -/
def nearestRank (num den : Nat) : Nat :=
  let scaled := num * unitsPerOne
  let q := scaled / den
  let shift := if q < 2 * binade then 0 else q.log2 - 52
  shift * binade + roundHalfEven scaled (den * Nat.pow 2 shift)

inductive Double
  /-- A number with a sign and the rank of its magnitude. -/
  | finite (negative : Bool) (rank : Fin rankCount)
  | infinite (negative : Bool)
  /-- The value that is no number. -/
  | nan
deriving DecidableEq, Repr

namespace Double

/-- The number with a sign and a rank, an infinity if the rank is too high. -/
def ofRank (negative : Bool) (rank : Nat) : Double :=
  if h : rank < rankCount then finite negative ⟨rank, h⟩ else infinite negative

def zero (negative : Bool) : Double :=
  ofRank negative 0

/-- The number nearest to a fraction with a sign. -/
def ofFraction (negative : Bool) (num den : Nat) : Double :=
  ofRank negative (nearestRank num den)

/-- Whether two numbers are equal as numbers: both zeros are one number, and the value
that is no number equals nothing. -/
def same : Double → Double → Bool
  | finite s a, finite t b => a = b && (s = t || a.val = 0)
  | infinite s, infinite t => s = t
  | _, _ => false

end Double

end Decimal
end SeriesCatalog
