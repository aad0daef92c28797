import SeriesCatalog.Decimal.Double

/-!
# The shortest decimal of a double

Of the decimals that round to a given magnitude, the shortest is the one with the
fewest digits, and of several with that number of digits the nearest.  On the grid of
decimals with a given number of digits, only the two neighbours of the magnitude need
to be tried.  If both are equally near, a rule decides.

* `Tie`: the two rules.
* `roundsTo`: whether a decimal lies in the rounding interval of a rank.
* `shortest`: the shortest decimal of a rank.
-/

namespace SeriesCatalog
namespace Decimal

/-- Which of two equally near neighbours is taken. -/
inductive Tie
  | even
  | greater
deriving DecidableEq, Repr

/-- Whether the lower neighbour is taken, whose digits are given. -/
def Tie.takesLower (t : Tie) (coefficient : Nat) : Bool :=
  match t with
  | even => coefficient % 2 = 0
  | greater => false

/-- A finite decimal expansion, which stands for `coefficient * 10 ^ exponent`. -/
structure Expansion where
  coefficient : Nat
  /-- The power of ten of the last digit. -/
  exponent : Int
deriving DecidableEq, Repr

/-- The digits of a natural number, the highest first. -/
def digitsOf (n : Nat) : List Char :=
  Nat.toDigits 10 n

/-- Ten to a power, or one if the power is negative. -/
def tenTo (e : Int) : Nat :=
  Nat.pow 10 e.toNat

/-- Whether a decimal lies in the rounding interval of a rank, whose ends are half-way to
the neighbouring ranks and belong to it if the rank is even. -/
def roundsTo (rank : Nat) (d : Expansion) : Bool :=
  let down := tenTo (-d.exponent)
  let low := (units (rank - 1) + units rank) * down
  let high := (units rank + units (rank + 1)) * down
  let point := 2 * d.coefficient * tenTo d.exponent * unitsPerOne
  if rank % 2 = 0 then low ≤ point && point ≤ high else low < point && point < high

/-- Twice the distance between a decimal and the magnitude of a rank, in units of the grid
on which both lie. -/
def distance (rank : Nat) (d : Expansion) : Nat :=
  let magnitude := units rank * tenTo (-d.exponent)
  let point := d.coefficient * tenTo d.exponent * unitsPerOne
  (magnitude - point) + (point - magnitude)

/-- The power of ten of the first digit of a positive magnitude. -/
def leadingPower (rank : Nat) : Int :=
  let raised := Nat.pow 10 400 * units rank / unitsPerOne
  ((digitsOf raised).length : Int) - 401

/-- The best decimal of a rank with its last digit at a power of ten, if one of the two
neighbours on that grid rounds to the rank. -/
def onGrid? (tie : Tie) (rank : Nat) (exponent : Int) : Option Expansion :=
  let floor := units rank * tenTo (-exponent) / (unitsPerOne * tenTo exponent)
  let below : Expansion := ⟨floor, exponent⟩
  let above : Expansion := ⟨floor + 1, exponent⟩
  match roundsTo rank below, roundsTo rank above with
  | false, false => none
  | true, false => some below
  | false, true => some above
  | true, true =>
      let a := distance rank below
      let b := distance rank above
      if a < b || (a = b && tie.takesLower floor) then some below else some above

/-- Moves zeros at the end of the digits into the exponent. -/
def stripZeros (d : Expansion) : Expansion :=
  if d.coefficient ≠ 0 ∧ d.coefficient % 10 = 0 then
    stripZeros ⟨d.coefficient / 10, d.exponent + 1⟩
  else d
termination_by d.coefficient
decreasing_by
  rename_i h
  exact Nat.div_lt_self (Nat.pos_of_ne_zero h.1) (by decide)

/-- The number of digits that tells all doubles apart. -/
def mostDigits : Nat := 17

/-- The shortest decimal of a rank. -/
def shortest (tie : Tie) (rank : Nat) : Expansion :=
  if rank = 0 then ⟨0, 0⟩
  else
    let leading := leadingPower rank
    let grids := (List.range mostDigits).map fun i : Nat => leading - (i : Int)
    stripZeros ((grids.findSome? (onGrid? tie rank)).getD ⟨0, 0⟩)

end Decimal
end SeriesCatalog
