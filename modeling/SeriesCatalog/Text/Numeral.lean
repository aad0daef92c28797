/-!
# Whole numbers in decimal

A numeral is an optional sign and at least one digit.  It is read from left to right
against the bounds of its target, and the first fault found is reported: an overflow
hides a foreign character that comes after it.

* `readUnsigned`: numerals from `0` to a greatest value.
* `readSigned`: numerals of a two's complement range.
-/

namespace SeriesCatalog
namespace Text

/-- Why a text is no whole number of the wanted range. -/
inductive NumeralError
  | empty
  | invalidDigit
  | tooLarge
  | tooSmall
deriving DecidableEq, Repr

def NumeralError.message : NumeralError → String
  | .empty => "cannot parse integer from empty string"
  | .invalidDigit => "invalid digit found in string"
  | .tooLarge => "number too large to fit in target type"
  | .tooSmall => "number too small to fit in target type"

/-- The value of a decimal digit. -/
def digit? (c : Char) : Option Nat :=
  if c.isDigit then some (c.toNat - '0'.toNat) else none

/-- Appends digits to the number `n`, which may not exceed `greatest`. -/
def readDigits (greatest : Nat) (overflow : NumeralError) :
    Nat → List Char → Except NumeralError Nat
  | n, [] => .ok n
  | n, c :: l =>
      match digit? c with
      | none => .error .invalidDigit
      | some d =>
          if greatest < 10 * n + d then .error overflow
          else readDigits greatest overflow (10 * n + d) l

/-- A number of at most `greatest`, with an optional plus sign. -/
def readUnsigned (greatest : Nat) (s : String) : Except NumeralError Nat :=
  match s.toList with
  | [] => .error .empty
  | ['+'] => .error .invalidDigit
  | '+' :: l => readDigits greatest .tooLarge 0 l
  | l => readDigits greatest .tooLarge 0 l

/-- A number `n` with `-half ≤ n < half`, with an optional sign. -/
def readSigned (half : Nat) (s : String) : Except NumeralError Int :=
  match s.toList with
  | [] => .error .empty
  | ['+'] => .error .invalidDigit
  | ['-'] => .error .invalidDigit
  | '+' :: l => Int.ofNat <$> readDigits (half - 1) .tooLarge 0 l
  | '-' :: l => (fun n : Nat => -(n : Int)) <$> readDigits half .tooSmall 0 l
  | l => Int.ofNat <$> readDigits (half - 1) .tooLarge 0 l

end Text
end SeriesCatalog
