import SeriesCatalog.Decimal.Numeral
import SeriesCatalog.Document.Instant
import SeriesCatalog.Text.Hex
import SeriesCatalog.Words

/-!
# Numbers, words and dates of TOML text
-/

namespace SeriesCatalog
namespace Toml

/-- A value that is written with bare characters.  A setting can only use an integer. -/
inductive Scalar
  | integer (value : Int)
  /-- A truth value, a number with a point or an exponent, or a date or time. -/
  | other
deriving DecidableEq, Repr

/-- Digits without the low lines between them. -/
def plainDigits? (isDigit : Char → Bool) : List Char → Option (List Char)
  | [] => none
  | [c] => if isDigit c then some [c] else none
  | c :: '_' :: l => if isDigit c then (c :: ·) <$> plainDigits? isDigit l else none
  | c :: l => if isDigit c then (c :: ·) <$> plainDigits? isDigit l else none

/-- The value of digits to a base. -/
def valueOfDigits (base : Nat) (l : List Char) : Nat :=
  l.foldl (fun n c => base * n + (Text.hexValue? c).getD 0) 0

/-- A number to a base of two, eight or sixteen, after its mark. -/
def based? (base : Nat) (l : List Char) : Option Nat :=
  let isDigit (c : Char) : Bool :=
    match Text.hexValue? c with
    | some d => d < base
    | none => false
  (plainDigits? isDigit l).map (valueOfDigits base)

/-- Decimal digits that do not begin with an idle zero. -/
def decimal? (l : List Char) : Option Nat :=
  match plainDigits? Char.isDigit l with
  | none => none
  | some ('0' :: _ :: _) => none
  | some digits => some (valueOfDigits 10 digits)

/-- Whether there is a minus sign, and what follows the sign. -/
def splitSign : List Char → Bool × List Char
  | '-' :: l => (true, l)
  | '+' :: l => (false, l)
  | l => (false, l)

def integer? (l : List Char) : Option Int :=
  match l with
  | '0' :: 'x' :: l => (based? 16 l).map Int.ofNat
  | '0' :: 'o' :: l => (based? 8 l).map Int.ofNat
  | '0' :: 'b' :: l => (based? 2 l).map Int.ofNat
  | l =>
      let (negative, l) := splitSign l
      (decimal? l).map fun n => if negative then -(n : Int) else n

/-- Whether an exponent has digits after an optional sign. -/
def isExponent (l : List Char) : Bool :=
  let (_, l) := splitSign l
  (plainDigits? Char.isDigit l).isSome

/-- The characters before the first one with a property and those after it. -/
def splitAtFirst (p : Char → Bool) (l : List Char) : List Char × Option (List Char) :=
  match l.dropWhile (fun c => !p c) with
  | [] => (l, none)
  | _ :: after => (l.takeWhile (fun c => !p c), some after)

/-- Whether a number with a point or an exponent is not too large for a double. -/
def isInRange (l : List Char) : Bool :=
  match Decimal.ofNumeral? (String.ofList (l.filter (· ≠ '_'))) with
  | some (.infinite _) => false
  | _ => true

/-- Whether characters are a number with a point or an exponent, or one of its names. -/
def isFloat (l : List Char) : Bool :=
  let (_, l) := splitSign l
  let (mantissa, exponent?) := splitAtFirst (fun c => c = 'e' || c = 'E') l
  let (whole, fraction?) := splitAtFirst (fun c => c = '.') mantissa
  let fractionOk := match fraction? with
    | none => exponent?.isSome
    | some f => (plainDigits? Char.isDigit f).isSome
  let exponentOk := match exponent? with
    | none => true
    | some e => isExponent e
  l = ['i', 'n', 'f'] || l = ['n', 'a', 'n']
    || ((decimal? whole).isSome && fractionOk && exponentOk && isInRange l)

/-- Reads the seconds of a time of day, if there are any. -/
def seconds? : List Char → Option (List Char)
  | ':' :: l => do
      let (_, l) ← Instant.two? 60 l
      let (_, l) ← Instant.fraction? l
      pure l
  | l => some l

def time? (l : List Char) : Option (List Char) := do
  let (_, l) ← Instant.two? 23 l
  let l ← Instant.char? ':' l
  let (_, l) ← Instant.two? 59 l
  seconds? l

def date? (l : List Char) : Option (List Char) := do
  let (year, l) ← Instant.digits? 4 l
  let l ← Instant.char? '-' l
  let (month, l) ← Instant.digits? 2 l
  let l ← Instant.char? '-' l
  let (day, l) ← Instant.digits? 2 l
  if Instant.Date.isValid ⟨year, month, day⟩ then some l else none

/-- Whether characters are a date, a time of day or both, in the last case perhaps with an
offset. -/
def isMoment (l : List Char) : Bool :=
  match time? l with
  | some [] => true
  | _ =>
      match date? l with
      | none => false
      | some [] => true
      | some (c :: l) =>
          (c = 'T' || c = 't' || c = ' ')
            && match time? l with
              | none => false
              | some [] => true
              | some l => (Instant.offset? l).isSome

/-- Whether an integer has at most 128 bits, with or without a sign. -/
def isInteger128 (n : Int) : Bool :=
  -(Words.half128 : Int) ≤ n && n ≤ Words.greatest128

def scalar? (l : List Char) : Option Scalar :=
  match integer? l with
  | some n => if isInteger128 n then some (.integer n) else none
  | none =>
      if l = "true".toList || l = "false".toList || isFloat l || isMoment l then some .other
      else none

end Toml
end SeriesCatalog
