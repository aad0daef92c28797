import SeriesCatalog.Text.Numeral

/-!
# Instants

An instant is a number of milliseconds since the beginning of 1970, in universal time.

* `civil`: the calendar date of a day.
* `Instant.read?`: the instant of a date with time and offset, in which the time of day
  may have a fraction and the second sixty.
* `Instant.text`: an instant in full, as messages show it.
* `Instant.stamp`: an instant as logs show it.
-/

namespace SeriesCatalog
namespace Instant

/-- A day of the calendar. -/
structure Date where
  year : Int
  month : Nat
  day : Nat
deriving DecidableEq, Repr

/-- The number of days between the beginning of 1970 and a date.  Years are counted from
March, so that a leap day ends its year. -/
def dayOfDate (d : Date) : Int :=
  let year := if d.month ≤ 2 then d.year - 1 else d.year
  let era := year / 400
  let yearOfEra := year % 400
  let month : Int := (d.month + 9) % 12
  let dayOfYear : Int := (153 * month + 2) / 5 + d.day - 1
  let dayOfEra := yearOfEra * 365 + yearOfEra / 4 - yearOfEra / 100 + dayOfYear
  era * 146097 + dayOfEra - 719468

/-- The calendar date of a day. -/
def civil (day : Int) : Date :=
  let shifted := day + 719468
  let era := shifted / 146097
  let dayOfEra := shifted % 146097
  let yearOfEra :=
    (dayOfEra - dayOfEra / 1460 + dayOfEra / 36524 - dayOfEra / 146096) / 365
  let dayOfYear := dayOfEra - (365 * yearOfEra + yearOfEra / 4 - yearOfEra / 100)
  let month := (5 * dayOfYear + 2) / 153
  let year := yearOfEra + era * 400
  { year := if month < 10 then year else year + 1
    month := (if month < 10 then month + 3 else month - 9).toNat
    day := (dayOfYear - (153 * month + 2) / 5 + 1).toNat }

/-- Whether the calendar has a date. -/
def Date.isValid (d : Date) : Bool :=
  1 ≤ d.month && d.month ≤ 12 && civil (dayOfDate d) = d

def digits? : Nat → List Char → Option (Nat × List Char)
  | n, l =>
      let head := l.take n
      if head.length = n && head.all Char.isDigit then
        some (head.foldl (fun m c => 10 * m + (c.toNat - '0'.toNat)) 0, l.drop n)
      else none

def char? (c : Char) : List Char → Option (List Char)
  | d :: l => if d = c then some l else none
  | [] => none

/-- Reads a number with two digits that is at most `greatest`. -/
def two? (greatest : Nat) (l : List Char) : Option (Nat × List Char) := do
  let (n, l) ← digits? 2 l
  if n ≤ greatest then some (n, l) else none

/-- Reads an optional fraction of a second, in nanoseconds. -/
def fraction? : List Char → Option (Nat × List Char)
  | '.' :: l =>
      let head := l.takeWhile Char.isDigit
      if head.isEmpty then none
      else
        let nine := (head ++ List.replicate 9 '0').take 9
        some (nine.foldl (fun m c => 10 * m + (c.toNat - '0'.toNat)) 0,
          l.dropWhile Char.isDigit)
  | l => some (0, l)

/-- Reads the offset from universal time, in minutes, at the end of a text. -/
def offset? : List Char → Option Int
  | ['Z'] => some 0
  | ['z'] => some 0
  | sign :: l => do
      let (hours, l) ← two? 23 l
      let l ← char? ':' l
      let (minutes, l) ← two? 59 l
      let n : Int := hours * 60 + minutes
      if !l.isEmpty then none
      else if sign = '+' then some n
      else if sign = '-' then some (-n)
      else none
  | [] => none

/-- The number of milliseconds of a day. -/
def dayLength : Int := 86400000

/-- Whether a second sixty may follow a minute: the minute must be the last one of a
month in universal time. -/
def endsMonth (minute : Int) : Bool :=
  (minute + 1) % 1440 = 0 && (civil ((minute + 1) / 1440)).day = 1

/-- The number of nanoseconds of a second. -/
def nanosPerSecond : Nat := 1000000000

/-- The instant of a time in a minute, rounded towards the beginning of 1970. -/
def ofMinute (minute : Int) (nanos : Nat) : Int :=
  Int.tdiv (minute * (60 * nanosPerSecond) + nanos) 1000000

/-- The instant of a date with time and offset.  A second sixty stands for the last instant
of its minute. -/
def read? (s : String) : Option Int := do
  let (year, l) ← digits? 4 s.toList
  let l ← char? '-' l
  let (month, l) ← digits? 2 l
  let l ← char? '-' l
  let (day, l) ← digits? 2 l
  let l ← match l with
    | separator :: l => if separator.toNat < 128 then some l else none
    | [] => none
  let (hour, l) ← two? 23 l
  let l ← char? ':' l
  let (minute, l) ← two? 59 l
  let l ← char? ':' l
  let (second, l) ← two? 60 l
  let (nanos, l) ← fraction? l
  let offset ← offset? l
  let date : Date := ⟨year, month, day⟩
  if !date.isValid then none
  else
    let minutes : Int := dayOfDate date * 1440 + hour * 60 + minute - offset
    if second = 60 then
      if endsMonth minutes then some (ofMinute minutes (60 * nanosPerSecond - 1)) else none
    else some (ofMinute minutes (second * nanosPerSecond + nanos))

/-- The greatest year with four digits. -/
def greatestYear : Nat := 9999

/-- Whether the year of an instant has at most four digits. -/
def hasShortYear (instant : Int) : Bool :=
  (civil (instant / dayLength)).year.natAbs ≤ greatestYear

/-- A number with at least `width` digits. -/
def padded (width n : Nat) : String :=
  let digits := Nat.toDigits 10 n
  String.ofList (List.replicate (width - digits.length) '0' ++ digits)

/-- A year: with four digits, and with a sign if it needs more or is negative. -/
def yearText (year : Int) : String :=
  let sign := if year < 0 then "-" else if greatestYear < year then "+" else ""
  sign ++ padded 4 year.natAbs

/-- A fraction of a second without zeros at its end, but with one digit at least. -/
def fractionText (digits : List Char) : String :=
  match (digits.reverse.dropWhile (· = '0')).reverse with
  | [] => "0"
  | l => String.ofList l

/-- The date and the time of day of an instant. -/
def fullText (instant : Int) : String :=
  let date := civil (instant / dayLength)
  let second := (instant % dayLength / 1000).toNat
  yearText date.year ++ "-" ++ padded 2 date.month ++ "-" ++ padded 2 date.day ++ " "
    ++ toString (second / 3600) ++ ":" ++ padded 2 (second / 60 % 60) ++ ":"
    ++ padded 2 (second % 60) ++ "."
    ++ fractionText (padded 3 (instant % 1000).toNat).toList ++ " +00:00:00"

/-- An instant in full, or its milliseconds if its year needs more than four digits. -/
def text (instant : Int) : String :=
  if hasShortYear instant then fullText instant else toString instant

/-- An instant up to its milliseconds, without an offset. -/
def stamp (instant : Int) : String :=
  let date := civil (instant / dayLength)
  let second := (instant % dayLength / 1000).toNat
  yearText date.year ++ "-" ++ padded 2 date.month ++ "-" ++ padded 2 date.day ++ " "
    ++ padded 2 (second / 3600) ++ ":" ++ padded 2 (second / 60 % 60) ++ ":"
    ++ padded 2 (second % 60) ++ "." ++ padded 3 (instant % 1000).toNat

end Instant
end SeriesCatalog
