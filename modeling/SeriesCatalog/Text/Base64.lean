/-!
# Base64

Three octets are written as four characters of an alphabet of sixty-four, and one or two
octets at the end as two or three characters followed by padding.  Reading accepts
nothing else: padding is required and the bits beyond the last octet are zero.
-/

namespace SeriesCatalog
namespace Text
namespace Base64

def alphabet : List Char :=
  "ABCDEFGHIJKLMNOPQRSTUVWXYZabcdefghijklmnopqrstuvwxyz0123456789+/".toList

/-- The character of a value below sixty-four. -/
def digit (n : Nat) : Char :=
  alphabet.getD (n % 64) 'A'

def digit? (c : Char) : Option Nat :=
  alphabet.idxOf? c

def padding : Char := '='

def encode : List UInt8 → List Char
  | [] => []
  | [a] =>
      let n := a.toNat * 16
      [digit (n / 64), digit n, padding, padding]
  | [a, b] =>
      let n := (a.toNat * 256 + b.toNat) * 4
      [digit (n / 4096), digit (n / 64), digit n, padding]
  | a :: b :: c :: l =>
      let n := (a.toNat * 256 + b.toNat) * 256 + c.toNat
      digit (n / 262144) :: digit (n / 4096) :: digit (n / 64) :: digit n :: encode l

/-- The octet with the lowest bits of a number. -/
def octet (n : Nat) : UInt8 :=
  UInt8.ofNat (n % 256)

/-- Reads the last four characters, of which the third and fourth may be padding. -/
def decodeLast? (a b : Nat) (c d : Char) : Option (List UInt8) :=
  if c = padding then
    if d = padding && b % 16 = 0 then some [octet (a * 4 + b / 16)] else none
  else do
    let c ← digit? c
    let n := (a * 64 + b) * 64 + c
    if d = padding then
      if c % 4 = 0 then some [octet (n / 1024), octet (n / 4)] else none
    else
      let d ← digit? d
      let n := n * 64 + d
      some [octet (n / 65536), octet (n / 256), octet n]

def decode? : List Char → Option (List UInt8)
  | [] => some []
  | a :: b :: c :: d :: l => do
      let a ← digit? a
      let b ← digit? b
      if l.isEmpty then decodeLast? a b c d
      else
        let c ← digit? c
        let d ← digit? d
        let n := ((a * 64 + b) * 64 + c) * 64 + d
        let rest ← decode? l
        some (octet (n / 65536) :: octet (n / 256) :: octet n :: rest)
  | _ => none

end Base64
end Text
end SeriesCatalog
