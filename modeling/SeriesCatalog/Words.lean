/-!
# Whole numbers of a fixed width

A number of 32, 64 or 128 bits with a sign reaches from minus the half of the range to one
below that half; without a sign, it reaches from zero to the greatest number.

* `fitsSigned32`, `fitsSigned64`, `fitsSigned128`: whether a number has such a width.
-/

namespace SeriesCatalog
namespace Words

/-- The greatest number of 8 bits without a sign. -/
def greatest8 : Nat := 0xFF

/-- Half of the numbers of 32 bits. -/
def half32 : Nat := 0x80000000

/-- The greatest number of 32 bits without a sign. -/
def greatest32 : Nat := 0xFFFFFFFF

/-- Half of the numbers of 64 bits. -/
def half64 : Nat := 0x8000000000000000

/-- The greatest number of 64 bits without a sign. -/
def greatest64 : Nat := 0xFFFFFFFFFFFFFFFF

/-- Half of the numbers of 128 bits. -/
def half128 : Nat := 0x80000000000000000000000000000000

/-- The greatest number of 128 bits without a sign. -/
def greatest128 : Nat := 0xFFFFFFFFFFFFFFFFFFFFFFFFFFFFFFFF

/-- Whether a number has at most 32 bits with a sign. -/
def fitsSigned32 (n : Int) : Bool :=
  -(half32 : Int) ≤ n && n < half32

/-- Whether a number has at most 64 bits with a sign. -/
def fitsSigned64 (n : Int) : Bool :=
  -(half64 : Int) ≤ n && n < half64

/-- Whether a number has at most 128 bits with a sign. -/
def fitsSigned128 (n : Int) : Bool :=
  -(half128 : Int) ≤ n && n < half128

end Words
end SeriesCatalog
