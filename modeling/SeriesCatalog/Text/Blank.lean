/-!
# Blank characters

Blank means the Unicode property `White_Space`.  Query text, record lines, request
lines, numerals and policy names are all trimmed and split by this one property.

* `isBlank`: the property, from its table of code points.
* `trimBlanks`: a text without the blanks at its two ends.
-/

namespace SeriesCatalog
namespace Text

/-- The code points with the property `White_Space`, as closed ranges. -/
def blankRanges : List (Nat × Nat) :=
  [(0x09, 0x0D), (0x20, 0x20), (0x85, 0x85), (0xA0, 0xA0), (0x1680, 0x1680),
    (0x2000, 0x200A), (0x2028, 0x2029), (0x202F, 0x202F), (0x205F, 0x205F),
    (0x3000, 0x3000)]

def isBlank (c : Char) : Bool :=
  blankRanges.any fun r => r.1 ≤ c.toNat && c.toNat ≤ r.2

/-- A text without the blanks at its beginning. -/
def dropBlanks (l : List Char) : List Char :=
  l.dropWhile isBlank

/-- A text without the blanks at either end. -/
def trimBlanks (s : String) : String :=
  String.ofList (dropBlanks (dropBlanks s.toList).reverse).reverse

/-- Whether a text holds nothing but blanks. -/
def isBlankText (s : String) : Bool :=
  s.toList.all isBlank

end Text
end SeriesCatalog
