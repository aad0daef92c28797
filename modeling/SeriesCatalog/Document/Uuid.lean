import SeriesCatalog.Text.Hex

/-!
# Universally unique identifiers

Such an identifier is sixteen octets.  Its text is their hexadecimal digits, with hyphens
after the eighth, twelfth, sixteenth and twentieth digit or with none.  The text with
hyphens may stand in braces or after the mark of a resource name, in which case does not
matter.

* `Uuid.octets?`: the octets of a text.
-/

namespace SeriesCatalog
namespace Uuid

/-- The numbers of digits between hyphens. -/
def groups : List Nat := [8, 4, 4, 4, 12]

def octetCount : Nat := 16

/-- The mark of a resource name. -/
def resourceMark : List Char := "urn:uuid:".toList

/-- The digits of groups with hyphens between them. -/
def joined? : List Nat → List Char → Option (List Char)
  | [], _ => none
  | [n], l => if l.length = n then some l else none
  | n :: rest, l =>
      match l.drop n with
      | '-' :: after => (l.take n ++ ·) <$> joined? rest after
      | _ => none

def octetsOfDigits? (l : List Char) : Option (List UInt8) :=
  match Text.octetsOfHex? l with
  | some octets => if octets.length = octetCount then some octets else none
  | none => none

/-- The octets of digits with hyphens. -/
def octetsOfGroups? (l : List Char) : Option (List UInt8) :=
  (joined? groups l).bind octetsOfDigits?

def inBraces? : List Char → Option (List Char)
  | '{' :: l => if l.getLast? = some '}' then some l.dropLast else none
  | _ => none

/-- What stands after the mark of a resource name. -/
def inResource? (l : List Char) : Option (List Char) :=
  let n := resourceMark.length
  if (l.take n).map Char.toLower = resourceMark then some (l.drop n) else none

def octets? (s : String) : Option (List UInt8) :=
  let l := s.toList
  octetsOfDigits? l <|> octetsOfGroups? l <|> (inBraces? l).bind octetsOfGroups?
    <|> (inResource? l).bind octetsOfGroups?

end Uuid
end SeriesCatalog
