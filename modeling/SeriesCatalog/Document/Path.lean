import SeriesCatalog.Document.Value

/-!
# Paths into documents

A path is a text of keys with dots between them.  It leads from a document to a value
through documents only: a list or another value ends the way.

* `getPath`: the value at the end of a path, which may have at most thirty-two keys.
* `descend`: the same for the list of keys, without a bound.
-/

namespace SeriesCatalog
namespace Document

/-- The greatest number of keys of a path. -/
def greatestDepth : Nat := 32

/-- The parts of a text between dots, where `held` are the characters of the part begun,
last first. -/
def splitDots (held : List Char) : List Char → List String
  | [] => [String.ofList held.reverse]
  | c :: l =>
      if c = '.' then String.ofList held.reverse :: splitDots [] l
      else splitDots (c :: held) l

def pathKeys (path : String) : List String :=
  splitDots [] path.toList

/-- The value at the end of a list of keys, of which at most `depth` are followed. -/
def follow : Nat → Document → List String → Option Value
  | 0, _, _ => none
  | _, _, [] => none
  | _ + 1, d, [key] => Entries.lookup key d
  | depth + 1, d, key :: rest =>
      match Entries.lookup key d with
      | some (.document inner) => follow depth inner rest
      | _ => none

/-- The value at the end of a path. -/
def getPath (d : Document) (path : String) : Option Value :=
  if path.isEmpty then none else follow greatestDepth d (pathKeys path)

/-- The value at the end of a list of keys. -/
def descend : Document → List String → Option Value
  | _, [] => none
  | d, [key] => Entries.lookup key d
  | d, key :: rest =>
      match Entries.lookup key d with
      | some (.document inner) => descend inner rest
      | _ => none

/-- The values that a document contributes to a list of different values: the items of a
list, or the value itself. -/
def contributions (d : Document) (path : String) : List Value :=
  match getPath d path with
  | some (.array items) => items
  | some v => [v]
  | none => []

end Document

namespace Value

mutual

/-- Whether a value stands for a text: as that text, as the identifier with these digits,
or as a list with an item that does. -/
def standsFor (want : String) : Value → Bool
  | string s => s = want
  | objectId id => id.hex = want
  | array l => anyStandsFor want l
  | _ => false

/-- Whether an item of a list stands for a text. -/
def anyStandsFor (want : String) : List Value → Bool
  | [] => false
  | v :: l => standsFor want v || anyStandsFor want l

end

/-- Appends a value to a list unless an equal one is present. -/
def pushNew (l : List Value) (v : Value) : List Value :=
  if l.any fun w => same w v then l else l ++ [v]

/-- Appends values to a list unless equal ones are present. -/
def pushAllNew (l new : List Value) : List Value :=
  new.foldl pushNew l

end Value
end SeriesCatalog
