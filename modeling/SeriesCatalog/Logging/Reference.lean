import SeriesCatalog.Config.Settings
import SeriesCatalog.Text.Alphanumeric

/-!
# References to environment variables

Input: the path of a log file, in which a mark, a name and a closing brace refer to a
variable.

Result: `Reference.expand`, the path in which every reference to a variable that is set has
become its value.  The variables are taken in the order of the path, so that a value may
hold references to those that come later in it.
-/

namespace SeriesCatalog
namespace Reference

def mark : List Char := ['$', 'E', 'N', 'V', '{']

def closing : Char := '}'

/-- Whether a name can begin with a character. -/
def beginsName (c : Char) : Bool :=
  Text.isAlphanumeric c || c = '_'

/-- Whether a name can go on with a character. -/
def continuesName (c : Char) : Bool :=
  beginsName c || c = '.'

/-- The name that a text begins with, if its end is marked. -/
def name? (l : List Char) : Option (List Char) :=
  match l.span continuesName with
  | (c :: name, d :: _) => if beginsName c && d = closing then some (c :: name) else none
  | _ => none

/-- The names that a text refers to, in order. -/
def names : List Char → List (List Char)
  | [] => []
  | c :: l =>
      let first := if mark.isPrefixOf (c :: l) then name? ((c :: l).drop mark.length) else none
      first.toList ++ names l

def ofName (name : List Char) : List Char :=
  mark ++ name ++ [closing]

/-- A text with another one in the place of a pattern, wherever that stands, after `skipped`
characters that belong to the pattern. -/
def replaceFrom (pattern new : List Char) : Nat → List Char → List Char
  | _, [] => []
  | skipped + 1, _ :: l => replaceFrom pattern new skipped l
  | 0, c :: l =>
      if pattern.isPrefixOf (c :: l) then
        new ++ replaceFrom pattern new (pattern.length - 1) l
      else c :: replaceFrom pattern new 0 l

/-- A text with the value of a variable in the place of the references to its name. -/
def expandName (v : Settings.Variables) (text name : List Char) : List Char :=
  match v (String.ofList name) with
  | some value => replaceFrom (ofName name) value.toList 0 text
  | none => text

/-- A text with values in the place of references. -/
def expand (v : Settings.Variables) (text : String) : String :=
  String.ofList ((names text.toList).foldl (expandName v) text.toList)

end Reference
end SeriesCatalog
