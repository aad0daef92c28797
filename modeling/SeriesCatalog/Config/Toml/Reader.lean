import SeriesCatalog.Config.Toml.Scalar
import SeriesCatalog.Config.Toml.Table
import SeriesCatalog.Config.Toml.Token

/-!
# Reading TOML text

Input: a TOML text.  Result: `read?`, its table, if the text keeps the rules of the format.

A text is a list of lines, each with a key and a value or with a header.  Values may be
nested; no more than two steps are made for a token, so that the number of tokens bounds
the steps.
-/

namespace SeriesCatalog
namespace Toml

/-- Tokens without the blanks before them. -/
def skipBlanks : List Token → List Token
  | .blank _ :: l => skipBlanks l
  | l => l

/-- Tokens without the blanks and ends of lines before them. -/
def skipLines : List Token → List Token
  | .blank _ :: l => skipLines l
  | .newLine :: l => skipLines l
  | l => l

/-- Whether a character may stand in a key without quotes. -/
def isKeyChar (c : Char) : Bool :=
  c.isAlphanum || c = '_' || c = '-'

/-- The part of a key that a token is. -/
def keyPart? : Token → Option String
  | .bare l => if l.all isKeyChar then some (String.ofList l) else none
  | .string s true => some s
  | _ => none

/-- Reads the parts of a key with points, and the blanks after it. -/
def keyParts? : Nat → List Token → Option (List String × List Token)
  | 0, _ => none
  | fuel + 1, l =>
      match skipBlanks l with
      | [] => none
      | t :: l =>
          match keyPart? t, skipBlanks l with
          | none, _ => none
          | some part, .dot :: l => (keyParts? fuel l).map fun (rest, l) => (part :: rest, l)
          | some part, l => some ([part], l)

/-- The greatest number of parts of a key, and of lists and tables inside one another. -/
def greatestDepth : Nat := 80

/-- Reads a key with points, and the blanks after it. -/
def key? (fuel : Nat) (l : List Token) : Option (List String × List Token) :=
  match keyParts? fuel l with
  | some (parts, rest) => if parts.length ≤ greatestDepth then some (parts, rest) else none
  | none => none

/-- The bare characters at the beginning, and what follows them. -/
def bareRun : List Token → List Char × List Token
  | .bare t :: l => let (run, rest) := bareRun l; (t ++ run, rest)
  | .dot :: l => let (run, rest) := bareRun l; ('.' :: run, rest)
  | l => ([], l)

/-- Whether a token can be the time after a date and a blank. -/
def startsTime : Token → Bool
  | .bare (c :: d :: ':' :: _) => c.isDigit && d.isDigit
  | _ => false

/-- The bare characters of a value, in which a space may stand between date and time. -/
def scalarRun (l : List Token) : List Char × List Token :=
  let (run, rest) := bareRun l
  match date? run, rest with
  | some [], .blank ' ' :: t :: l =>
      if startsTime t then
        let (time, rest) := bareRun (t :: l)
        (run ++ ' ' :: time, rest)
      else (run, rest)
  | _, _ => (run, rest)

/-- Reads the key of a member and the equals sign after it, up to the value.  The end of a
line may stand around the sign. -/
def assignment? (fuel : Nat) (l : List Token) : Option (List String × List Token) :=
  match key? fuel l with
  | none => none
  | some (path, l) =>
      match skipLines l with
      | .equals :: l => some (path, skipLines l)
      | _ => none

mutual

def value? : Nat → List Token → Option (Item × List Token)
  | 0, _ => none
  | fuel + 1, l =>
      match l with
      | .string s _ :: l => some (.string s, l)
      | .openBracket :: l => (items? fuel l).map fun (items, l) => (.array items, l)
      | .openBrace :: l => (members? fuel [] l).map fun (t, l) => (.table .braces t, l)
      | l =>
          let (run, rest) := scalarRun l
          match scalar? run with
          | some (.integer n) => some (.integer n, rest)
          | some .other => some (.other, rest)
          | none => none

/-- Reads the items of a list up to its closing bracket. -/
def items? : Nat → List Token → Option (List Item × List Token)
  | 0, _ => none
  | fuel + 1, l =>
      match skipLines l with
      | .closeBracket :: l => some ([], l)
      | l =>
          match value? fuel l with
          | none => none
          | some (v, l) =>
              match skipLines l with
              | .closeBracket :: l => some ([v], l)
              | .comma :: l => (items? fuel l).map fun (rest, l) => (v :: rest, l)
              | _ => none

/-- Reads the members of a table up to its closing brace. -/
def members? : Nat → Table → List Token → Option (Table × List Token)
  | 0, _, _ => none
  | fuel + 1, t, l =>
      match skipLines l with
      | .closeBrace :: l => some (t, l)
      | l =>
          match assignment? fuel l with
          | none => none
          | some (path, l) =>
              match value? fuel l with
              | none => none
              | some (v, l) =>
                  match insertAt v path t, skipLines l with
                  | some t, .closeBrace :: l => some (t, l)
                  | some t, .comma :: l => members? fuel t l
                  | _, _ => none

end

/-- The tokens after the end of a line. -/
def endLine? (l : List Token) : Option (List Token) :=
  match skipBlanks l with
  | [] => some []
  | .newLine :: l => some l
  | _ => none

/-- Reads the rest of a header after its opening brackets. -/
def header? (fuel : Nat) (doubled : Bool) (l : List Token) :
    Option (List String × List Token) :=
  match key? fuel l, doubled with
  | some (path, .closeBracket :: .closeBracket :: l), true =>
      (endLine? l).map fun l => (path, l)
  | some (path, .closeBracket :: l), false => (endLine? l).map fun l => (path, l)
  | _, _ => none

/-- Reads lines, of which keys belong to the table of the last header. -/
def lines? : Nat → List String → Table → List Token → Option Table
  | 0, _, _, _ => none
  | fuel + 1, current, t, l =>
      match skipLines l with
      | [] => some t
      | .openBracket :: .openBracket :: l =>
          match header? fuel true l with
          | none => none
          | some (path, l) =>
              match defineElement path t with
              | none => none
              | some t => lines? fuel path t l
      | .openBracket :: l =>
          match header? fuel false l with
          | none => none
          | some (path, l) =>
              match defineTable path t with
              | none => none
              | some t => lines? fuel path t l
      | l =>
          match key? fuel l with
          | some (path, .equals :: l) =>
              match value? fuel (skipBlanks l) with
              | none => none
              | some (v, l) =>
                  match modifyAt (insertAt v path) current t, endLine? l with
                  | some t, some l => lines? fuel current t l
                  | _, _ => none
          | _ => none

/-- Whether brackets and braces are nested within the bound, after `depth` that are open. -/
def isShallow (depth : Nat) : List Token → Bool
  | [] => true
  | t :: l =>
      match t with
      | .openBracket => depth < greatestDepth && isShallow (depth + 1) l
      | .openBrace => depth < greatestDepth && isShallow (depth + 1) l
      | .closeBracket => isShallow (depth - 1) l
      | .closeBrace => isShallow (depth - 1) l
      | _ => isShallow depth l

def read? (text : String) : Option Table :=
  match tokens? text with
  | none => none
  | some l => if isShallow 0 l then lines? (2 * l.length + 2) [] [] l else none

end Toml
end SeriesCatalog
