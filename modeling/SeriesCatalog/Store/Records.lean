import SeriesCatalog.Document.Extended
import SeriesCatalog.Json.Reader
import SeriesCatalog.Store.Basic
import SeriesCatalog.Text.Blank
import SeriesCatalog.Text.Lines
import SeriesCatalog.Text.Utf8

/-!
# Loading records

Input: lines of octets with one JSON object each.  Blank lines hold no record.

Result: `Store.load`, the store after the records up to the first that cannot be stored.
A line that is no record is reported with its number.
-/

namespace SeriesCatalog
namespace Store

def documentOfRecord (text : String) : Except StoreError Document :=
  match Json.read text with
  | .error e => .error (.json e)
  | .ok (.object m) =>
      match Document.ofMembers m with
      | .ok d => .ok d
      | .error r => .error (.conversion r.message)
  | .ok _ => .error (.invalidDocument "expected JSON object")

/-- The complaint about octets that are no text. -/
def notText : String :=
  "stream did not contain valid UTF-8"

/-- What loading records came to. -/
structure Loaded where
  store : Store
  inserted : Nat
  failure? : Option StoreError

/-- The record of a line with a number, under its identity, if the line holds one. -/
def recordOfLine (fresh : ObjectId) (number : Nat) (line : List UInt8) :
    Except StoreError (Option (String × Document)) :=
  match Text.Utf8.decode line with
  | .error _ => .error (.io notText)
  | .ok text =>
      let record := Text.trimBlanks text
      if record.isEmpty then .ok none
      else match documentOfRecord record with
        | .error e => .error (.invalidDocument s!"line {number}: {e.message}")
        | .ok d =>
            match named fresh d with
            | .error e => .error e
            | .ok r => .ok (some r)

/-- Stores the records of lines, of which the first has a number, after `inserted`
records. -/
def loadLines (fresh : Nat → ObjectId) (number inserted : Nat) (s : Store) :
    List (List UInt8) → Loaded
  | [] => ⟨s, inserted, none⟩
  | line :: l =>
      match recordOfLine (fresh number) number line with
      | .error e => ⟨s, inserted, some e⟩
      | .ok none => loadLines fresh (number + 1) inserted s l
      | .ok (some (id, d)) => loadLines fresh (number + 1) (inserted + 1) (s.set id d) l

/-- Stores the records of octets.  A record without an identity has that of its line among
the fresh ones. -/
def load (fresh : Nat → ObjectId) (octets : List UInt8) (s : Store) : Loaded :=
  loadLines fresh 1 0 s (Text.lines octets)

end Store
end SeriesCatalog
