import SeriesCatalog.Entries

/-!
# Tables of TOML text

A table is defined once: by a header, by keys with points, or in braces.  A table that is
only on the way of a header may still be defined by a header, but not by keys with points,
although these may go through it to tables of their own.

* `insertAt`: gives a key with points its value.
* `defineTable`, `defineElement`: what the two kinds of headers do.
-/

namespace SeriesCatalog
namespace Toml

/-- How a table came to be. -/
inductive Origin
  | header
  /-- It is on the way of a header. -/
  | implied
  /-- It is on the way of a key with points. -/
  | dotted
  | braces
deriving DecidableEq, Repr

inductive Item
  | string (text : String)
  | integer (value : Int)
  /-- A value of another kind without parts. -/
  | other
  | array (items : List Item)
  | table (origin : Origin) (entries : List (String × Item))
  /-- The tables of headers in doubled brackets, last first. -/
  | tables (list : List (List (String × Item)))

/-- The keys of a table with their values. -/
abbrev Table := Entries Item

/-- Whether a key with points may go through a table, or may end in it. -/
def Origin.admits (origin : Origin) (ends : Bool) : Bool :=
  match origin with
  | dotted => true
  | implied => !ends
  | header => false
  | braces => false

/-- Gives a key with points its value. -/
def insertAt (value : Item) : List String → Table → Option Table
  | [], _ => none
  | [key], t => if Entries.contains key t then none else some (Entries.put key value t)
  | key :: rest, t =>
      match Entries.lookup key t with
      | none => (insertAt value rest []).map fun inner => Entries.put key (.table .dotted inner) t
      | some (.table origin inner) =>
          if origin.admits (rest.length = 1) then
            (insertAt value rest inner).map fun inner => Entries.put key (.table origin inner) t
          else none
      | some (.tables (last :: before)) =>
          if rest.length = 1 then none
          else
            (insertAt value rest last).map fun last =>
              Entries.put key (.tables (last :: before)) t
      | some _ => none

/-- Changes the table at the end of a way of keys, which is made up if it is missing. -/
def modifyAt (change : Table → Option Table) : List String → Table → Option Table
  | [], t => change t
  | key :: rest, t =>
      match Entries.lookup key t with
      | none =>
          (modifyAt change rest []).map fun inner => Entries.put key (.table .implied inner) t
      | some (.table origin inner) =>
          if origin = .braces then none
          else
            (modifyAt change rest inner).map fun inner => Entries.put key (.table origin inner) t
      | some (.tables (last :: before)) =>
          (modifyAt change rest last).map fun last => Entries.put key (.tables (last :: before)) t
      | some _ => none

/-- Defines the table of a key. -/
def defineKey (key : String) (t : Table) : Option Table :=
  match Entries.lookup key t with
  | none => some (Entries.put key (.table .header []) t)
  | some (.table .implied inner) => some (Entries.put key (.table .header inner) t)
  | some _ => none

/-- Adds a table to those of a key. -/
def extendKey (key : String) (t : Table) : Option Table :=
  match Entries.lookup key t with
  | none => some (Entries.put key (.tables [[]]) t)
  | some (.tables l) => some (Entries.put key (.tables ([] :: l)) t)
  | some _ => none

/-- Applies a change for the last key of a header at the end of the keys before it. -/
def atHeader (change : String → Table → Option Table) (path : List String) (t : Table) :
    Option Table :=
  match path.reverse with
  | [] => none
  | key :: before => modifyAt (change key) before.reverse t

/-- Defines the table of a header. -/
def defineTable (path : List String) (t : Table) : Option Table :=
  atHeader defineKey path t

/-- Adds a table to those of a header in doubled brackets. -/
def defineElement (path : List String) (t : Table) : Option Table :=
  atHeader extendKey path t

end Toml
end SeriesCatalog
