/-!
# Entries

A list of keys with values, read as an ordered map.  A value given for a key that is
present takes the place of the old one, and a new key goes to the end.

* `Entries.lookup`: the value at a key.
* `Entries.put`: gives a key a value.
* `Entries.merge`: gives many keys their values, one after the other.
-/

namespace SeriesCatalog

universe u

abbrev Entries (α : Type u) := List (String × α)

namespace Entries

variable {α : Type u}

/-- The value at the first entry with a key. -/
def lookup (key : String) : Entries α → Option α
  | [] => none
  | (k, v) :: l => if k = key then some v else lookup key l

def put (key : String) (value : α) : Entries α → Entries α
  | [] => [(key, value)]
  | (k, v) :: l => if k = key then (k, value) :: l else (k, v) :: put key value l

/-- Gives the keys of `new` their values, one after the other. -/
def merge (old new : Entries α) : Entries α :=
  new.foldl (fun l e => put e.1 e.2 l) old

def keys (l : Entries α) : List String :=
  l.map Prod.fst

def contains (key : String) (l : Entries α) : Bool :=
  (lookup key l).isSome

@[simp] theorem lookup_put (key k : String) (value : α) (l : Entries α) :
    lookup k (put key value l) = if key = k then some value else lookup k l := by
  induction l with
  | nil => simp [put, lookup]
  | cons e l ih =>
      obtain ⟨k', v⟩ := e
      by_cases h : k' = key
      · subst h
        by_cases h' : k' = k <;> simp [put, lookup, h']
      · by_cases h' : k' = k
        · subst h'
          simp [put, lookup, h, Ne.symm h]
        · simp [put, lookup, h, h', ih]

/-- A value for a key that is present leaves the keys as they are, and a new key goes to
the end. -/
theorem keys_put (key : String) (value : α) (l : Entries α) :
    keys (put key value l) = if key ∈ keys l then keys l else keys l ++ [key] := by
  induction l with
  | nil => simp [put, keys]
  | cons e l ih =>
      obtain ⟨k, v⟩ := e
      by_cases h : k = key
      · subst h
        simp [put, keys]
      · have h' : ¬key = k := fun e => h e.symm
        simp only [keys] at ih
        by_cases hm : key ∈ List.map Prod.fst l
        · simp [put, keys, h, ih, hm]
        · simp [put, keys, h, h', ih, hm]

end Entries

end SeriesCatalog
