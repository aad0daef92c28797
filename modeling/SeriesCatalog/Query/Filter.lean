import SeriesCatalog.Document.Path
import SeriesCatalog.Document.Series

/-!
# Filters

A filter asks for a text at each of several paths.  Its conditions are in ascending order
of the paths, with one condition per path.

* `Filter.require`: adds the condition of a key of a query.
* `Filter.matchesDocument`: whether all conditions hold for a document.
-/

namespace SeriesCatalog

/-- Whether conditions are in ascending order of their paths. -/
def Ascending (l : Entries String) : Prop :=
  l.Pairwise fun a b => a.1 < b.1

/-- Conditions in ascending order of their paths. -/
structure Filter where
  conditions : Entries String
  ascending : Ascending conditions

namespace Filter

/-- Gives a path its text, in ascending order. -/
def insertSorted (path text : String) : Entries String → Entries String
  | [] => [(path, text)]
  | (p, t) :: l =>
      if path < p then (path, text) :: (p, t) :: l
      else if p = path then (path, text) :: l
      else (p, t) :: insertSorted path text l

theorem mem_insertSorted {path text : String} {e : String × String} :
    ∀ {l : Entries String}, e ∈ insertSorted path text l → e.1 = path ∨ e ∈ l
  | [], h => by
      simp only [insertSorted, List.mem_singleton] at h
      exact Or.inl (by rw [h])
  | (p, t) :: l, h => by
      simp only [insertSorted] at h
      split at h
      · rcases List.mem_cons.mp h with rfl | h
        · exact Or.inl rfl
        · exact Or.inr h
      · split at h
        · rcases List.mem_cons.mp h with rfl | h
          · exact Or.inl rfl
          · exact Or.inr (List.mem_cons_of_mem _ h)
        · rcases List.mem_cons.mp h with rfl | h
          · exact Or.inr List.mem_cons_self
          · rcases mem_insertSorted h with h | h
            · exact Or.inl h
            · exact Or.inr (List.mem_cons_of_mem _ h)

theorem ascending_insertSorted (path text : String) :
    ∀ {l : Entries String}, Ascending l → Ascending (insertSorted path text l)
  | [], _ => by simp [insertSorted, Ascending]
  | (p, t) :: l, h => by
      obtain ⟨first, rest⟩ := List.pairwise_cons.mp h
      simp only [insertSorted]
      split
      · rename_i before
        refine List.pairwise_cons.mpr ⟨?_, h⟩
        intro e he
        rcases List.mem_cons.mp he with rfl | he
        · exact before
        · exact String.lt_trans before (first e he)
      · split
        · rename_i same
          subst same
          exact List.pairwise_cons.mpr ⟨first, rest⟩
        · rename_i notBefore different
          refine List.pairwise_cons.mpr ⟨?_, ascending_insertSorted path text rest⟩
          intro e he
          rcases mem_insertSorted he with same | he
          · rw [same]
            exact Std.lt_of_le_of_ne (Std.not_lt.mp notBefore) different
          · exact first e he

def empty : Filter :=
  ⟨[], List.Pairwise.nil⟩

/-- Adds the condition of a key of a query.  A key given again has its last text. -/
def require (f : Filter) (key text : String) : Filter :=
  let path := Series.pathOfKey key
  ⟨insertSorted path text f.conditions, ascending_insertSorted path text f.ascending⟩

/-- The filter of keys with texts, given one after the other. -/
def ofPairs (l : List (String × String)) : Filter :=
  l.foldl (fun f e => f.require e.1 e.2) empty

def isEmpty (f : Filter) : Bool :=
  f.conditions.isEmpty

def size (f : Filter) : Nat :=
  f.conditions.length

/-- The text asked for at a path. -/
def get? (f : Filter) (path : String) : Option String :=
  Entries.lookup path f.conditions

def toDocument (f : Filter) : Document :=
  f.conditions.map fun e => (e.1, .string e.2)

/-- Whether a document has a value at a path that stands for a text. -/
def holds (d : Document) (e : String × String) : Bool :=
  match d.getPath e.1 with
  | some v => v.standsFor e.2
  | none => false

/-- Whether all conditions hold for a document. -/
def matchesDocument (f : Filter) (d : Document) : Bool :=
  f.conditions.all (holds d)

end Filter

end SeriesCatalog
