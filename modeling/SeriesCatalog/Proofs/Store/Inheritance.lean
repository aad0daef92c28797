import SeriesCatalog.Proofs.Document.Hereditary
import SeriesCatalog.Proofs.Store.Distinct
import SeriesCatalog.Proofs.Store.History

/-!
# What stored documents have from those handed in

A store puts together documents from what writes hand to it.  A property that values have with
their parts goes from the documents of the writes to those of the store.  Points and loaded records
come with no such condition: what is made of them has the property.

* `Write.Brings`: the document of a write has a property.

Results:
* `Store.holds_of_mem_edits`: what writes come to has it.
* `Store.holds_contents`: the documents after writes have it.
* `Store.holds_run`: the same for the documents of the store.
* `Store.holds_lookup`: the different values that a specifier asks for have it.
-/

namespace SeriesCatalog

variable {P : Value → Prop}

def Write.Brings (P : Value → Prop) : Write → Prop
  | insert _ d => P (.document d)
  | upsertFields _ fields => P (.document fields)
  | addPoint _ _ => True
  | addPoints _ _ => True
  | load _ _ => True

def Edit.Brings (P : Value → Prop) : Edit → Prop
  | replace _ d => P (.document d)
  | merge _ _ entries => P (.document entries)

namespace Store

variable (hP : Value.Hereditary P) {d : Document} {r : String × Document}

include hP

/-! ## What writes bring -/

theorem holds_of_named {fresh : ObjectId} (h : named fresh d = .ok r) (hd : P (.document d)) :
    P (.document r.2) := by
  have hidentified : P (.document (identified fresh d)) := by
    unfold identified
    split
    · exact hd
    · exact hP.put hd (hP.simple (by trivial)) _
  simp only [named] at h
  split at h
  · cases h
    exact hidentified
  · cases h

theorem holds_of_documentOfRecord {text : String} (h : documentOfRecord text = .ok d) :
    P (.document d) := by
  unfold documentOfRecord at h
  split at h
  · cases h
  · rename_i hread
    split at h
    · rename_i hmembers
      cases h
      exact hP.ofMembers (Json.wellKeyed_of_read hread) hmembers
    · cases h
  · cases h

theorem holds_of_recordOfLine {fresh : ObjectId} {number : Nat} {line : List UInt8}
    (h : recordOfLine fresh number line = .ok (some r)) : P (.document r.2) := by
  simp only [recordOfLine] at h
  split at h
  · cases h
  · split at h
    · cases h
    · split at h
      · cases h
      · rename_i hrecord
        split at h
        · cases h
        · rename_i hnamed
          cases h
          exact holds_of_named hP hnamed (holds_of_documentOfRecord hP hrecord)

theorem holds_of_mem_recordsOfLines {fresh : Nat → ObjectId} {lines : List (List UInt8)}
    {number : Nat} (h : r ∈ recordsOfLines fresh number lines) : P (.document r.2) := by
  induction lines generalizing number with
  | nil => cases h
  | cons line lines ih =>
      simp only [recordsOfLines] at h
      split at h
      · cases h
      · exact ih h
      · rename_i hline
        rcases List.mem_cons.mp h with rfl | h
        · exact holds_of_recordOfLine hP hline
        · exact ih h

theorem holds_entriesOfPoints (points : List Point) : P (.document (entriesOfPoints points)) := by
  refine hP.merge hP.nil fun e he => ?_
  obtain ⟨p, -, rfl⟩ := List.mem_map.mp he
  exact hP.simple (by trivial)

/-- What writes come to has a property that the documents they bring have. -/
theorem holds_of_mem_edits {w : Write} (hw : w.Brings P) {e : Edit} (he : e ∈ w.edits) :
    e.Brings P := by
  cases w with
  | insert fresh d =>
      simp only [Write.edits] at he
      split at he
      · rename_i hnamed
        rcases List.mem_singleton.mp he with rfl
        exact holds_of_named hP hnamed hw
      · cases he
  | upsertFields id fields =>
      rcases List.mem_singleton.mp he with rfl
      exact hw
  | addPoint id point =>
      rcases List.mem_singleton.mp he with rfl
      exact holds_entriesOfPoints hP _
  | addPoints id points =>
      rcases List.mem_singleton.mp he with rfl
      exact holds_entriesOfPoints hP _
  | load fresh octets =>
      obtain ⟨r, hr, rfl⟩ := List.mem_map.mp he
      exact holds_of_mem_recordsOfLines hP hr

/-! ## What becomes of the documents -/

theorem holds_subdocument (hd : P (.document d)) (key : String) :
    P (.document (subdocument key d)) := by
  unfold subdocument
  split
  · rename_i hlookup
    exact hP.lookup hd hlookup
  · exact hP.nil

theorem holds_change {e : Edit} (he : e.Brings P) {old? : Option Document}
    (hold : ∀ d, old? = some d → P (.document d)) : P (.document (e.change old?)) := by
  cases e with
  | replace id d => exact he
  | merge id key entries =>
      have hd : P (.document (old?.getD [(Series.identityKey, .string id)])) := by
        cases old? with
        | none => exact hP.put hP.nil (hP.simple (by trivial)) Series.identityKey
        | some d => exact hold d rfl
      have hmerged := hP.merge (holds_subdocument hP hd key) (hP.document.mp he).2
      exact hP.put hd hmerged key

theorem holds_foldl_edit {es : List Edit} (hes : ∀ e ∈ es, e.Brings P) {m : Contents}
    (hm : ∀ id d, m id = some d → P (.document d)) :
    ∀ id d, es.foldl Contents.edit m id = some d → P (.document d) := by
  induction es generalizing m with
  | nil => exact hm
  | cons e es ih =>
      refine ih (fun e' he' => hes e' (List.mem_cons_of_mem e he')) fun id d hd => ?_
      unfold Contents.edit at hd
      split at hd
      · cases hd
        exact holds_change hP (hes e List.mem_cons_self) (hm id)
      · exact hm id d hd

theorem holds_contents {ws : List Write} (hws : ∀ w ∈ ws, w.Brings P) {id : String}
    (h : contents ws id = some d) : P (.document d) := by
  refine holds_foldl_edit hP (fun e he => ?_) (fun _ _ hnone => by cases hnone) id d h
  obtain ⟨w, hw, he⟩ := List.mem_flatMap.mp he
  exact holds_of_mem_edits hP (hws w hw) he

/-- **The documents of a store have what those have that were handed to it.** -/
theorem holds_run {ws : List Write} (hws : ∀ w ∈ ws, w.Brings P)
    (hd : d ∈ (run ws).documents) : P (.document d) := by
  have hmem : some d ∈ (arrivals ws).map (contents ws) := by
    rw [← (represents_run ws).documents_eq]
    exact List.mem_map_of_mem (Array.mem_toList_iff.mpr hd)
  obtain ⟨id, -, hid⟩ := List.mem_map.mp hmem
  exact holds_contents hP hws hid

/-! ## What is asked for -/

/-- **The different values of a field** have what the documents of the store have. -/
theorem holds_lookup {s : Store} (hs : ∀ d ∈ s.documents, P (.document d)) {spec : Specifier}
    {f : Filter} {l : List Value} (h : s.executor.lookup spec f = .value l) {v : Value}
    (hv : v ∈ l) : P v := by
  cases spec with
  | schemaKeys =>
      cases h
      obtain ⟨key, -, rfl⟩ := List.mem_map.mp hv
      exact hP.simple (by trivial)
  | field name =>
      cases h
      obtain ⟨d, hd, hcontributed⟩ := exists_of_mem_distinct hv
      have hstored : d ∈ s.documents := Array.mem_toList_iff.mp (List.mem_filter.mp hd).1
      exact hP.contributions (hs d hstored) hcontributed

end Store
end SeriesCatalog
