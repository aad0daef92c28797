import SeriesCatalog.Proofs.Document.Equality
import SeriesCatalog.Proofs.Document.Keys
import SeriesCatalog.Proofs.Store.Distinct

/-!
# The names of all fields

The names of the fields are the keys of the different documents at the path of the fields, in
ascending order.  That equal documents are listed once makes no difference, since they have the
same keys.

Results:
* `keysOfDocuments_congr`: the list of keys is determined by which keys there are.
* `Store.mem_keysOfDocuments_distinct`: which keys a store lists.
-/

namespace SeriesCatalog

variable {t u : String} {l : List String}

theorem mem_insertText : u ∈ insertText t l ↔ u = t ∨ u ∈ l := by
  induction l with
  | nil => simp [insertText]
  | cons u' l ih =>
      unfold insertText
      split
      · simp
      · split
        · rename_i hequal
          simp [hequal]
        · simp only [List.mem_cons, ih]
          exact or_left_comm

theorem ascending_insertText (h : l.Pairwise (· < ·)) : (insertText t l).Pairwise (· < ·) := by
  induction l with
  | nil => simp [insertText]
  | cons u l ih =>
      obtain ⟨hfirst, hrest⟩ := List.pairwise_cons.mp h
      unfold insertText
      split
      · rename_i hlt
        refine List.pairwise_cons.mpr ⟨fun v hv => ?_, h⟩
        rcases List.mem_cons.mp hv with rfl | hv
        · exact hlt
        · exact String.lt_trans hlt (hfirst v hv)
      · rename_i hnot
        split
        · exact h
        · rename_i hne
          refine List.pairwise_cons.mpr ⟨fun v hv => ?_, ih hrest⟩
          rcases mem_insertText.mp hv with rfl | hv
          · exact Std.lt_of_le_of_ne (Std.not_lt.mp hnot) (Ne.symm hne)
          · exact hfirst v hv

theorem mem_foldl_insertText {new : List String} :
    u ∈ new.foldl (fun l k => insertText k l) l ↔ u ∈ new ∨ u ∈ l := by
  induction new generalizing l with
  | nil => simp
  | cons k new ih => rw [List.foldl_cons, ih, mem_insertText, List.mem_cons, or_left_comm, or_assoc]

theorem ascending_foldl_insertText {new : List String} (h : l.Pairwise (· < ·)) :
    (new.foldl (fun l k => insertText k l) l).Pairwise (· < ·) := by
  induction new generalizing l with
  | nil => exact h
  | cons k new ih => exact ih (ascending_insertText h)

/-- Lists in ascending order with the same texts are the same. -/
theorem eq_of_ascending {a b : List String} (ha : a.Pairwise (· < ·)) (hb : b.Pairwise (· < ·))
    (h : ∀ t, t ∈ a ↔ t ∈ b) : a = b := by
  have hdistinct : ∀ {l : List String}, l.Pairwise (· < ·) → l.Nodup := by
    refine fun hl => List.Pairwise.imp ?_ hl
    rintro t u hlt rfl
    exact String.lt_irrefl t hlt
  have hperm : a.Perm b := (List.perm_ext_iff_of_nodup (hdistinct ha) (hdistinct hb)).mpr h
  refine hperm.eq_of_pairwise (fun t u _ _ htu hut => ?_) ha hb
  exact absurd (String.lt_trans htu hut) (String.lt_irrefl t)

namespace Value

/-- The keys of a document.  Other values have none, and those inside them do not count. -/
def ownKeys : Value → List String
  | document m => Entries.keys m
  | _ => []

theorem exists_of_mem_ownKeys {v : Value} {key : String} (h : key ∈ v.ownKeys) :
    ∃ m, v = .document m ∧ key ∈ Entries.keys m := by
  cases v with
  | document m => exact ⟨m, rfl, h⟩
  | _ => cases h

theorem mem_ownKeys_of_same {v w : Value} (hw : w.WellKeyed) (h : same w v = true)
    {key : String} : key ∈ w.ownKeys ↔ key ∈ v.ownKeys := by
  constructor
  · intro hkey
    obtain ⟨a, rfl, hkey⟩ := exists_of_mem_ownKeys hkey
    cases v with
    | document b => exact (mem_keys_iff_of_same hw.1 h).mp hkey
    | _ => cases h
  · intro hkey
    obtain ⟨b, rfl, hkey⟩ := exists_of_mem_ownKeys hkey
    cases w with
    | document a => exact (mem_keys_iff_of_same hw.1 h).mpr hkey
    | _ => cases h

end Value

theorem keysOfDocuments_eq (values : List Value) :
    keysOfDocuments values =
      (values.flatMap Value.ownKeys).foldl (fun l k => insertText k l) [] := by
  rw [List.foldl_flatMap]
  refine congrFun (congrFun (congrArg List.foldl ?_) []) values
  funext keys v
  cases v <;> rfl

theorem mem_keysOfDocuments_iff {values : List Value} {key : String} :
    key ∈ keysOfDocuments values ↔ ∃ v ∈ values, key ∈ v.ownKeys := by
  rw [keysOfDocuments_eq, mem_foldl_insertText, List.mem_flatMap]
  simp

theorem ascending_keysOfDocuments (values : List Value) :
    (keysOfDocuments values).Pairwise (· < ·) := by
  rw [keysOfDocuments_eq]
  exact ascending_foldl_insertText .nil

/-- The list of keys is determined by which keys there are. -/
theorem keysOfDocuments_congr {a b : List Value}
    (h : ∀ key, key ∈ keysOfDocuments a ↔ key ∈ keysOfDocuments b) :
    keysOfDocuments a = keysOfDocuments b :=
  eq_of_ascending (ascending_keysOfDocuments a) (ascending_keysOfDocuments b) h

namespace Store

variable {s : Store} {f : Filter} {path key : String}

theorem lookup_schemaKeys (s : Store) (f : Filter) :
    s.executor.lookup .schemaKeys f =
      .value ((keysOfDocuments (s.distinct Series.fieldsKey f)).map .string) :=
  rfl

/-- **The keys of the different documents at the end of a path** are those of the documents
that are contributed. -/
theorem mem_keysOfDocuments_distinct (h : ∀ d ∈ s.documents, d.WellKeyed) :
    key ∈ keysOfDocuments (s.distinct path f) ↔
      ∃ d ∈ s.matching f, ∃ v ∈ d.contributions path, key ∈ v.ownKeys := by
  have hwellKeyed : ∀ {d}, d ∈ s.matching f → d.WellKeyed := by
    intro d hd
    exact h d (Array.mem_toList_iff.mp (List.mem_filter.mp hd).1)
  rw [mem_keysOfDocuments_iff]
  constructor
  · rintro ⟨v, hv, hkey⟩
    obtain ⟨d, hd, hcontributed⟩ := exists_of_mem_distinct hv
    exact ⟨d, hd, v, hcontributed, hkey⟩
  · rintro ⟨d, hd, v, hv, hkey⟩
    obtain ⟨w, hw, hsame⟩ := exists_mem_distinct hd hv
    rcases hsame with rfl | hsame
    · exact ⟨w, hw, hkey⟩
    · obtain ⟨d', hd', hcontributed⟩ := exists_of_mem_distinct hw
      have hw' : w.WellKeyed := (hwellKeyed hd').contributions hcontributed
      exact ⟨w, hw, (Value.mem_ownKeys_of_same hw' hsame).mpr hkey⟩

end Store
end SeriesCatalog
