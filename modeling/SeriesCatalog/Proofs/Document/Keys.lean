import SeriesCatalog.Proofs.Document.Hereditary

/-!
# Keys of documents

A document is a list of entries, which could hold a key twice.  One that comes from a JSON
object, or from merging into one, does not.

* `Document.WellKeyed`: the keys of a document differ, and those of every document in it.

Results:
* `Value.hereditary_wellKeyed`: values are well keyed with their parts.
-/

namespace SeriesCatalog
namespace Value

mutual

def WellKeyed : Value → Prop
  | array l => WellKeyedItems l
  | document m => (Entries.keys m).Nodup ∧ WellKeyedMembers m
  | scopedCode _ m => (Entries.keys m).Nodup ∧ WellKeyedMembers m
  | _ => True

def WellKeyedItems : List Value → Prop
  | [] => True
  | v :: l => WellKeyed v ∧ WellKeyedItems l

def WellKeyedMembers : List (String × Value) → Prop
  | [] => True
  | (_, v) :: l => WellKeyed v ∧ WellKeyedMembers l

end

theorem wellKeyedItems_iff {l : List Value} : WellKeyedItems l ↔ ∀ v ∈ l, v.WellKeyed := by
  induction l with
  | nil => simp [WellKeyedItems]
  | cons v l ih => simp [WellKeyedItems, ih]

theorem wellKeyedMembers_iff {m : Document} : WellKeyedMembers m ↔ ∀ e ∈ m, e.2.WellKeyed := by
  induction m with
  | nil => simp [WellKeyedMembers]
  | cons e m ih => simp [WellKeyedMembers, ih]

end Value

namespace Document

structure WellKeyed (d : Document) : Prop where
  nodup : (Entries.keys d).Nodup
  values : ∀ e ∈ d, e.2.WellKeyed

end Document

theorem Value.wellKeyed_document_iff {m : Document} :
    (document m).WellKeyed ↔ m.WellKeyed := by
  rw [WellKeyed, wellKeyedMembers_iff]
  exact ⟨fun h => ⟨h.1, h.2⟩, fun h => ⟨h.nodup, h.values⟩⟩

/-- **Values are well keyed with their parts.** -/
theorem Value.hereditary_wellKeyed : Hereditary WellKeyed where
  simple := by
    intro v hv
    cases v with
    | array _ | document _ | scopedCode _ _ => exact hv.elim
    | _ => trivial
  array := wellKeyedItems_iff
  document := and_congr_right' wellKeyedMembers_iff
  scopedCode := and_congr_right' wellKeyedMembers_iff

namespace Document

variable {d : Document}

theorem wellKeyed_nil : WellKeyed [] :=
  Value.wellKeyed_document_iff.mp Value.hereditary_wellKeyed.nil

theorem WellKeyed.put (h : d.WellKeyed) {v : Value} (hv : v.WellKeyed) (key : String) :
    WellKeyed (Entries.put key v d) :=
  Value.wellKeyed_document_iff.mp
    (Value.hereditary_wellKeyed.put (Value.wellKeyed_document_iff.mpr h) hv key)

theorem WellKeyed.contributions (h : d.WellKeyed) {path : String} {v : Value}
    (hv : v ∈ d.contributions path) : v.WellKeyed :=
  Value.hereditary_wellKeyed.contributions (Value.wellKeyed_document_iff.mpr h) hv

end Document
end SeriesCatalog
