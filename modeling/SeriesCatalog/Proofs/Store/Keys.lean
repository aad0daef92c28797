import SeriesCatalog.Proofs.Document.Keys
import SeriesCatalog.Proofs.Store.Inheritance

/-!
# Keys of stored documents

A store holds well-keyed documents if those that are handed to it are.  Points and loaded
records come with no such condition: what is made of them is well keyed.

* `Write.WellKeyed`: the document of a write is well keyed.

Results:
* `Store.wellKeyed_run`: the documents of the store.
-/

namespace SeriesCatalog

def Write.WellKeyed : Write → Prop
  | insert _ d => d.WellKeyed
  | upsertFields _ fields => fields.WellKeyed
  | addPoint _ _ => True
  | addPoints _ _ => True
  | load _ _ => True

theorem Write.WellKeyed.brings {w : Write} (h : w.WellKeyed) : w.Brings Value.WellKeyed := by
  cases w with
  | insert _ _ | upsertFields _ _ => exact Value.wellKeyed_document_iff.mpr h
  | _ => trivial

namespace Store

theorem wellKeyed_entriesOfPoints (points : List Point) : (entriesOfPoints points).WellKeyed :=
  Value.wellKeyed_document_iff.mp (holds_entriesOfPoints Value.hereditary_wellKeyed points)

/-- **The documents of a store are well keyed** if those that were handed to it are. -/
theorem wellKeyed_run {ws : List Write} (hws : ∀ w ∈ ws, w.WellKeyed) {d : Document}
    (hd : d ∈ (run ws).documents) : d.WellKeyed :=
  Value.wellKeyed_document_iff.mp
    (holds_run Value.hereditary_wellKeyed (fun w hw => (hws w hw).brings) hd)

end Store
end SeriesCatalog
