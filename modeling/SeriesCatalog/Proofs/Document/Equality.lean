import Mathlib.Data.List.Forall2
import Mathlib.Data.List.Perm.Subperm
import SeriesCatalog.Proofs.Entries
import SeriesCatalog.Proofs.Query.Conditions

/-!
# Equal values

Lists of different values go by an equality that is not that of the values themselves: the
order of the keys of a document does not matter to it, and some numbers equal nothing.  What a
filter asks of a value, and which keys a document has, are the same for equal values.

Results:
* `Value.denotes_congr`: equal values stand for the same texts.
* `Value.mem_keys_iff_of_same`: equal documents have the same keys, if those of the one that
  came first differ.
-/

namespace SeriesCatalog
namespace Value

variable {v w : Value} {want : String}

/-! ## Texts -/

theorem sameItems_iff : ∀ {a b : List Value},
    sameItems a b = true ↔ List.Forall₂ (fun v w => same v w = true) a b
  | [], [] => by simp [sameItems]
  | [], w :: b => by simp [sameItems]
  | v :: a, [] => by simp [sameItems]
  | v :: a, w :: b => by simp [sameItems, sameItems_iff]

/-- Every item of a list has an equal one in an equal list. -/
theorem exists_mem_of_forall₂ {α β : Type} {R : α → β → Prop} {a : List α} {b : List β}
    (h : List.Forall₂ R a b) {x : α} (hx : x ∈ a) : ∃ y ∈ b, R x y := by
  induction h with
  | nil => cases hx
  | cons hxy _ ih =>
      rcases List.mem_cons.mp hx with rfl | hx
      · exact ⟨_, List.mem_cons_self, hxy⟩
      · obtain ⟨y, hy, hr⟩ := ih hx
        exact ⟨y, List.mem_cons_of_mem _ hy, hr⟩

/-- What a value stands for, a value that it equals stands for, on whichever side it is. -/
theorem Denotes.of_same (h : v.Denotes want) :
    ∀ {w}, same v w = true ∨ same w v = true → w.Denotes want := by
  induction h with
  | string =>
      rintro w (hw | hw)
      all_goals
        cases w <;> simp [same] at hw
        exact hw ▸ .string
  | objectId hid =>
      rintro w (hw | hw)
      all_goals
        cases w <;> simp [same] at hw
        exact .objectId (hw ▸ hid)
  | array hv _ ih =>
      rintro w (hw | hw)
      · cases w <;> simp [same] at hw
        obtain ⟨w', hw', hsame⟩ := exists_mem_of_forall₂ (sameItems_iff.mp hw) hv
        exact .array hw' (ih (.inl hsame))
      · cases w <;> simp [same] at hw
        obtain ⟨w', hw', hsame⟩ := exists_mem_of_forall₂ (sameItems_iff.mp hw).flip hv
        exact .array hw' (ih (.inr hsame))

/-- **Equal values stand for the same texts.** -/
theorem denotes_congr (h : same v w = true) : v.Denotes want ↔ w.Denotes want :=
  ⟨fun hv => hv.of_same (.inl h), fun hw => hw.of_same (.inr h)⟩

/-! ## Keys -/

theorem keys_subset_of_sameMembers {a b : Document} (h : sameMembers a b = true) :
    Entries.keys a ⊆ Entries.keys b := by
  induction a with
  | nil => simp [Entries.keys]
  | cons e a ih =>
      obtain ⟨k, v⟩ := e
      simp only [sameMembers, Bool.and_eq_true] at h
      intro key hkey
      rcases List.mem_cons.mp hkey with rfl | hkey
      · cases hw : Entries.lookup key b with
        | none => simp [hw] at h
        | some w => exact Entries.mem_keys_iff.mpr ⟨w, hw⟩
      · exact ih h.2 hkey

/-- **Equal documents have the same keys.**  Those of the first one differ, so that the second
one, which has as many entries, has no room for others. -/
theorem mem_keys_iff_of_same {a b : Document} (hkeys : (Entries.keys a).Nodup)
    (h : same (.document a) (.document b) = true) {key : String} :
    key ∈ Entries.keys a ↔ key ∈ Entries.keys b := by
  simp only [same, Bool.and_eq_true, decide_eq_true_eq] at h
  have hsub : (Entries.keys a).Subperm (Entries.keys b) :=
    hkeys.subperm (keys_subset_of_sameMembers h.2)
  have hlength : (Entries.keys b).length ≤ (Entries.keys a).length := by
    simp [Entries.keys, h.1]
  exact (hsub.perm_of_length_le hlength).mem_iff

end Value
end SeriesCatalog
