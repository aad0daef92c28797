import Mathlib.Data.List.Nodup
import SeriesCatalog.Entries

/-!
# Entries with different keys

What `put` and `merge` leave as it is: that keys differ, what holds of every value, and all
entries under other keys.  And what several of them come to one after the other.

* `Entries.without`: the entries under other keys.

Results:
* `Entries.lookup_perm`: the value at a key does not depend on the order.
* `Entries.merge_merge`: merging what was merged before is merging twice.
* `Entries.lookup_merge`, `Entries.lookup_merge_last`: the value at a key after merging.
-/

namespace SeriesCatalog
namespace Entries

variable {α : Type} {l new : Entries α} {key k : String} {v : α}

theorem mem_keys_iff : key ∈ keys l ↔ ∃ v, lookup key l = some v := by
  induction l with
  | nil => simp [keys, lookup]
  | cons e l ih =>
      obtain ⟨k, v⟩ := e
      by_cases h : k = key
      · simp [keys, lookup, h]
      · simpa [keys, lookup, h, Ne.symm h] using ih

theorem mem_of_lookup (h : lookup key l = some v) : (key, v) ∈ l := by
  induction l with
  | nil => cases h
  | cons e l ih =>
      obtain ⟨k, w⟩ := e
      simp only [lookup] at h
      split at h
      · rename_i hk
        cases h
        exact hk ▸ List.mem_cons_self
      · exact List.mem_cons_of_mem _ (ih h)

/-- With different keys, every entry is the one that is found. -/
theorem lookup_of_mem (hkeys : (keys l).Nodup) (h : (key, v) ∈ l) : lookup key l = some v := by
  induction l with
  | nil => cases h
  | cons e l ih =>
      obtain ⟨k, w⟩ := e
      obtain ⟨hfirst, hrest⟩ := List.nodup_cons.mp hkeys
      rcases List.mem_cons.mp h with heq | h
      · cases heq
        simp [lookup]
      · have hkey : key ∈ keys l := List.mem_map_of_mem h
        have hne : k ≠ key := fun heq => hfirst (heq ▸ hkey)
        simp [lookup, hne, ih hrest h]

/-- With different keys, the order of the entries does not matter. -/
theorem lookup_perm {l' : Entries α} (hkeys : (keys l).Nodup) (h : l.Perm l') (key : String) :
    lookup key l = lookup key l' := by
  have hkeys' : (keys l').Nodup := (h.map Prod.fst).nodup_iff.mp hkeys
  refine Option.ext fun v => ⟨fun hv => ?_, fun hv => ?_⟩
  · exact lookup_of_mem hkeys' (h.mem_iff.mp (mem_of_lookup hv))
  · exact lookup_of_mem hkeys (h.mem_iff.mpr (mem_of_lookup hv))

theorem nodup_keys_put (h : (keys l).Nodup) : (keys (put key v l)).Nodup := by
  rw [keys_put]
  split
  · exact h
  · rename_i hnew
    refine List.nodup_append.mpr ⟨h, List.nodup_singleton key, ?_⟩
    rintro a ha b hb rfl
    rw [List.mem_singleton.mp hb] at ha
    exact hnew ha

/-- An entry after a value was given holds that value, or was there before. -/
theorem mem_put {e : String × α} (h : e ∈ put key v l) : e.2 = v ∨ e ∈ l := by
  induction l with
  | nil =>
      rw [List.mem_singleton.mp h]
      exact .inl rfl
  | cons e' l ih =>
      obtain ⟨k, w⟩ := e'
      simp only [put] at h
      split at h
      · rcases List.mem_cons.mp h with rfl | h
        · exact .inl rfl
        · exact .inr (List.mem_cons_of_mem _ h)
      · rcases List.mem_cons.mp h with rfl | h
        · exact .inr List.mem_cons_self
        · rcases ih h with hv | hl
          · exact .inl hv
          · exact .inr (List.mem_cons_of_mem _ hl)

theorem nodup_keys_merge (h : (keys l).Nodup) : (keys (merge l new)).Nodup := by
  induction new generalizing l with
  | nil => exact h
  | cons e new ih => exact ih (nodup_keys_put h)

theorem mem_merge {e : String × α} (h : e ∈ merge l new) :
    (∃ e' ∈ new, e.2 = e'.2) ∨ e ∈ l := by
  induction new generalizing l with
  | nil => exact .inr h
  | cons e' new ih =>
      rcases ih h with ⟨e'', he'', hv⟩ | hput
      · exact .inl ⟨e'', List.mem_cons_of_mem _ he'', hv⟩
      · rcases mem_put hput with hv | hl
        · exact .inl ⟨e', List.mem_cons_self, hv⟩
        · exact .inr hl

/-- The entries under other keys. -/
def without (key : String) (l : Entries α) : Entries α :=
  l.filter fun e => e.1 ≠ key

@[simp] theorem without_put (key : String) (v : α) (l : Entries α) :
    without key (put key v l) = without key l := by
  induction l with
  | nil => simp [put, without]
  | cons e l ih =>
      obtain ⟨k, w⟩ := e
      by_cases h : k = key <;> simp_all [put, without]

theorem lookup_without (hk : k ≠ key) (l : Entries α) :
    lookup k (without key l) = lookup k l := by
  induction l with
  | nil => rfl
  | cons e l ih =>
      obtain ⟨k', w⟩ := e
      by_cases h : k' = key
      · simp_all [without, lookup, Ne.symm hk]
      · by_cases hk' : k' = k <;> simp_all [without, lookup]

/-! ## One after the other -/

/-- Of two values given for a key the last one stays. -/
@[simp] theorem put_put_self (key : String) (v w : α) (l : Entries α) :
    put key w (put key v l) = put key w l := by
  induction l with
  | nil => simp [put]
  | cons e l ih =>
      obtain ⟨k, u⟩ := e
      by_cases h : k = key
      · simp [put, h]
      · simp [put, h, ih]

/-- A key that is present keeps its place, whatever another key is given. -/
theorem put_comm {w : α} (hne : key ≠ k) (hkey : key ∈ keys l) :
    put key v (put k w l) = put k w (put key v l) := by
  induction l with
  | nil => cases hkey
  | cons e l ih =>
      obtain ⟨k', u⟩ := e
      by_cases hfirst : k' = key
      · subst hfirst
        simp [put, hne]
      · have hrest : key ∈ keys l := (List.mem_cons.mp hkey).resolve_left (Ne.symm hfirst)
        by_cases hother : k' = k
        · subst hother
          simp [put, hfirst]
        · simp [put, hfirst, hother, ih hrest]

theorem put_merge_comm (hkey : key ∈ keys l) (hnew : key ∉ keys new) :
    put key v (merge l new) = merge (put key v l) new := by
  induction new generalizing l with
  | nil => rfl
  | cons e new ih =>
      obtain ⟨k, w⟩ := e
      have hne : key ≠ k := List.ne_of_not_mem_cons hnew
      have hrest : key ∉ keys new := List.not_mem_of_not_mem_cons hnew
      have hkept : key ∈ keys (put k w l) := by
        rw [keys_put]
        split
        · exact hkey
        · exact List.mem_append_left _ hkey
      calc put key v (merge (put k w l) new)
          = merge (put key v (put k w l)) new := ih hkept hrest
        _ = merge (put k w (put key v l)) new := by rw [put_comm hne hkey]

/-- A value is merged at last wherever its key stands. -/
theorem merge_put (old : Entries α) (hnew : (keys new).Nodup) :
    merge old (put key v new) = put key v (merge old new) := by
  induction new generalizing old with
  | nil => rfl
  | cons e new ih =>
      obtain ⟨k, w⟩ := e
      obtain ⟨hfirst, hrest⟩ := List.nodup_cons.mp hnew
      by_cases h : k = key
      · subst h
        have hkey : k ∈ keys (put k w old) := mem_keys_iff.mpr ⟨w, by simp⟩
        calc merge old (put k v ((k, w) :: new))
            = merge (put k v old) new := by simp [put, merge]
          _ = merge (put k v (put k w old)) new := by rw [put_put_self]
          _ = put k v (merge (put k w old) new) := (put_merge_comm hkey hfirst).symm
      · have hput : put key v ((k, w) :: new) = (k, w) :: put key v new := by simp [put, h]
        rw [hput]
        exact ih _ hrest

/-- **Merging what was merged before is merging twice.** -/
theorem merge_merge (old : Entries α) {a : Entries α} (b : Entries α) (ha : (keys a).Nodup) :
    merge old (merge a b) = merge (merge old a) b := by
  induction b generalizing a with
  | nil => rfl
  | cons e b ih =>
      calc merge old (merge (put e.1 e.2 a) b)
          = merge (merge old (put e.1 e.2 a)) b := ih (nodup_keys_put ha)
        _ = merge (put e.1 e.2 (merge old a)) b := by rw [merge_put old ha]

theorem lookup_merge_of_not_mem (old : Entries α) (hnew : k ∉ keys new) :
    lookup k (merge old new) = lookup k old := by
  induction new generalizing old with
  | nil => rfl
  | cons e new ih =>
      have hne : k ≠ e.1 := List.ne_of_not_mem_cons hnew
      have hrest : k ∉ keys new := List.not_mem_of_not_mem_cons hnew
      have hput : lookup k (put e.1 e.2 old) = lookup k old := by
        rw [lookup_put, if_neg (Ne.symm hne)]
      exact (ih _ hrest).trans hput

/-- The value at a key after merging is the last one that is given. -/
theorem lookup_merge_last (old before : Entries α) {after : Entries α} (hafter : k ∉ keys after) :
    lookup k (merge old (before ++ (k, v) :: after)) = some v := by
  have hsplit : merge old (before ++ (k, v) :: after) =
      merge (put k v (merge old before)) after := by
    simp only [merge, List.foldl_append, List.foldl_cons]
  rw [hsplit, lookup_merge_of_not_mem _ hafter, lookup_put, if_pos rfl]

/-- **The value at a key after merging** is the new one, or the old one if there is none. -/
theorem lookup_merge (old : Entries α) (hnew : (keys new).Nodup) (k : String) :
    lookup k (merge old new) = (lookup k new).or (lookup k old) := by
  induction new generalizing old with
  | nil => rfl
  | cons e new ih =>
      obtain ⟨key, v⟩ := e
      obtain ⟨hfirst, hrest⟩ := List.nodup_cons.mp hnew
      by_cases h : key = k
      · subst h
        have hlast := lookup_merge_last (v := v) old [] hfirst
        simpa [lookup] using hlast
      · have hmerge : merge old ((key, v) :: new) = merge (put key v old) new := rfl
        rw [hmerge, ih _ hrest, lookup_put, if_neg h, lookup, if_neg h]

end Entries
end SeriesCatalog
