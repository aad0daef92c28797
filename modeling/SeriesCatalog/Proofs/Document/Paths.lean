import SeriesCatalog.Document.Path
import SeriesCatalog.Document.Series

/-!
# Where a path begins

A path leads through the value at its first key, and nothing else of the document matters to
it.  The path of a field begins at the key of the fields.

* `Document.SameMap`: documents with the same value at every key, in whatever order.

Results:
* `Document.getPath_congr`: the value at the end of a path, from that at its first key.
* `Document.pathKeys_fieldPath`: the keys of the path of a field.
* `Document.pathKeys_of_not_mem`, `Document.dot_not_mem_of_mem_pathKeys`: keys of a path and dots.
* `Document.SameMap.contributions_eq`: documents that are the same map contribute the same.
-/

namespace SeriesCatalog
namespace Document

variable {d d' : Document}

/-! ## The keys of a path -/

theorem splitDots_ne_nil (l : List Char) : ∀ held : List Char, splitDots held l ≠ [] := by
  induction l with
  | nil => simp [splitDots]
  | cons c l ih =>
      intro held
      by_cases hc : c = '.'
      · simp [splitDots, hc]
      · simpa [splitDots, hc] using ih (c :: held)

theorem pathKeys_ne_nil (path : String) : pathKeys path ≠ [] :=
  splitDots_ne_nil _ _

/-- The characters before the first dot are a key of their own. -/
theorem splitDots_append {l : List Char} (hl : '.' ∉ l) (rest : List Char) :
    ∀ held : List Char,
      splitDots held (l ++ '.' :: rest) =
        String.ofList (held.reverse ++ l) :: splitDots [] rest := by
  induction l with
  | nil => simp [splitDots]
  | cons c l ih =>
      intro held
      have hc : c ≠ '.' := fun h => hl (h ▸ List.mem_cons_self)
      have hrest := ih (fun h => hl (List.mem_cons_of_mem c h)) (c :: held)
      simpa [splitDots, hc] using hrest

theorem splitDots_of_not_mem {l : List Char} (hl : '.' ∉ l) :
    ∀ held : List Char, splitDots held l = [String.ofList (held.reverse ++ l)] := by
  induction l with
  | nil => simp [splitDots]
  | cons c l ih =>
      intro held
      have hc : c ≠ '.' := fun h => hl (h ▸ List.mem_cons_self)
      have hrest := ih (fun h => hl (List.mem_cons_of_mem c h)) (c :: held)
      simpa [splitDots, hc] using hrest

/-- A text without a dot is one key. -/
theorem pathKeys_of_not_mem {key : String} (hkey : '.' ∉ key.toList) : pathKeys key = [key] := by
  rw [pathKeys, splitDots_of_not_mem hkey]
  simp

theorem dot_not_mem_of_mem_splitDots {part : String} {l held : List Char} (hheld : '.' ∉ held)
    (h : part ∈ splitDots held l) : '.' ∉ part.toList := by
  induction l generalizing held with
  | nil =>
      rw [splitDots, List.mem_singleton] at h
      simpa [h] using hheld
  | cons c l ih =>
      rw [splitDots] at h
      split at h
      · rcases List.mem_cons.mp h with rfl | h
        · simpa using hheld
        · exact ih List.not_mem_nil h
      · rename_i hc
        refine ih (fun hmem => ?_) h
        rcases List.mem_cons.mp hmem with heq | hmem
        · exact hc heq.symm
        · exact hheld hmem

/-- No key of a path has a dot. -/
theorem dot_not_mem_of_mem_pathKeys {path part : String} (h : part ∈ pathKeys path) :
    '.' ∉ part.toList :=
  dot_not_mem_of_mem_splitDots List.not_mem_nil h

/-- The path of a field goes through the fields, and on along its name. -/
theorem pathKeys_fieldPath (name : String) :
    pathKeys (Series.fieldPath name) = Series.fieldsKey :: pathKeys name := by
  have hdot : '.' ∉ Series.fieldsKey.toList := by decide
  have hchars : (Series.fieldPath name).toList =
      Series.fieldsKey.toList ++ '.' :: name.toList := by
    simp [Series.fieldPath]
  rw [pathKeys, hchars, splitDots_append hdot, pathKeys]
  simp

theorem pathKeys_fieldsKey : pathKeys Series.fieldsKey = [Series.fieldsKey] := by
  decide

theorem pathKeys_identityKey : pathKeys Series.identityKey = [Series.identityKey] := by
  decide

/-! ## The value at the end -/

theorem follow_congr {key : String} (h : Entries.lookup key d = Entries.lookup key d')
    (depth : Nat) (rest : List String) :
    follow depth d (key :: rest) = follow depth d' (key :: rest) := by
  cases depth with
  | zero => simp [follow]
  | succ depth =>
      cases rest with
      | nil => simpa [follow] using h
      | cons next rest => simp [follow, h]

/-- The value at the end of a path depends on the value at the first key alone. -/
theorem getPath_congr {path key : String} {rest : List String}
    (hkeys : pathKeys path = key :: rest)
    (h : Entries.lookup key d = Entries.lookup key d') : d.getPath path = d'.getPath path := by
  simp only [getPath, hkeys, follow_congr h]

theorem contributions_congr {path : String} (h : d.getPath path = d'.getPath path) :
    d.contributions path = d'.contributions path := by
  simp only [contributions, h]

/-- The documents have the same value at every key. -/
def SameMap (d d' : Document) : Prop :=
  ∀ key, Entries.lookup key d = Entries.lookup key d'

theorem SameMap.getPath_eq (h : d.SameMap d') (path : String) :
    d.getPath path = d'.getPath path := by
  obtain ⟨key, rest, hkeys⟩ := List.exists_cons_of_ne_nil (pathKeys_ne_nil path)
  exact getPath_congr hkeys (h key)

theorem SameMap.contributions_eq (h : d.SameMap d') (path : String) :
    d.contributions path = d'.contributions path :=
  contributions_congr (h.getPath_eq path)

end Document
end SeriesCatalog
