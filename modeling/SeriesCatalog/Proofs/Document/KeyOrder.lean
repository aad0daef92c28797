import SeriesCatalog.Proofs.Document.Paths
import SeriesCatalog.Proofs.Entries
import SeriesCatalog.Proofs.Query.Conditions

/-!
# Documents with their keys in another order

The order of the keys of a document carries no meaning, whether it is that of the whole document
or of one in it.  Neither the value at the end of a path nor what a filter asks depends on it.

This is not the equality that lists of different values go by: a number that equals nothing is
still the same number here, and the two zeros are two.

* `Value.KeysReordered`, `Document.KeysReordered`: the same but for the order of keys.

Results:
* `Document.KeysReordered.of_perm`: the same entries in another order.
* `Document.KeysReordered.getPath`: the values at the end of a path are the same but for the order
  of keys.
* `Document.KeysReordered.matchesDocument_eq`: the same filters match.
* `Document.KeysReordered.put`: a key can be given the same value in both.
-/

namespace SeriesCatalog

section Rel

variable {α β : Type} {R : α → β → Prop} {a? : Option α} {b? : Option β}

theorem exists_of_rel (h : Option.Rel R a? b?) {a : α} (ha : a? = some a) :
    ∃ b, b? = some b ∧ R a b := by
  cases h with
  | none => cases ha
  | some hab =>
      cases ha
      exact ⟨_, rfl, hab⟩

theorem isSome_eq_of_rel (h : Option.Rel R a? b?) : a?.isSome = b?.isSome := by
  cases h <;> rfl

end Rel

/-- The same value, where the keys of each document in it may be in another order. -/
inductive Value.KeysReordered : Value → Value → Prop
  | refl (v : Value) : KeysReordered v v
  | array {a b : List Value} (hlength : a.length = b.length)
      (hitems : ∀ {i : Nat} {v w : Value}, a[i]? = some v → b[i]? = some w → KeysReordered v w) :
      KeysReordered (.array a) (.array b)
  | document {a b : Document} (hkeys : ∀ key, key ∈ Entries.keys a ↔ key ∈ Entries.keys b)
      (hvalues : ∀ {key v w}, Entries.lookup key a = some v → Entries.lookup key b = some w →
        KeysReordered v w) :
      KeysReordered (.document a) (.document b)
  | scopedCode {text : String} {a b : Document}
      (hkeys : ∀ key, key ∈ Entries.keys a ↔ key ∈ Entries.keys b)
      (hvalues : ∀ {key v w}, Entries.lookup key a = some v → Entries.lookup key b = some w →
        KeysReordered v w) :
      KeysReordered (.scopedCode text a) (.scopedCode text b)

namespace Value.KeysReordered

variable {v w : Value}

theorem symm (h : KeysReordered v w) : KeysReordered w v := by
  induction h with
  | refl v => exact .refl v
  | array hlength _ ih => exact .array hlength.symm fun hv hw => ih hw hv
  | document hkeys _ ih => exact .document (fun key => (hkeys key).symm) fun hv hw => ih hw hv
  | scopedCode hkeys _ ih => exact .scopedCode (fun key => (hkeys key).symm) fun hv hw => ih hw hv

theorem exists_mem_of_items {a b : List Value} (hlength : a.length = b.length)
    (hitems : ∀ {i : Nat} {v w : Value}, a[i]? = some v → b[i]? = some w → KeysReordered v w)
    (hv : v ∈ a) :
    ∃ w ∈ b, KeysReordered v w := by
  obtain ⟨i, hi⟩ := List.mem_iff_getElem?.mp hv
  have hbound : i < b.length := hlength ▸ (List.getElem?_eq_some_iff.mp hi).1
  have hw : b[i]? = some b[i] := List.getElem?_eq_getElem hbound
  exact ⟨b[i], List.getElem_mem hbound, hitems hi hw⟩

theorem denotes {want : String} (hv : v.Denotes want) :
    ∀ {w}, KeysReordered v w → w.Denotes want := by
  induction hv with
  | string =>
      rintro w (_ | _)
      exact .string
  | objectId hid =>
      rintro w (_ | _)
      exact .objectId hid
  | array hmem hv ih =>
      rintro w (_ | _)
      · exact .array hmem hv
      · rename_i b hlength hitems
        obtain ⟨w', hw', hreordered⟩ := exists_mem_of_items hlength hitems hmem
        exact .array hw' (ih hreordered)

theorem denotes_iff (h : KeysReordered v w) {want : String} : v.Denotes want ↔ w.Denotes want :=
  ⟨fun hv => denotes hv h, fun hw => denotes hw h.symm⟩

end Value.KeysReordered

namespace Document

/-- The same document, where its keys and those of each document in it may be in another order. -/
def KeysReordered (d d' : Document) : Prop :=
  Value.KeysReordered (.document d) (.document d')

namespace KeysReordered

variable {d d' : Document} {key : String}

theorem symm (h : d.KeysReordered d') : d'.KeysReordered d :=
  Value.KeysReordered.symm h

theorem mem_keys_iff (h : d.KeysReordered d') : key ∈ Entries.keys d ↔ key ∈ Entries.keys d' := by
  cases h with
  | refl => exact Iff.rfl
  | document hkeys => exact hkeys key

theorem of_lookup (h : ∀ key, Option.Rel Value.KeysReordered (Entries.lookup key d)
    (Entries.lookup key d')) : d.KeysReordered d' := by
  refine .document (fun key => ?_) fun {key v w} hv hw => ?_
  · rw [Entries.mem_keys_iff, Entries.mem_keys_iff, ← Option.isSome_iff_exists,
      ← Option.isSome_iff_exists, isSome_eq_of_rel (h key)]
  · obtain ⟨w', hw', hvalue⟩ := exists_of_rel (h key) hv
    cases hw.symm.trans hw'
    exact hvalue

/-- Documents with the same entries in another order. -/
theorem of_perm (hkeys : (Entries.keys d).Nodup) (h : d.Perm d') : d.KeysReordered d' := by
  refine of_lookup fun key => ?_
  rw [Entries.lookup_perm hkeys h]
  cases Entries.lookup key d' with
  | none => exact .none
  | some v => exact .some (.refl v)

/-- The values at a key are the same but for the order of keys in them. -/
theorem lookup (h : d.KeysReordered d') (key : String) :
    Option.Rel Value.KeysReordered (Entries.lookup key d) (Entries.lookup key d') := by
  have hsome : ∀ {e e' : Document}, e.KeysReordered e' → ∀ {v}, Entries.lookup key e = some v →
      ∃ w, Entries.lookup key e' = some w :=
    fun he _ hv => Entries.mem_keys_iff.mp (he.mem_keys_iff.mp (Entries.mem_keys_iff.mpr ⟨_, hv⟩))
  cases hv : Entries.lookup key d with
  | none =>
      cases hw : Entries.lookup key d' with
      | none => exact .none
      | some w =>
          obtain ⟨v, hv'⟩ := hsome h.symm hw
          cases hv.symm.trans hv'
  | some v =>
      obtain ⟨w, hw⟩ := hsome h hv
      rw [hw]
      cases h with
      | refl => exact .some (Option.some.inj (hv.symm.trans hw) ▸ .refl v)
      | document _ hvalues => exact .some (hvalues hv hw)

theorem follow {depth : Nat} {path : List String} (h : d.KeysReordered d') :
    Option.Rel Value.KeysReordered (d.follow depth path) (d'.follow depth path) := by
  induction depth generalizing d d' path with
  | zero => exact .none
  | succ depth ih =>
      match path with
      | [] => exact .none
      | [key] => exact h.lookup key
      | key :: next :: rest =>
          have hkey := h.lookup key
          simp only [Document.follow]
          generalize Entries.lookup key d = v? at hkey
          generalize Entries.lookup key d' = w? at hkey
          cases hkey with
          | none => exact .none
          | @some v w hvalue =>
              cases hvalue with
              | refl =>
                  cases v with
                  | document m => exact ih (.refl _)
                  | _ => exact .none
              | array => exact .none
              | document hkeys hvalues => exact ih (.document hkeys hvalues)
              | scopedCode => exact .none

/-- **The values at the end of a path are the same but for the order of keys in them.** -/
theorem getPath (h : d.KeysReordered d') (path : String) :
    Option.Rel Value.KeysReordered (d.getPath path) (d'.getPath path) := by
  unfold Document.getPath
  split
  · exact .none
  · exact h.follow

theorem holds_imp (h : d.KeysReordered d') {path text : String}
    (hd : ∃ v, d.getPath path = some v ∧ v.Denotes text) :
    ∃ v, d'.getPath path = some v ∧ v.Denotes text := by
  obtain ⟨v, hv, hdenotes⟩ := hd
  obtain ⟨w, hw, hvalue⟩ := exists_of_rel (h.getPath path) hv
  exact ⟨w, hw, hvalue.denotes_iff.mp hdenotes⟩

/-- **The same filters match.** -/
theorem matchesDocument_eq (h : d.KeysReordered d') (f : Filter) :
    f.matchesDocument d = f.matchesDocument d' := by
  rw [Bool.eq_iff_iff, Filter.matchesDocument_iff, Filter.matchesDocument_iff]
  exact ⟨fun hd path text hcondition => h.holds_imp (hd path text hcondition),
    fun hd path text hcondition => h.symm.holds_imp (hd path text hcondition)⟩

theorem put (h : d.KeysReordered d') (key : String) (v : Value) :
    Document.KeysReordered (Entries.put key v d) (Entries.put key v d') := by
  refine of_lookup fun k => ?_
  rw [Entries.lookup_put, Entries.lookup_put]
  split
  · exact .some (.refl v)
  · exact h.lookup k

end KeysReordered
end Document
end SeriesCatalog
