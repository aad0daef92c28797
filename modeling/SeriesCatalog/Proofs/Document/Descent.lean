import SeriesCatalog.Proofs.Document.Paths

/-!
# Paths lead as naive descent does

A path is cut at its dots into segments, of which any may be empty.  Following it comes to the
same as looking up the segments one inside the other, as long as they are not too many.

* `Document.Segments`: the segments of a path.
* `Document.nest`: documents one inside the other, with a value at the end of their keys.

Results:
* `Document.segments_pathKeys`, `Document.Segments.eq_pathKeys`: a path has one list of segments.
* `Document.follow_eq_descend`: the bound on the depth is all that `follow` adds to `descend`.
* `Document.getPath_eq_descend`: the value at the end of a path, for every path and document.
-/

namespace SeriesCatalog
namespace Document

/-- The texts between the dots of a path. -/
structure Segments (path : String) (keys : List String) : Prop where
  ne_nil : keys ≠ []
  undotted : ∀ key ∈ keys, '.' ∉ key.toList
  joined : ".".intercalate keys = path

/-! ## Cutting and joining -/

theorem intercalate_splitDots (l : List Char) :
    ∀ held : List Char, ".".intercalate (splitDots held l) = String.ofList (held.reverse ++ l) := by
  induction l with
  | nil => simp [splitDots]
  | cons c l ih =>
      intro held
      by_cases hc : c = '.'
      · subst hc
        have hrest := splitDots_ne_nil l []
        simp [splitDots, String.intercalate_cons_of_ne_nil hrest, ih, String.append_assoc]
      · simp [splitDots, hc, ih]

theorem segments_pathKeys (path : String) : Segments path (pathKeys path) where
  ne_nil := pathKeys_ne_nil path
  undotted := fun _ => dot_not_mem_of_mem_pathKeys
  joined := by simp [pathKeys, intercalate_splitDots]

theorem pathKeys_intercalate :
    ∀ {keys : List String}, keys ≠ [] → (∀ key ∈ keys, '.' ∉ key.toList) →
      pathKeys (".".intercalate keys) = keys
  | [], hne, _ => absurd rfl hne
  | [key], _, hdots => by
      rw [String.intercalate_singleton]
      exact pathKeys_of_not_mem (hdots key List.mem_cons_self)
  | key :: next :: rest, _, hdots => by
      obtain ⟨hkey, hrest⟩ := List.forall_mem_cons.mp hdots
      have ih := pathKeys_intercalate (List.cons_ne_nil next rest) hrest
      have hchars : (".".intercalate (key :: next :: rest)).toList =
          key.toList ++ '.' :: (".".intercalate (next :: rest)).toList := by
        simp
      rw [pathKeys, hchars, splitDots_append hkey, ← pathKeys, ih]
      simp

/-- A path has no other segments than those it is cut into. -/
theorem Segments.eq_pathKeys {path : String} {keys : List String} (h : Segments path keys) :
    keys = pathKeys path := by
  rw [← h.joined, pathKeys_intercalate h.ne_nil h.undotted]

/-! ## Following and descending -/

/-- Following keys is descending along them, if they are not more than the depth. -/
theorem follow_eq_descend (depth : Nat) :
    ∀ (d : Document) (keys : List String),
      d.follow depth keys = if keys.length ≤ depth then d.descend keys else none := by
  induction depth with
  | zero =>
      intro d keys
      cases keys with
      | nil => rfl
      | cons key rest => rfl
  | succ depth ih =>
      intro d keys
      match keys with
      | [] => rfl
      | [key] => simp [follow, descend]
      | key :: next :: rest =>
          simp only [follow, descend, List.length_cons, Nat.add_le_add_iff_right]
          cases Entries.lookup key d with
          | none => simp
          | some v =>
              cases v with
              | document inner => simpa using ih inner (next :: rest)
              | _ => simp

/-- Documents one inside the other, with a value at the end of their keys. -/
def nest : List String → Value → Document
  | [], _ => []
  | [key], v => [(key, v)]
  | key :: rest, v => [(key, .document (nest rest v))]

theorem descend_nest (v : Value) :
    ∀ {keys : List String}, keys ≠ [] → (nest keys v).descend keys = some v
  | [], hne => absurd rfl hne
  | [key], _ => by simp [nest, descend, Entries.lookup]
  | key :: next :: rest, _ => by
      have ih := descend_nest v (List.cons_ne_nil next rest)
      simp [nest, descend, Entries.lookup, ih]

/-- **The value at the end of a path is that of naive descent.**  A path has one list of segments.
Unless it is empty or has more than thirty-two of them, it leads where they lead one after the
other, and then every value is at its end in some document. -/
theorem getPath_eq_descend (path : String) :
    ∃ keys : List String, Segments path keys ∧ (∀ other, Segments path other → other = keys) ∧
      (∀ d : Document, d.getPath path =
        if path = "" ∨ 32 < keys.length then none else d.descend keys) ∧
      (path ≠ "" → keys.length ≤ 32 → ∀ v : Value, ∃ d : Document, d.getPath path = some v) := by
  have hdescend : ∀ d : Document, d.getPath path =
      if path = "" ∨ 32 < (pathKeys path).length then none else d.descend (pathKeys path) := by
    intro d
    rw [getPath, follow_eq_descend, greatestDepth]
    by_cases hempty : path = ""
    · simp [hempty]
    · by_cases hlong : 32 < (pathKeys path).length
      · simp [hlong, Nat.not_le.mpr hlong]
      · simp [hempty, hlong, Nat.not_lt.mp hlong]
  refine ⟨pathKeys path, segments_pathKeys path, fun _ h => h.eq_pathKeys, hdescend, ?_⟩
  intro hempty hshort v
  refine ⟨nest (pathKeys path) v, ?_⟩
  rw [hdescend, if_neg (by simp [hempty, hshort])]
  exact descend_nest v (pathKeys_ne_nil path)

/-- Thirty-one dots have thirty-two segments, all of them empty, and lead to a value; one dot more
leads nowhere. -/
theorem getPath_eq_descend_dots :
    Segments (String.ofList (List.replicate 31 '.')) (List.replicate 32 "") ∧
      (∃ d : Document, d.getPath (String.ofList (List.replicate 31 '.')) = some .null) ∧
      ∀ d : Document, d.getPath (String.ofList (List.replicate 32 '.')) = none := by
  have hsegments : Segments (String.ofList (List.replicate 31 '.')) (List.replicate 32 "") :=
    ⟨by decide, by decide, by decide⟩
  have hlonger : Segments (String.ofList (List.replicate 32 '.')) (List.replicate 33 "") :=
    ⟨by decide, by decide, by decide⟩
  obtain ⟨keys, -, hunique, -, hresolves⟩ :=
    getPath_eq_descend (String.ofList (List.replicate 31 '.'))
  obtain ⟨keys', -, hunique', hdescend', -⟩ :=
    getPath_eq_descend (String.ofList (List.replicate 32 '.'))
  obtain rfl := hunique _ hsegments
  obtain rfl := hunique' _ hlonger
  refine ⟨hsegments, hresolves (by decide) (by decide) .null, fun d => ?_⟩
  rw [hdescend', if_pos (.inr (by decide))]

end Document
end SeriesCatalog
