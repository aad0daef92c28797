import SeriesCatalog.Proofs.Document.Equality
import SeriesCatalog.Proofs.Store.Distinct

/-!
# Facets

The different values of a field tell by which conditions a search can be narrowed.  A list is
taken apart by one level when its items are collected, and searched at every depth when a
condition is tested, and an equal value may stand in the list for the one that a document has.

Results:
* `Document.denotes_contributions_iff`: a value at the end of a path stands for a text if a
  contribution does.
* `Store.denotes_distinct_iff`: which texts the different values stand for.
* `Store.facets_sound_complete`: these are the texts by which a search can be narrowed.
-/

namespace SeriesCatalog

/-- A list stands for a text through an item, so that it makes no difference that it is taken
apart. -/
theorem Document.denotes_contributions_iff {d : Document} {path text : String} :
    (∃ v ∈ d.contributions path, v.Denotes text) ↔
      ∃ v, d.getPath path = some v ∧ v.Denotes text := by
  cases hpath : d.getPath path with
  | none => simp [contributions, hpath]
  | some v =>
      cases v with
      | array items =>
          simp only [contributions, hpath, Option.some.injEq, exists_eq_left']
          constructor
          · rintro ⟨v, hv, hdenotes⟩
            exact .array hv hdenotes
          · rintro (_ | _ | ⟨hv, hdenotes⟩)
            exact ⟨_, hv, hdenotes⟩
      | _ => simp [contributions, hpath]

namespace Filter

variable {f : Filter} {d : Document} {key text : String}

theorem matchesDocument_single_iff :
    (empty.require key text).matchesDocument d = true ↔
      ∃ v, d.getPath (Series.pathOfKey key) = some v ∧ v.Denotes text := by
  have hempty : ∀ path, empty.get? path = none := fun _ => rfl
  rw [matchesDocument_iff]
  constructor
  · intro h
    exact h _ text (by simp)
  · intro h path text' htext
    rw [get?_require, hempty] at htext
    split at htext
    · rename_i hpath
      cases htext
      exact hpath ▸ h
    · cases htext

/-- A document that matches a filter and a further condition matches the filter in which the
condition takes the place of that of its key. -/
theorem matchesDocument_require (hf : f.matchesDocument d = true)
    (hkey : (empty.require key text).matchesDocument d = true) :
    (f.require key text).matchesDocument d = true := by
  rw [matchesDocument_iff]
  intro path text' htext
  rw [get?_require] at htext
  split at htext
  · rename_i hpath
    cases htext
    exact hpath ▸ matchesDocument_single_iff.mp hkey
  · exact matchesDocument_iff.mp hf path text' htext

end Filter

namespace Store

variable {s : Store} {f : Filter}

/-- The different values stand for the texts that the values of the matching documents stand
for: an equal value in the place of another stands for the same texts. -/
theorem denotes_distinct_iff {path text : String} :
    (∃ v ∈ s.distinct path f, v.Denotes text) ↔
      ∃ d ∈ s.matching f, ∃ v, d.getPath path = some v ∧ v.Denotes text := by
  constructor
  · rintro ⟨v, hv, hdenotes⟩
    obtain ⟨d, hd, hcontributed⟩ := exists_of_mem_distinct hv
    exact ⟨d, hd, Document.denotes_contributions_iff.mp ⟨v, hcontributed, hdenotes⟩⟩
  · rintro ⟨d, hd, hvalue⟩
    obtain ⟨v, hv, hdenotes⟩ := Document.denotes_contributions_iff.mpr hvalue
    obtain ⟨w, hw, hsame⟩ := exists_mem_distinct hd hv
    rcases hsame with rfl | hsame
    · exact ⟨w, hw, hdenotes⟩
    · exact ⟨w, hw, (Value.denotes_congr hsame).mpr hdenotes⟩

theorem mem_matching_iff {d : Document} :
    d ∈ s.matching f ↔ d ∈ s.documents ∧ f.matchesDocument d = true := by
  simp [matching]

/-- **The different values of a field are the texts by which a search can be narrowed.**  One of
them stands for a text exactly if a document matches both the filter and the condition that the
field has this text.  So every text among them, as the condition of its field, is matched by a
document. -/
theorem facets_sound_complete (s : Store) (f : Filter) {key : String}
    (hkey : key ≠ Series.identityWord) :
    (∀ text, (∃ v ∈ s.distinct (Series.fieldPath key) f, v.Denotes text) ↔
      ∃ d ∈ s.documents, f.matchesDocument d = true ∧
        (Filter.empty.require key text).matchesDocument d = true) ∧
    ∀ text, .string text ∈ s.distinct (Series.fieldPath key) f →
      0 < s.count (f.require key text) := by
  have hpath : Series.pathOfKey key = Series.fieldPath key := by simp [Series.pathOfKey, hkey]
  have hiff : ∀ text, (∃ v ∈ s.distinct (Series.fieldPath key) f, v.Denotes text) ↔
      ∃ d ∈ s.documents, f.matchesDocument d = true ∧
        (Filter.empty.require key text).matchesDocument d = true := by
    intro text
    rw [denotes_distinct_iff]
    simp only [mem_matching_iff, Filter.matchesDocument_single_iff, hpath, and_assoc]
  refine ⟨hiff, fun text htext => ?_⟩
  obtain ⟨d, hd, hf, hcondition⟩ := (hiff text).mp ⟨_, htext, .string⟩
  have hmem : d ∈ s.matching (f.require key text) :=
    mem_matching_iff.mpr ⟨hd, Filter.matchesDocument_require hf hcondition⟩
  exact List.length_pos_of_mem hmem

/-- A series with a list of tags, one of which is in a list of its own, and a series in another
city. -/
def tagged : Store :=
  (empty.upsertFields "a"
    [("city", .string "Recife"), ("tags", .array [.string "x", .array [.string "y"]])]).upsertFields
    "b" [("city", .string "Natal"), ("tags", .string "z")]

theorem facets_sound_complete_tags :
    "tags" ≠ Series.identityWord ∧
      tagged.distinct (Series.fieldPath "tags") (Filter.empty.require "city" "Recife") =
        [.string "x", .array [.string "y"]] ∧
      (∃ d ∈ tagged.documents, (Filter.empty.require "city" "Recife").matchesDocument d = true ∧
        (Filter.empty.require "tags" "y").matchesDocument d = true) ∧
      0 < tagged.count ((Filter.empty.require "city" "Recife").require "tags" "x") := by
  have hkey : "tags" ≠ Series.identityWord := by decide
  have hdocuments : tagged.documents.toList =
      [[("_id", .string "a"), ("fields", .document [("city", .string "Recife"),
          ("tags", .array [.string "x", .array [.string "y"]])])],
        [("_id", .string "b"),
          ("fields", .document [("city", .string "Natal"), ("tags", .string "z")])]] := by
    simp [tagged, upsertFields, mergeInto, empty, append]
    exact ⟨rfl, rfl⟩
  have hdistinct :
      tagged.distinct (Series.fieldPath "tags") (Filter.empty.require "city" "Recife") =
        [.string "x", .array [.string "y"]] := by
    rw [distinct, matching, hdocuments]
    rfl
  obtain ⟨hiff, hlisted⟩ :=
    facets_sound_complete tagged (Filter.empty.require "city" "Recife") hkey
  refine ⟨hkey, hdistinct, (hiff "y").mp ⟨.array [.string "y"], ?_, ?_⟩, hlisted "x" ?_⟩
  · simp [hdistinct]
  · exact .array List.mem_cons_self .string
  · simp [hdistinct]

end Store
end SeriesCatalog
