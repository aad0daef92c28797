import SeriesCatalog.Proofs.FirstOccurrences
import SeriesCatalog.Proofs.Query.Conditions
import SeriesCatalog.Proofs.Success
import SeriesCatalog.Query.Request

/-!
# What a submission asks for

A submission that is accepted gives keys with values, a length and names of fields.  The
request that it becomes holds these in a form of its own: a filter, a length and different
specifiers.

* `Submission.Gives`: what a submission gives.

Results:
* `Specifiers.list_ofTexts`: the specifiers of names are those of the first occurrences.
* `Submission.Gives.unique`: a submission does not give two different things.
* `Submission.gives_of_check`: the request of an accepted submission, by what it gives.
-/

namespace SeriesCatalog

namespace Specifier

theorem parse_inj {a b : String} : parse a = parse b ↔ a = b := by
  refine ⟨fun h => ?_, fun h => h ▸ rfl⟩
  have hkey := congrArg responseKey h
  simpa using hkey

/-- Specifiers are collected as the names are that come first. -/
theorem collect_eq_map :
    ∀ (l before : List String),
      collect (before.eraseDups.map parse) l = (before ++ l).eraseDups.map parse
  | [], before => by simp [collect]
  | t :: l, before => by
      have hcontains : (before.eraseDups.map parse).contains (parse t) = before.contains t := by
        rw [Bool.eq_iff_iff]
        simp [parse_inj]
      have ih := collect_eq_map l (before ++ [t])
      rw [FirstOccurrences.eraseDups_concat] at ih
      simp only [collect, hcontains]
      by_cases ht : t ∈ before
      · simpa [ht] using ih
      · simpa [ht] using ih

end Specifier

/-- The specifiers of names are those of the first occurrences, in order. -/
theorem Specifiers.list_ofTexts (names : List String) :
    (ofTexts names).list = names.eraseDups.map Specifier.parse := by
  simpa [ofTexts] using Specifier.collect_eq_map names []

namespace Submission

/-- The names of fields that a member of a submission gives. -/
inductive GivesNames : Option Json → List String → Prop
  | absent : GivesNames none []
  | null : GivesNames (some .null) []
  | single (name : String) : GivesNames (some (.string name)) [name]
  | list (names : List String) : GivesNames (some (.list (names.map .string))) names

/-- The keys with values, the length and the names of fields that a submission gives. -/
structure Gives (x : Submission) (pairs : List (String × String)) (len : Int)
    (names : List String) : Prop where
  query : ∃ text, queryText x.query? = .ok text ∧ Query.pairs text = .ok pairs
  len : directive x.len? = .ok len
  names : GivesNames x.distinct? names

theorem GivesNames.unique {distinct? : Option Json} {names names' : List String}
    (h : GivesNames distinct? names) (h' : GivesNames distinct? names') : names = names' := by
  cases h with
  | absent => cases h'; rfl
  | null => cases h'; rfl
  | single name => cases h'; rfl
  | list names =>
      generalize hl : names.map Json.string = l at h'
      cases h' with
      | list names' => exact (List.map_inj_right (by simp)).mp hl

/-- A submission gives at most one list of keys with values, one length and one list of
names. -/
theorem Gives.unique {x : Submission} {pairs pairs' : List (String × String)} {len len' : Int}
    {names names' : List String} (h : x.Gives pairs len names)
    (h' : x.Gives pairs' len' names') : pairs = pairs' ∧ len = len' ∧ names = names' := by
  obtain ⟨text, htext, hpairs⟩ := h.query
  obtain ⟨text', htext', hpairs'⟩ := h'.query
  cases htext.symm.trans htext'
  exact ⟨Except.ok.inj (hpairs.symm.trans hpairs'), Except.ok.inj (h.len.symm.trans h'.len),
    h.names.unique h'.names⟩

theorem texts?_eq_some :
    ∀ {l : List Json} {names : List String}, texts? l = some names → l = names.map .string
  | [], names, h => by
      cases h
      rfl
  | .string s :: l, names, h => by
      obtain ⟨rest, hrest, rfl⟩ := Option.map_eq_some_iff.mp h
      rw [texts?_eq_some hrest, List.map_cons]
  | .null :: _, _, h | .bool _ :: _, _, h | .whole _ :: _, _, h | .double _ :: _, _, h
  | .list _ :: _, _, h | .object _ :: _, _, h => by cases h

theorem givesNames_of_specifiers {distinct? : Option Json} {s : Specifiers}
    (h : specifiers distinct? = .ok s) :
    ∃ names, GivesNames distinct? names ∧ s = .ofTexts names := by
  unfold specifiers at h
  split at h
  · cases h
    exact ⟨[], .absent, rfl⟩
  · cases h
    exact ⟨[], .null, rfl⟩
  · cases h
    exact ⟨_, .single _, rfl⟩
  · split at h
    · rename_i htexts
      cases h
      rw [texts?_eq_some htexts]
      exact ⟨_, .list _, rfl⟩
    · cases h
  · cases h

theorem pairs_of_parse {text : String} {f : Filter} (h : Filter.parse text = .ok f) :
    ∃ pairs, Query.pairs text = .ok pairs ∧ f = .ofPairs pairs := by
  unfold Filter.parse at h
  split at h
  · rename_i l hpairs
    cases h
    exact ⟨l, hpairs, rfl⟩
  · cases h

/-- **The request of an accepted submission, by what the submission gives.** -/
theorem gives_of_check {x : Submission} {r : Request} (h : x.check = .ok r) :
    ∃ pairs len names, x.Gives pairs len names ∧ r.filter = .ofPairs pairs ∧
      Length.ofDirective len = .ok r.length ∧ r.specifiers = .ofTexts names := by
  obtain ⟨text, htext, h⟩ := ok_of_bind_eq_ok h
  obtain ⟨filter, hfilter, h⟩ := ok_of_bind_eq_ok h
  obtain ⟨len, hlen, h⟩ := ok_of_bind_eq_ok h
  obtain ⟨length, hlength, h⟩ := ok_of_bind_eq_ok h
  obtain ⟨specifiers, hspecifiers, h⟩ := ok_of_bind_eq_ok h
  cases h
  obtain ⟨pairs, hpairs, rfl⟩ := pairs_of_parse hfilter
  obtain ⟨names, hnames, rfl⟩ := givesNames_of_specifiers hspecifiers
  exact ⟨pairs, len, names, ⟨⟨text, htext, hpairs⟩, hlen, hnames⟩, rfl, hlength, rfl⟩

end Submission
end SeriesCatalog
