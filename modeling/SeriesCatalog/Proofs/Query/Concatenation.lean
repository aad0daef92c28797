import Mathlib.Data.List.Nodup
import SeriesCatalog.Proofs.Query.Conditions
import SeriesCatalog.Proofs.Query.Quoting
import SeriesCatalog.Proofs.Query.Submissions
import SeriesCatalog.Store.Basic

/-!
# Query texts one after the other

Two query texts with blanks between them are a query text.  If the first one is in order, the
scan is between two tokens behind the blanks, and nothing of the first text is left in its
state.  The keys and values of the second text follow those of the first, and an error of the
second text is the error of both.

* `Filter.override`: the conditions of two filters, of which the second one decides where both
  have one.

Results:
* `Query.scan_append_blank`, `Query.pairs_append`: the state of the scan does not reach past
  a blank.
* `Filter.ofPairs_append`: more keys and values override those that came before.
* `Filter.matchesDocument_override`: without a path in common, both filters have to match.
* `Filter.parse_joined`: the filter of two texts, and the documents that it finds.
-/

namespace SeriesCatalog
namespace Query

section Scanning

variable {c : Char} (hc : Text.isBlank c = true)
include hc

theorem scan_between_blank (l : List Char) : scan .between (c :: l) = scan .between l := by
  simp [scan, isQuote_of_isBlank hc, hc]

/-- Behind a text without an open run, a blank brings the scan between two tokens. -/
theorem scan_append_blank (rest : List Char) {l : List Char} {s : Scan}
    {tokens : List String} (h : scan s l = .ok tokens) :
    scan s (l ++ c :: rest) = (tokens ++ ·) <$> scan .between rest := by
  -- The state is the one in which the scan comes to `l`, half a token kept or none.
  induction l generalizing s tokens with
  | nil =>
      cases s with
      | between =>
          cases h
          rw [List.nil_append, scan_between_blank hc]
          simp
      | plain kept =>
          cases h
          rw [List.nil_append, scan_plain_blank rest hc]
          rfl
      | quoted q kept => cases h
  | cons a l ih =>
      rw [List.cons_append]
      cases s with
      | between =>
          by_cases hq : isQuote a = true
          · simp only [scan, hq, if_true] at h ⊢
            exact ih h
          · by_cases hb : Text.isBlank a = true
            · rw [scan_between_blank hb] at h ⊢
              exact ih h
            · simp only [scan, hq, hb] at h ⊢
              exact ih h
      | plain kept =>
          rcases opens_or_ends_or_keeps (opensRun kept) a with ⟨hq, ho⟩ | hb | ⟨hq, hb⟩
          · rw [scan_plain_open _ hq ho] at h ⊢
            exact ih h
          · rw [scan_plain_blank _ hb] at h ⊢
            obtain ⟨tokens, hl, rfl⟩ := ok_of_map_eq_ok h
            rw [ih hl]
            simp
          · rw [scan_plain_keep _ hq hb] at h ⊢
            exact ih h
      | quoted q kept =>
          by_cases haq : a = q
          · simp only [scan, haq, if_true] at h ⊢
            exact ih h
          · simp only [scan, haq, if_false] at h ⊢
            exact ih h

end Scanning

theorem scan_between_append_blanks {w : List Char} (hw : ∀ c ∈ w, Text.isBlank c = true)
    (l : List Char) : scan .between (w ++ l) = scan .between l := by
  induction w with
  | nil => rfl
  | cons c w ih =>
      rw [List.cons_append, scan_between_blank (hw c List.mem_cons_self)]
      exact ih fun b hb => hw b (List.mem_cons_of_mem c hb)

/-- The tokens of a text follow those of the text before the blanks. -/
theorem tokens_append {text w : String} {tokens₁ : List String} (h : tokens text = .ok tokens₁)
    (hw : w ≠ "") (hblank : Text.isBlankText w = true) (rest : String) :
    tokens (text ++ w ++ rest) = (tokens₁ ++ ·) <$> tokens rest := by
  have hblanks : ∀ c ∈ w.toList, Text.isBlank c = true := List.all_eq_true.mp hblank
  obtain ⟨c, w', hcons⟩ : ∃ c w', w.toList = c :: w' :=
    List.exists_cons_of_ne_nil (mt String.toList_eq_nil_iff.mp hw)
  rw [hcons] at hblanks
  have hlist : (text ++ w ++ rest).toList = text.toList ++ c :: (w' ++ rest.toList) := by
    simp [hcons]
  rw [tokens, hlist, scan_append_blank (hblanks c List.mem_cons_self) _ h,
    scan_between_append_blanks fun b hb => hblanks b (List.mem_cons_of_mem c hb)]
  rfl

theorem pairsOfTokens_append {l l' : List String} {pairs : List (String × String)}
    (h : pairsOfTokens l = .ok pairs) :
    pairsOfTokens (l ++ l') = (pairs ++ ·) <$> pairsOfTokens l' := by
  induction l generalizing pairs with
  | nil =>
      cases h
      simp
  | cons t l ih =>
      rw [List.cons_append]
      simp only [pairsOfTokens] at h ⊢
      cases ht : pairOfToken t with
      | error e => simp [ht] at h
      | ok p =>
          simp only [ht] at h ⊢
          obtain ⟨pairs, hl, rfl⟩ := ok_of_map_eq_ok h
          rw [ih hl]
          simp

/-- The keys and values of a text follow those of the text before the blanks, and what is wrong
with the text is what is wrong with both. -/
theorem pairs_append {text w : String} {pairs₁ : List (String × String)}
    (h : pairs text = .ok pairs₁) (hw : w ≠ "") (hblank : Text.isBlankText w = true)
    (rest : String) : pairs (text ++ w ++ rest) = (pairs₁ ++ ·) <$> pairs rest := by
  cases htext : tokens text with
  | error run => simp [pairs, htext] at h
  | ok tokens₁ =>
      simp only [pairs, htext] at h
      simp only [pairs, tokens_append htext hw hblank rest]
      cases tokens rest with
      | error run => rfl
      | ok tokens₂ => exact pairsOfTokens_append h

/-- A query text parses and gives a key. -/
def HasKey (text key : String) : Prop :=
  ∃ pairs, Query.pairs text = .ok pairs ∧ key ∈ pairs.map Prod.fst

end Query

namespace Filter

theorem nodup_paths (f : Filter) : (f.conditions.map Prod.fst).Nodup := by
  rw [List.Nodup, List.pairwise_map]
  refine f.ascending.imp ?_
  intro a b hlt heq
  exact String.lt_irrefl b.1 (heq ▸ hlt)

/-- Filters that ask for the same text at every path are the same. -/
theorem ext_get? {f g : Filter} (h : ∀ path, f.get? path = g.get? path) : f = g := by
  have hperm : f.conditions.Perm g.conditions := by
    rw [List.perm_ext_iff_of_nodup (List.Nodup.of_map _ f.nodup_paths)
      (List.Nodup.of_map _ g.nodup_paths)]
    rintro ⟨path, text⟩
    rw [← lookup_eq_some_iff f.ascending, ← lookup_eq_some_iff g.ascending]
    change f.get? path = some text ↔ g.get? path = some text
    rw [h path]
  have heq : f.conditions = g.conditions :=
    hperm.eq_of_pairwise (fun a b _ _ hab hba => absurd (String.lt_trans hab hba)
      (String.lt_irrefl a.1)) f.ascending g.ascending
  cases f
  cases g
  cases heq
  rfl

/-- Gives the paths of conditions their texts, one after the other. -/
def insertAll (l new : Entries String) : Entries String :=
  new.foldl (fun l e => insertSorted e.1 e.2 l) l

theorem ascending_insertAll {l new : Entries String} (h : Ascending l) :
    Ascending (insertAll l new) := by
  induction new generalizing l with
  | nil => exact h
  | cons e new ih => exact ih (ascending_insertSorted e.1 e.2 h)

/-- The conditions of two filters, of which `g` decides where both have one. -/
def override (f g : Filter) : Filter :=
  ⟨insertAll f.conditions g.conditions, ascending_insertAll f.ascending⟩

theorem lookup_insertAll {l new : Entries String} (h : Ascending new) (path : String) :
    Entries.lookup path (insertAll l new) =
      (Entries.lookup path new).or (Entries.lookup path l) := by
  induction new generalizing l with
  | nil => rfl
  | cons e new ih =>
      obtain ⟨first, rest⟩ := List.pairwise_cons.mp h
      have hstep := ih (l := insertSorted e.1 e.2 l) rest
      rw [lookup_insertSorted] at hstep
      rw [insertAll, List.foldl_cons, ← insertAll, hstep, Entries.lookup]
      by_cases hpath : e.1 = path
      · -- The path of the first condition is not among the others, which are greater.
        have hnone : Entries.lookup path new = none := by
          rw [Option.eq_none_iff_forall_ne_some]
          intro text htext
          have hlt := first _ ((lookup_eq_some_iff rest).mp htext)
          exact String.lt_irrefl path (hpath ▸ hlt)
        simp [hpath, hnone]
      · simp [hpath]

@[simp] theorem get?_override (f g : Filter) (path : String) :
    (f.override g).get? path = (g.get? path).or (f.get? path) :=
  lookup_insertAll g.ascending path

theorem foldl_require_eq_override (l : List (String × String)) (f : Filter) :
    l.foldl (fun f e => f.require e.1 e.2) f = f.override (ofPairs l) := by
  induction l generalizing f with
  | nil => rfl
  | cons e l ih =>
      have hcons : ofPairs (e :: l) = (empty.require e.1 e.2).override (ofPairs l) := ih _
      rw [List.foldl_cons, ih, hcons]
      refine ext_get? fun path => ?_
      have hempty : empty.get? path = none := rfl
      by_cases hpath : Series.pathOfKey e.1 = path <;> simp [hpath, hempty]

theorem ofPairs_append (l l' : List (String × String)) :
    ofPairs (l ++ l') = (ofPairs l).override (ofPairs l') := by
  rw [ofPairs, List.foldl_append]
  exact foldl_require_eq_override l' (ofPairs l)

section Apart

/-- No path has a condition in both filters. -/
def Apart (f g : Filter) : Prop :=
  ∀ path, f.get? path = none ∨ g.get? path = none

variable {f g : Filter} (h : f.Apart g)
include h

theorem override_comm : g.override f = f.override g := by
  refine ext_get? fun path => ?_
  rcases h path with hnone | hnone <;> simp [hnone]

theorem matchesDocument_override (d : Document) :
    (f.override g).matchesDocument d = (f.matchesDocument d && g.matchesDocument d) := by
  rw [Bool.eq_iff_iff, Bool.and_eq_true]
  simp only [matchesDocument_iff, get?_override]
  constructor
  · intro hboth
    refine ⟨fun path text htext => hboth path text ?_, fun path text htext => ?_⟩
    · rcases h path with hnone | hnone
      · simp [hnone] at htext
      · simpa [hnone] using htext
    · exact hboth path text (by simp [htext])
  · rintro ⟨hf, hg⟩ path text htext
    rcases Option.or_eq_some_iff.mp htext with htext | ⟨-, htext⟩
    · exact hg path text htext
    · exact hf path text htext

end Apart

theorem parse_of_pairs {text : String} {pairs : List (String × String)}
    (h : Query.pairs text = .ok pairs) : parse text = .ok (ofPairs pairs) := by
  rw [parse, h]

theorem hasKey_of_get? {text path value : String} {f : Filter} (h : parse text = .ok f)
    (hget : f.get? path = some value) :
    ∃ key, Series.pathOfKey key = path ∧ Query.HasKey text key := by
  obtain ⟨pairs, hpairs, rfl⟩ := Submission.pairs_of_parse h
  obtain ⟨key, hkey, before, after, rfl, -⟩ := get?_ofPairs.mp hget
  exact ⟨key, hkey, _, hpairs, by simp⟩

theorem apart_of_parse {q₁ q₂ : String} {f₁ f₂ : Filter} (h₁ : parse q₁ = .ok f₁)
    (h₂ : parse q₂ = .ok f₂)
    (hkeys : ∀ key, Query.HasKey q₁ key → ¬Query.HasKey q₂ key) : f₁.Apart f₂ := by
  intro path
  cases hf₁ : f₁.get? path with
  | none => exact Or.inl rfl
  | some v₁ =>
      right
      cases hf₂ : f₂.get? path with
      | none => rfl
      | some v₂ =>
          obtain ⟨key, hkey, hhas⟩ := hasKey_of_get? h₁ hf₁
          obtain ⟨key', hkey', hhas'⟩ := hasKey_of_get? h₂ hf₂
          obtain rfl := Series.pathOfKey_injective (hkey.trans hkey'.symm)
          exact absurd hhas' (hkeys key hhas)

/-- The filter of two texts is that of the first one, overridden by that of the second one.
An error of the second text is the error of both. -/
theorem parse_append {q₁ w : String} {f₁ : Filter} (h₁ : parse q₁ = .ok f₁) (hw : w ≠ "")
    (hblank : Text.isBlankText w = true) (q₂ : String) :
    parse (q₁ ++ w ++ q₂) = f₁.override <$> parse q₂ := by
  obtain ⟨pairs₁, hpairs₁, rfl⟩ := Submission.pairs_of_parse h₁
  have happend := Query.pairs_append hpairs₁ hw hblank q₂
  cases hpairs₂ : Query.pairs q₂ with
  | error e =>
      rw [hpairs₂] at happend
      simp only [parse, hpairs₂, happend]
      rfl
  | ok pairs₂ =>
      rw [hpairs₂] at happend
      rw [parse_of_pairs happend, parse_of_pairs hpairs₂, ofPairs_append]
      rfl

theorem matching_override {f g : Filter} (h : f.Apart g) (s : Store) :
    s.matching (f.override g) = (s.matching f).filter g.matchesDocument := by
  rw [Store.matching, Store.matching, List.filter_filter]
  refine List.filter_congr fun d _ => ?_
  rw [matchesDocument_override h, Bool.and_comm]

/-- **Two query texts with blanks between them ask for what both ask for.**  If the first text
parses, an error of the second one is the error of both.  Otherwise the second text overrides
the first one.  Without a key in common the order of the texts does not matter, a document
matches if it matches both, and the documents found are those found for both, in the order of
the store. -/
theorem parse_joined {q₁ w : String} {f₁ : Filter} (h₁ : parse q₁ = .ok f₁) (hw : w ≠ "")
    (hblank : Text.isBlankText w = true) (q₂ : String) :
    (∀ e, parse q₂ = .error e → parse (q₁ ++ w ++ q₂) = .error e) ∧
    ∀ f₂, parse q₂ = .ok f₂ → ∃ f, parse (q₁ ++ w ++ q₂) = .ok f ∧
      (∀ path, f.get? path = (f₂.get? path).or (f₁.get? path)) ∧
      ((∀ key, Query.HasKey q₁ key → ¬Query.HasKey q₂ key) →
        parse (q₂ ++ w ++ q₁) = .ok f ∧
        (∀ d, f.matchesDocument d = true ↔
          f₁.matchesDocument d = true ∧ f₂.matchesDocument d = true) ∧
        ∀ s : Store, ∃ found,
          s.find f .unlimited = ⟨found, found.length⟩ ∧ s.count f = found.length ∧
          found = (s.find f₁ .unlimited).documents.filter f₂.matchesDocument ∧
          (∀ d, d ∈ found ↔ d ∈ (s.find f₁ .unlimited).documents ∧
            d ∈ (s.find f₂ .unlimited).documents) ∧
          found.Sublist s.documents.toList) := by
  refine ⟨fun e he => ?_, fun f₂ h₂ => ⟨f₁.override f₂, ?_, get?_override f₁ f₂, fun hkeys => ?_⟩⟩
  · rw [parse_append h₁ hw hblank, he]
    rfl
  · rw [parse_append h₁ hw hblank, h₂]
    rfl
  · have hapart := apart_of_parse h₁ h₂ hkeys
    refine ⟨?_, fun d => ?_, fun s => ⟨s.matching (f₁.override f₂), rfl, rfl, ?_, fun d => ?_, ?_⟩⟩
    · rw [parse_append h₂ hw hblank, h₁, ← override_comm hapart]
      rfl
    · rw [matchesDocument_override hapart, Bool.and_eq_true]
    · exact matching_override hapart s
    · simp only [Store.find, Limit.cap?, Store.matching, List.mem_filter,
        matchesDocument_override hapart, Bool.and_eq_true]
      constructor
      · rintro ⟨hd, h₁', h₂'⟩
        exact ⟨⟨hd, h₁'⟩, hd, h₂'⟩
      · rintro ⟨⟨hd, h₁'⟩, -, h₂'⟩
        exact ⟨hd, h₁', h₂'⟩
    · exact List.filter_sublist

/-- A quoted name before an identity and a quoted note. -/
theorem parse_joined_name_uid :
    parse "name=\"a b\"" = .ok (ofPairs [("name", "a b")]) ∧ " \t" ≠ "" ∧
      Text.isBlankText " \t" = true ∧
      parse "uid=x1 note='c d'" = .ok (ofPairs [("uid", "x1"), ("note", "c d")]) ∧
      (∀ key, Query.HasKey "name=\"a b\"" key → ¬Query.HasKey "uid=x1 note='c d'" key) ∧
      ∃ f, parse ("name=\"a b\"" ++ " \t" ++ "uid=x1 note='c d'") = .ok f ∧
        parse ("uid=x1 note='c d'" ++ " \t" ++ "name=\"a b\"") = .ok f ∧
        f.get? "_id" = some "x1" ∧ f.get? "fields.name" = some "a b" ∧
        ∀ d, f.matchesDocument d = true ↔
          (ofPairs [("name", "a b")]).matchesDocument d = true ∧
            (ofPairs [("uid", "x1"), ("note", "c d")]).matchesDocument d = true := by
  have hpairs₁ : Query.pairs "name=\"a b\"" = .ok [("name", "a b")] := rfl
  have hpairs₂ : Query.pairs "uid=x1 note='c d'" = .ok [("uid", "x1"), ("note", "c d")] := rfl
  have h₁ := parse_of_pairs hpairs₁
  have h₂ := parse_of_pairs hpairs₂
  have hkeys : ∀ key, Query.HasKey "name=\"a b\"" key →
      ¬Query.HasKey "uid=x1 note='c d'" key := by
    rintro key ⟨l, hl, hkey⟩ ⟨l', hl', hkey'⟩
    cases hpairs₁.symm.trans hl
    cases hpairs₂.symm.trans hl'
    obtain rfl : key = "name" := by simpa using hkey
    simp at hkey'
  have hw : " \t" ≠ "" := by decide
  have hblank : Text.isBlankText " \t" = true := by decide
  obtain ⟨f, hf, hget, hdisjoint⟩ := (parse_joined h₁ hw hblank "uid=x1 note='c d'").2 _ h₂
  obtain ⟨hswapped, hmatches, -⟩ := hdisjoint hkeys
  exact ⟨h₁, hw, hblank, h₂, hkeys, f, hf, hswapped, hget _, hget _, hmatches⟩

end Filter
end SeriesCatalog
