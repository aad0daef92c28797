import SeriesCatalog.Proofs.FirstOccurrences
import SeriesCatalog.Proofs.Query.Concatenation

/-!
# Writing a query text

A key with a value is written as a token in several ways: each of the two as it is or between
quotes of a kind that it does not hold, with an equals sign between them.  A query text is a
list of such tokens, with blanks around and between them.

* `Query.Spells`, `Query.SpellsPair`: the ways to write a text, and a key with a value.
* `Query.Renders`: the query texts of a list of keys with values.

Results:
* `Query.scan_spelled`: behind a token the scan has kept its key and its value.
* `Query.pairs_of_renders`: the keys and values are read back, in order.
* `Filter.paths_ofPairs`: a filter has one condition for each different key.
* `Filter.parse_rendered`: every query text of keys and values parses to their filter.
-/

namespace SeriesCatalog
namespace Query

/-- The ways to write a text: as it is, if it is free of blanks and does not begin with a quote,
or between two quotes of a kind that it does not hold. -/
inductive Spells (text : String) : List Char → Prop
  | bare (hblank : ∀ c ∈ text.toList, Text.isBlank c = false)
      (hfirst : ∀ c ∈ text.toList.head?, isQuote c = false) : Spells text text.toList
  | enclosed {q : Char} (hq : isQuote q = true) (hnot : q ∉ text.toList) :
      Spells text (q :: text.toList ++ [q])

/-- The ways to write a key, which is not empty and holds no equals sign, with a value. -/
inductive SpellsPair : String × String → List Char → Prop
  | token {key value : String} {k v : List Char} (hkey : key ≠ "")
      (hequals : '=' ∉ key.toList) (hk : Spells key k) (hv : Spells value v) :
      SpellsPair (key, value) (k ++ '=' :: v)

/-- The query texts of a list of keys with values: a token for each of them, in order, with at
least one blank between two tokens and any blanks before and behind them. -/
inductive Renders : List (String × String) → List Char → Prop
  | nil : Renders [] []
  | blank {c : Char} {l : List Char} {pairs : List (String × String)}
      (hc : Text.isBlank c = true) (h : Renders pairs l) : Renders pairs (c :: l)
  | last {e : String × String} {t : List Char} (ht : SpellsPair e t) : Renders [e] t
  | token {e : String × String} {t l : List Char} {pairs : List (String × String)} {c : Char}
      (ht : SpellsPair e t) (hc : Text.isBlank c = true) (h : Renders pairs l) :
      Renders (e :: pairs) (t ++ c :: l)

section Scanning

variable (rest : List Char)

theorem scan_quoted_run {q : Char} {word : List Char} (hnot : q ∉ word) (kept : List Char) :
    scan (.quoted q kept) (word ++ q :: rest) = scan (.plain (word.reverse ++ kept)) rest := by
  induction word generalizing kept with
  | nil => simp [scan]
  | cons c word ih =>
      have hc : c ≠ q := (List.ne_of_not_mem_cons hnot).symm
      rw [List.cons_append, scan, if_neg hc, ih (List.not_mem_of_not_mem_cons hnot)]
      simp

/-- A character in a token, outside quotes, is kept if it is no blank and no quote may open a
run. -/
theorem scan_plain_cons {c : Char} {kept : List Char} (hb : Text.isBlank c = false)
    (hopen : isQuote c = false ∨ opensRun kept = false) :
    scan (.plain kept) (c :: rest) = scan (.plain (c :: kept)) rest := by
  refine scan_plain_keep rest ?_ hb
  rcases hopen with h | h <;> simp [h]

/-- A word without blanks is kept if no quote in it may open a run: an equals sign has been
kept, or there is none in the word. -/
theorem scan_plain_word {word kept : List Char} (hblank : ∀ c ∈ word, Text.isBlank c = false)
    (hequals : '=' ∈ kept ∨ '=' ∉ word)
    (hfirst : (∀ c ∈ word.head?, isQuote c = false) ∨ opensRun kept = false) :
    scan (.plain kept) (word ++ rest) = scan (.plain (word.reverse ++ kept)) rest := by
  induction word generalizing kept with
  | nil => rfl
  | cons c word ih =>
      -- Behind `c` a quote opens no run, since the text kept does not end with its only `=`.
      have hclosed : opensRun (c :: kept) = false := by
        rw [Bool.eq_false_iff, ne_eq, opensRun_cons]
        rintro ⟨rfl, hkept⟩
        rcases hequals with hmem | hnot
        · exact hkept hmem
        · exact hnot List.mem_cons_self
      have hequals' : '=' ∈ c :: kept ∨ '=' ∉ word :=
        hequals.imp (List.mem_cons_of_mem c) fun hnot hmem => hnot (List.mem_cons_of_mem c hmem)
      have hc : isQuote c = false ∨ opensRun kept = false := hfirst.imp_left fun h => h c rfl
      rw [List.cons_append, scan_plain_cons _ (hblank c List.mem_cons_self) hc,
        ih (fun b hb => hblank b (List.mem_cons_of_mem c hb)) hequals' (Or.inr hclosed)]
      simp

theorem scan_key {key : String} {k : List Char} (hkey : key ≠ "")
    (hequals : '=' ∉ key.toList) (hk : Spells key k) :
    scan .between (k ++ rest) = scan (.plain key.toList.reverse) rest := by
  cases hk with
  | bare hblank hfirst =>
      obtain ⟨c, word, hword⟩ : ∃ c word, key.toList = c :: word :=
        List.exists_cons_of_ne_nil (mt String.toList_eq_nil_iff.mp hkey)
      rw [hword] at hblank hfirst hequals ⊢
      have hopen : opensRun [c] = false := by
        simp [opensRun, (List.ne_of_not_mem_cons hequals).symm]
      have hnot : '=' ∉ word := List.not_mem_of_not_mem_cons hequals
      have hq : isQuote c = false := hfirst c rfl
      have hb : Text.isBlank c = false := hblank c List.mem_cons_self
      have hbegin : scan .between (c :: (word ++ rest)) = scan (.plain [c]) (word ++ rest) := by
        simp [scan, hq, hb]
      rw [List.cons_append, hbegin,
        scan_plain_word rest (fun b hb => hblank b (List.mem_cons_of_mem c hb)) (Or.inr hnot)
          (Or.inr hopen)]
      simp
  | @enclosed q hq hnot =>
      have hopen : scan .between (q :: (key.toList ++ q :: rest)) =
          scan (.quoted q []) (key.toList ++ q :: rest) := by
        simp [scan, hq]
      rw [List.cons_append, List.cons_append, List.append_assoc, List.singleton_append, hopen,
        scan_quoted_run rest hnot, List.append_nil]

/-- Behind a value the scan has kept the value, after the first equals sign of the token. -/
theorem scan_value {value : String} {v kept : List Char} (hequals : '=' ∉ kept)
    (hv : Spells value v) :
    scan (.plain ('=' :: kept)) (v ++ rest) =
      scan (.plain (value.toList.reverse ++ '=' :: kept)) rest := by
  cases hv with
  | bare hblank hfirst =>
      exact scan_plain_word rest hblank (Or.inl List.mem_cons_self) (Or.inl hfirst)
  | @enclosed q hq hnot =>
      have hopen : opensRun ('=' :: kept) = true := (opensRun_cons '=' kept).mpr ⟨rfl, hequals⟩
      rw [List.cons_append, List.cons_append, List.append_assoc, List.singleton_append,
        scan_plain_open _ hq hopen, scan_quoted_run rest hnot]

/-- Behind a token the scan has kept its key, an equals sign and its value. -/
theorem scan_spelled {e : String × String} {t : List Char} (ht : SpellsPair e t) :
    scan .between (t ++ rest) = scan (.plain (e.1.toList ++ '=' :: e.2.toList).reverse) rest := by
  cases ht with
  | @token key value k v hkey hequals hk hv =>
      have hequals' : '=' ∉ key.toList.reverse := by simpa using hequals
      rw [List.append_assoc, List.cons_append, scan_key _ hkey hequals hk,
        scan_plain_cons _ (by decide) (Or.inl (by decide)), scan_value _ hequals' hv]
      simp

end Scanning

theorem splitEquals_append {key : List Char} (hequals : '=' ∉ key) (value : List Char) :
    splitEquals (key ++ '=' :: value) = some (key, value) := by
  induction key with
  | nil => simp [splitEquals]
  | cons c key ih =>
      have hc : c ≠ '=' := (List.ne_of_not_mem_cons hequals).symm
      rw [List.cons_append, splitEquals, if_neg hc, ih (List.not_mem_of_not_mem_cons hequals)]

theorem pairOfToken_of_splitEquals {token : String} {key value : List Char}
    (h : splitEquals token.toList = some (key, value)) (hkey : key ≠ []) :
    pairOfToken token = .ok (String.ofList key, String.ofList value) := by
  rw [pairOfToken, h]
  cases key with
  | nil => exact absurd rfl hkey
  | cons c key => rfl

theorem pairOfToken_spelled {e : String × String} {t : List Char} (ht : SpellsPair e t) :
    pairOfToken (tokenText (e.1.toList ++ '=' :: e.2.toList).reverse) = .ok e := by
  cases ht with
  | @token key value k v hkey hequals hk hv =>
      have hsplit := splitEquals_append hequals value.toList
      have hne : key.toList ≠ [] := mt String.toList_eq_nil_iff.mp hkey
      rw [tokenText, List.reverse_reverse,
        pairOfToken_of_splitEquals (by rw [String.toList_ofList]; exact hsplit) hne]
      simp

/-- The tokens of a rendering give back the keys and values.  After each token the scan is
between two tokens, so that the rest is read as a text of its own. -/
theorem scan_of_renders {pairs : List (String × String)} {l : List Char} (h : Renders pairs l) :
    ∃ tokens, scan .between l = .ok tokens ∧ pairsOfTokens tokens = .ok pairs := by
  induction h with
  | nil => exact ⟨[], rfl, rfl⟩
  | blank hc _ ih =>
      rw [scan_between_blank hc]
      exact ih
  | @last e t ht =>
      have hend := scan_spelled [] ht
      rw [List.append_nil] at hend
      refine ⟨_, hend, ?_⟩
      simp only [pairsOfTokens, pairOfToken_spelled ht]
      rfl
  | @token e t l pairs c ht hc _ ih =>
      obtain ⟨tokens, hl, hpairs⟩ := ih
      refine ⟨_ :: tokens, by rw [scan_spelled _ ht, scan_plain_blank l hc, hl]; rfl, ?_⟩
      simp only [pairsOfTokens, pairOfToken_spelled ht, hpairs]
      rfl

/-- **The keys and values of a query text are those that it was written from.** -/
theorem pairs_of_renders {pairs : List (String × String)} {text : String}
    (h : Renders pairs text.toList) : Query.pairs text = .ok pairs := by
  obtain ⟨tokens, htokens, hpairs⟩ := scan_of_renders h
  have htext : Query.tokens text = .ok tokens := htokens
  rw [Query.pairs, htext]
  exact hpairs

end Query

theorem exists_lastGiven {pairs : List (String × String)} {key : String}
    (h : key ∈ pairs.map Prod.fst) : ∃ text, LastGiven pairs key text := by
  induction pairs with
  | nil => cases h
  | cons e pairs ih =>
      by_cases hlater : key ∈ pairs.map Prod.fst
      · obtain ⟨text, before, after, rfl, hafter⟩ := ih hlater
        exact ⟨text, e :: before, after, rfl, hafter⟩
      · obtain rfl : key = e.1 := by simpa [hlater] using h
        refine ⟨e.2, [], pairs, rfl, fun e' he' hkey => hlater ?_⟩
        exact hkey ▸ List.mem_map_of_mem he'

namespace Filter

theorem mem_paths_iff {f : Filter} {path : String} :
    path ∈ f.conditions.map Prod.fst ↔ ∃ text, f.get? path = some text := by
  simp only [get?, lookup_eq_some_iff f.ascending, List.mem_map, Prod.exists]
  constructor
  · rintro ⟨path, text, hmem, rfl⟩
    exact ⟨text, hmem⟩
  · rintro ⟨text, hmem⟩
    exact ⟨path, text, hmem, rfl⟩

/-- **A filter has one condition for each different key.** -/
theorem paths_ofPairs (pairs : List (String × String)) :
    ((ofPairs pairs).conditions.map Prod.fst).Perm
      ((pairs.map Prod.fst).eraseDups.map Series.pathOfKey) := by
  have hnodup : ((pairs.map Prod.fst).eraseDups.map Series.pathOfKey).Nodup := by
    rw [List.Nodup, List.pairwise_map]
    refine (FirstOccurrences.nodup_eraseDups _).imp ?_
    intro a b hne heq
    exact hne (Series.pathOfKey_injective heq)
  rw [List.perm_ext_iff_of_nodup (nodup_paths _) hnodup]
  intro path
  rw [mem_paths_iff, List.mem_map]
  constructor
  · rintro ⟨text, htext⟩
    obtain ⟨key, hkey, before, after, rfl, -⟩ := get?_ofPairs.mp htext
    exact ⟨key, by simp, hkey⟩
  · rintro ⟨key, hmem, hkey⟩
    obtain ⟨text, hlast⟩ := exists_lastGiven (List.mem_eraseDups.mp hmem)
    exact ⟨text, get?_ofPairs.mpr ⟨key, hkey, hlast⟩⟩

/-- **Every query text of keys and values parses to their filter.**  The filter has one
condition for each different key, which asks for the last text given for the key, at the
identity for `uid` and among the fields for every other key. -/
theorem parse_rendered {pairs : List (String × String)} {text : String}
    (h : Query.Renders pairs text.toList) :
    parse text = .ok (ofPairs pairs) ∧
      ((ofPairs pairs).conditions.map Prod.fst).Perm
        ((pairs.map Prod.fst).eraseDups.map Series.pathOfKey) ∧
      (∀ key value, LastGiven pairs key value →
        (ofPairs pairs).get? (Series.pathOfKey key) = some value) ∧
      Series.pathOfKey "uid" = "_id" ∧
      ∀ key, key ≠ "uid" → Series.pathOfKey key = "fields." ++ key := by
  refine ⟨parse_of_pairs (Query.pairs_of_renders h), paths_ofPairs pairs, fun key value hlast => ?_,
    rfl, fun key hkey => ?_⟩
  · exact get?_ofPairs.mpr ⟨key, rfl, hlast⟩
  · simp [Series.pathOfKey, Series.identityWord, Series.fieldPath, Series.fieldsKey, hkey]

/-- A key given twice, a key in quotes and a value that begins with an equals sign. -/
theorem parse_rendered_uid_twice :
    Query.Renders [("uid", "a b"), ("my key", "it's"), ("x", "=5\""), ("uid", "")]
        " uid=\"a b\"  'my key'=\"it's\"\tx==5\" uid=``".toList ∧
      parse " uid=\"a b\"  'my key'=\"it's\"\tx==5\" uid=``" =
        .ok (ofPairs [("uid", "a b"), ("my key", "it's"), ("x", "=5\""), ("uid", "")]) ∧
      ∀ f, parse " uid=\"a b\"  'my key'=\"it's\"\tx==5\" uid=``" = .ok f →
        f.get? "_id" = some "" ∧ f.get? "fields.my key" = some "it's" ∧
          f.get? "fields.x" = some "=5\"" := by
  have huid : Query.Spells "uid" "uid".toList :=
    .bare (by simp [Text.isBlank, Text.blankRanges]) (by simp [Query.isQuote])
  have hkey : Query.Spells "x" "x".toList :=
    .bare (by simp [Text.isBlank, Text.blankRanges]) (by simp [Query.isQuote])
  have hvalue : Query.Spells "=5\"" "=5\"".toList :=
    .bare (by simp [Text.isBlank, Text.blankRanges]) (by simp [Query.isQuote])
  have hx : Query.SpellsPair ("x", "=5\"") "x==5\"".toList :=
    .token (by decide) (by decide) hkey hvalue
  have hfirst : Query.SpellsPair ("uid", "a b") "uid=\"a b\"".toList :=
    .token (by decide) (by decide) huid (.enclosed (q := '"') rfl (by decide))
  have hquoted : Query.SpellsPair ("my key", "it's") "'my key'=\"it's\"".toList :=
    .token (by decide) (by decide) (.enclosed (q := '\'') rfl (by decide))
      (.enclosed (q := '"') rfl (by decide))
  have hlast : Query.SpellsPair ("uid", "") "uid=``".toList :=
    .token (by decide) (by decide) huid (.enclosed (q := '`') rfl (by decide))
  have h : Query.Renders [("uid", "a b"), ("my key", "it's"), ("x", "=5\""), ("uid", "")]
      " uid=\"a b\"  'my key'=\"it's\"\tx==5\" uid=``".toList :=
    .blank rfl (.token hfirst rfl (.blank rfl (.token hquoted rfl (.token hx rfl (.last hlast)))))
  obtain ⟨hparse, -, hvalues, -⟩ := parse_rendered h
  refine ⟨h, hparse, fun f hf => ?_⟩
  cases hparse.symm.trans hf
  exact ⟨hvalues "uid" "" ⟨[_, _, _], [], rfl, by simp⟩,
    hvalues "my key" "it's" ⟨[("uid", "a b")], _, rfl, by simp⟩,
    hvalues "x" "=5\"" ⟨[("uid", "a b"), ("my key", "it's")], _, rfl, by simp⟩⟩

end Filter
end SeriesCatalog
