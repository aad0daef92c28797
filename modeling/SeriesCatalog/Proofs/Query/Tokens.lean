import SeriesCatalog.Proofs.Success
import SeriesCatalog.Query.Parse

/-!
# Where the characters of tokens come from

Scanning keeps characters and drops quotes and blanks, but makes up none.  So what an error shows
of a query text is made of characters of that text.

* `Scan.held`: the characters that a scan has kept of the token begun.
* `kept`: the characters that scanning keeps.
* `Malformed.part`: what an error shows of a query text.

Results:
* `mem_of_mem_kept`: no other characters are kept than those of the text.
* `mem_of_mem_part`: no other characters are shown.
-/

namespace SeriesCatalog
namespace Query

/-- The characters that a scan has kept of the token begun. -/
def Scan.held : Scan → List Char
  | between => []
  | plain kept => kept
  | quoted _ kept => kept

/-- A scan is inside quotes only behind a quote. -/
def Scan.Opened : Scan → Prop
  | quoted q _ => isQuote q = true
  | _ => True

/-- The characters of the tokens, or of the run that is left open. -/
def kept : Except OpenRun (List String) → List Char
  | .ok ts => ts.flatMap String.toList
  | .error r => r.kept.toList

variable {s : Scan} {l : List Char} {c : Char}

theorem toList_tokenText (held : List Char) : (tokenText held).toList = held.reverse := by
  simp [tokenText]

theorem mem_kept_cons {t : String} {x : Except OpenRun (List String)}
    (h : c ∈ kept ((t :: ·) <$> x)) : c ∈ t.toList ∨ c ∈ kept x := by
  cases x with
  | error r => exact .inr h
  | ok ts =>
      have hkept : kept ((t :: ·) <$> .ok ts) = t.toList ++ kept (.ok ts) := rfl
      exact List.mem_append.mp (hkept ▸ h)

theorem mem_of_step {s' : Scan} {d : Char} (hheld : ∀ x ∈ s'.held, x = d ∨ x ∈ s.held)
    (h : c ∈ s'.held ∨ c ∈ l) : c ∈ s.held ∨ c ∈ d :: l := by
  rcases h with h | h
  · exact (hheld c h).elim (fun heq => .inr (heq ▸ List.mem_cons_self)) .inl
  · exact .inr (List.mem_cons_of_mem d h)

/-- **No other characters are kept** than those held so far and those of the text. -/
theorem mem_of_mem_kept (h : c ∈ kept (scan s l)) : c ∈ s.held ∨ c ∈ l := by
  fun_induction scan s l with
  | case1 => cases h
  | case2 held =>
      simp only [kept, List.flatMap_cons, List.flatMap_nil, List.append_nil, toList_tokenText,
        List.mem_reverse] at h
      exact .inl h
  | case3 q held =>
      simp only [kept, toList_tokenText, List.mem_reverse] at h
      exact .inl h
  | case8 held d l _ _ ih =>
      -- The token ends here, so that nothing is held of it any more.
      rcases mem_kept_cons h with h | h
      · rw [toList_tokenText, List.mem_reverse] at h
        exact .inl h
      · exact mem_of_step (by simp [Scan.held]) (ih h)
  | _ =>
      rename_i ih
      exact mem_of_step (by simp +contextual [Scan.held]) (ih h)

/-- A run that is left open was opened by a quote. -/
theorem isQuote_of_scan {r : OpenRun} (hs : s.Opened) (h : scan s l = .error r) :
    isQuote r.quote = true := by
  fun_induction scan s l with
  | case1 => cases h
  | case2 => cases h
  | case3 q held =>
      cases h
      exact hs
  | case4 d l hquote ih => exact ih hquote h
  | case7 held d l hopens ih => exact ih (Bool.and_eq_true_iff.mp hopens).1 h
  | case8 held d l _ _ ih =>
      cases hrest : scan .between l with
      | ok ts =>
          rw [hrest] at h
          cases h
      | error r' =>
          rw [hrest] at h
          cases h
          exact ih trivial hrest
  | case11 q held d l _ ih => exact ih hs h
  | _ =>
      rename_i ih
      exact ih trivial h

/-! ## What an error shows -/

/-- What an error shows of a query text: a run that is left open, or a token. -/
def Malformed.part : Malformed → String
  | openRun r => r.kept
  | noEquals t => t
  | noKey t => t

/-- A token that is no pair is shown itself. -/
theorem exists_token_of_pairsOfTokens {ts : List String} {m : Malformed}
    (h : pairsOfTokens ts = .error m) : ∃ t ∈ ts, m = .noEquals t ∨ m = .noKey t := by
  induction ts with
  | nil => cases h
  | cons t ts ih =>
      unfold pairsOfTokens at h
      split at h
      · rename_i e htoken
        cases h
        refine ⟨t, List.mem_cons_self, ?_⟩
        unfold pairOfToken at htoken
        split at htoken <;> cases htoken
        · exact .inl rfl
        · exact .inr rfl
      · cases hrest : pairsOfTokens ts with
        | ok l =>
            rw [hrest] at h
            cases h
        | error m' =>
            rw [hrest] at h
            cases h
            obtain ⟨u, hu, hshown⟩ := ih hrest
            exact ⟨u, List.mem_cons_of_mem t hu, hshown⟩

/-- What is wrong with a query text: a run is left open, which a quote has opened, or a token is
no pair. -/
theorem shown_of_pairs {text : String} {m : Malformed} (h : pairs text = .error m) :
    (∃ r, tokens text = .error r ∧ isQuote r.quote = true ∧ m = .openRun r) ∨
      ∃ ts t, tokens text = .ok ts ∧ t ∈ ts ∧ (m = .noEquals t ∨ m = .noKey t) := by
  unfold pairs at h
  split at h
  · rename_i r htokens
    cases h
    exact .inl ⟨r, htokens, isQuote_of_scan (s := .between) trivial htokens, rfl⟩
  · rename_i ts htokens
    obtain ⟨t, ht, hshown⟩ := exists_token_of_pairsOfTokens h
    exact .inr ⟨ts, t, htokens, ht, hshown⟩

/-- **No other characters are shown** than those of the query text. -/
theorem mem_of_mem_part {text : String} {m : Malformed} (h : pairs text = .error m)
    (hc : c ∈ m.part.toList) : c ∈ text.toList := by
  have hkept : c ∈ kept (tokens text) := by
    rcases shown_of_pairs h with ⟨r, htokens, -, rfl⟩ | ⟨ts, t, htokens, ht, hshown⟩
    · rw [htokens]
      exact hc
    · rw [htokens]
      rcases hshown with rfl | rfl <;> exact List.mem_flatMap.mpr ⟨t, ht, hc⟩
  exact (mem_of_mem_kept hkept).resolve_left List.not_mem_nil

end Query
end SeriesCatalog
