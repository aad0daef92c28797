import SeriesCatalog.Proofs.Success
import SeriesCatalog.Query.Token

/-!
# Quotes by their places in a text

The scan of a query text decides from the characters it has kept whether a quote opens a
run.  The rule can also be read off the text itself: a quote opens a run where it is the
first character of its token, and where the character before it is the first equals sign
of its token.  Every other quote outside a run is a character like any other.

Device: a reader that remembers the raw characters of its token beside those it keeps.

A quote is disputed where what has been kept of its token is empty or ends with its only
equals sign, and the raw characters of the token do not: the scan opens a run there, though by
its place the quote is an ordinary character.

Results:
* `scan_eq_read`: without a disputed quote the scan and the reader come to the same.
* `scan_ne_read`: with one, they do not come to the same tokens.
* `tokens_agree_iff_undisputed`: the condition on texts, in both directions.
-/

namespace SeriesCatalog
namespace Query

/-- What a reader is in the middle of.  The raw characters of a token and the characters
kept of it are last first. -/
inductive Reader
  | between
  /-- In a token, outside quotes. -/
  | plain (raw kept : List Char)
  /-- In a token, inside a run that ends at a quote. -/
  | quoted (quote : Char) (raw kept : List Char)
deriving DecidableEq, Repr

namespace Reader

/-- Takes one character.  The rule of `opensRun` is put to the raw characters. -/
def step : Reader → Char → Reader
  | between, c =>
      if isQuote c then quoted c [c] []
      else if Text.isBlank c then between
      else plain [c] [c]
  | plain raw kept, c =>
      if isQuote c && opensRun raw then quoted c (c :: raw) kept
      else if Text.isBlank c then between
      else plain (c :: raw) (c :: kept)
  | quoted q raw kept, c =>
      if c = q then plain (c :: raw) kept else quoted q (c :: raw) (c :: kept)

/-- The token that ends where a reader goes from its inside to the place between two
tokens. -/
def ended : Reader → Reader → List String
  | plain _ kept, between => [tokenText kept]
  | _, _ => []

/-- What the end of the text makes of a reader. -/
def finish : Reader → Except OpenRun (List String)
  | between => .ok []
  | plain _ kept => .ok [tokenText kept]
  | quoted q _ kept => .error ⟨q, tokenText kept⟩

def read : Reader → List Char → Except OpenRun (List String)
  | r, [] => r.finish
  | r, c :: l => (r.ended (r.step c) ++ ·) <$> (r.step c).read l

/-- Whether a character is a quote outside runs that opens one by what has been kept, but
not by its place. -/
def disputedAt : Reader → Char → Bool
  | plain raw kept, c => isQuote c && opensRun kept && !opensRun raw
  | _, _ => false

/-- Whether a reader comes upon a disputed quote. -/
def disputes : Reader → List Char → Bool
  | _, [] => false
  | r, c :: l => r.disputedAt c || (r.step c).disputes l

/-- The state of the scan that has kept the same characters. -/
def scanState : Reader → Scan
  | between => .between
  | plain _ kept => .plain kept
  | quoted q _ kept => .quoted q kept

/-- The raw characters of a token and those kept agree about equals signs, and a quote that
opens a run by its place also opens one by what has been kept. -/
def Sound : Reader → Prop
  | between => True
  | plain raw kept => ('=' ∈ raw ↔ '=' ∈ kept) ∧ (opensRun raw = true → opensRun kept = true)
  | quoted q raw kept => isQuote q = true ∧ ('=' ∈ raw ↔ '=' ∈ kept)

end Reader

/-- The tokens of a query text by the places of its quotes. -/
def tokensByPlace (text : String) : Except OpenRun (List String) :=
  Reader.between.read text.toList

/-- Whether a query text has a disputed quote. -/
def isDisputed (text : String) : Bool :=
  Reader.between.disputes text.toList

theorem ne_equals_of_isQuote {c : Char} (h : isQuote c = true) : c ≠ '=' := by
  rintro rfl
  exact absurd h (by decide)

theorem isBlank_of_isQuote {c : Char} (h : isQuote c = true) : Text.isBlank c = false := by
  simp only [isQuote, Bool.or_eq_true, decide_eq_true_eq] at h
  rcases h with (rfl | rfl) | rfl <;> decide

theorem isQuote_of_isBlank {c : Char} (h : Text.isBlank c = true) : isQuote c = false := by
  cases hq : isQuote c with
  | false => rfl
  | true => simp [isBlank_of_isQuote hq] at h

theorem opensRun_cons (c : Char) (l : List Char) :
    opensRun (c :: l) = true ↔ c = '=' ∧ '=' ∉ l := by
  simp [opensRun]

theorem opensRun_cons_of_isQuote {c : Char} (h : isQuote c = true) (l : List Char) :
    opensRun (c :: l) = false := by
  simp [opensRun, ne_equals_of_isQuote h]

/-- A character in a token, outside quotes, opens a run, ends the token or is kept. -/
theorem opens_or_ends_or_keeps (open? : Bool) (c : Char) :
    (isQuote c = true ∧ open? = true) ∨ Text.isBlank c = true ∨
      ((isQuote c && open?) = false ∧ Text.isBlank c = false) := by
  cases isQuote c <;> cases open? <;> cases Text.isBlank c <;> simp

section Scanning

variable {c : Char} {kept : List Char} (l : List Char)

theorem scan_plain_open (hq : isQuote c = true) (ho : opensRun kept = true) :
    scan (.plain kept) (c :: l) = scan (.quoted c kept) l := by
  simp [scan, hq, ho]

theorem scan_plain_blank (hb : Text.isBlank c = true) :
    scan (.plain kept) (c :: l) = (tokenText kept :: ·) <$> scan .between l := by
  simp [scan, isQuote_of_isBlank hb, hb]

theorem scan_plain_keep (hq : (isQuote c && opensRun kept) = false)
    (hb : Text.isBlank c = false) :
    scan (.plain kept) (c :: l) = scan (.plain (c :: kept)) l := by
  simp only [scan, hq, hb, Bool.false_eq_true, if_false]

end Scanning

namespace Reader

section Steps

variable {c : Char} {raw kept : List Char}

theorem step_plain_open (hq : isQuote c = true) (ho : opensRun raw = true) :
    (plain raw kept).step c = quoted c (c :: raw) kept := by
  simp [step, hq, ho]

theorem step_plain_blank (hb : Text.isBlank c = true) :
    (plain raw kept).step c = between := by
  simp [step, isQuote_of_isBlank hb, hb]

theorem step_plain_keep (hq : (isQuote c && opensRun raw) = false)
    (hb : Text.isBlank c = false) :
    (plain raw kept).step c = plain (c :: raw) (c :: kept) := by
  simp only [step, hq, hb, Bool.false_eq_true, if_false]

end Steps

theorem sound_step {r : Reader} (h : r.Sound) (c : Char) : (r.step c).Sound := by
  cases r with
  | between =>
      by_cases hq : isQuote c = true
      · have hc := (ne_equals_of_isQuote hq).symm
        simp [step, Sound, hq, hc]
      · by_cases hb : Text.isBlank c = true
        · simp [step, Sound, hq, hb]
        · simp [step, Sound, hq, hb]
  | plain raw kept =>
      obtain ⟨heq, _⟩ := h
      rcases opens_or_ends_or_keeps (opensRun raw) c with ⟨hq, ho⟩ | hb | ⟨hq, hb⟩
      · rw [step_plain_open hq ho]
        have hc := (ne_equals_of_isQuote hq).symm
        simp [Sound, hq, hc, heq]
      · rw [step_plain_blank hb]
        trivial
      · rw [step_plain_keep hq hb]
        simp [Sound, opensRun_cons, heq]
  | quoted q raw kept =>
      obtain ⟨hquote, heq⟩ := h
      by_cases hc : c = q
      · subst hc
        have hne := (ne_equals_of_isQuote hquote).symm
        simp [step, Sound, opensRun_cons_of_isQuote hquote, hne, heq]
      · simp [step, Sound, hc, hquote, heq]

/-- Where a character is not disputed, the scan and the reader take it alike. -/
theorem scan_cons {r : Reader} (h : r.Sound) {c : Char} (hc : r.disputedAt c = false)
    (l : List Char) :
    scan r.scanState (c :: l) =
      (r.ended (r.step c) ++ ·) <$> scan (r.step c).scanState l := by
  cases r with
  | between =>
      by_cases hq : isQuote c = true
      · simp [scanState, scan, ended, step, hq]
      · by_cases hb : Text.isBlank c = true
        · simp [scanState, scan, ended, step, hq, hb]
        · simp [scanState, scan, ended, step, hq, hb]
  | plain raw kept =>
      obtain ⟨_, hopen⟩ := h
      rcases opens_or_ends_or_keeps (opensRun raw) c with ⟨hq, ho⟩ | hb | ⟨hq, hb⟩
      · rw [step_plain_open hq ho]
        simp [scanState, ended, scan_plain_open l hq (hopen ho)]
      · rw [step_plain_blank hb]
        exact scan_plain_blank l hb
      · rw [step_plain_keep hq hb]
        have hkeep : (isQuote c && opensRun kept) = false := by
          cases hquote : isQuote c <;> simp_all [disputedAt]
        simp [scanState, ended, scan_plain_keep l hkeep hb]
  | quoted q raw kept =>
      by_cases hcq : c = q
      · simp [scanState, scan, ended, step, hcq]
      · simp [scanState, scan, ended, step, hcq]

/-- Without a disputed quote the scan and the reader come to the same. -/
theorem scan_eq_read :
    ∀ (l : List Char) {r : Reader}, r.Sound → r.disputes l = false →
      scan r.scanState l = r.read l
  | [], r, _, _ => by cases r <;> rfl
  | c :: l, r, h, hd => by
      obtain ⟨hc, hl⟩ := Bool.or_eq_false_iff.mp hd
      rw [scan_cons h hc, scan_eq_read l (sound_step h c) hl, read]

end Reader

/-- The characters of a text before its first equals sign or blank. -/
def firstPart (l : List Char) : List Char :=
  l.takeWhile fun c => c != '=' && !Text.isBlank c

theorem firstPart_cons_quote {q : Char} (h : isQuote q = true) (l : List Char) :
    firstPart (q :: l) = q :: firstPart l := by
  simp [firstPart, ne_equals_of_isQuote h, isBlank_of_isQuote h]

/-- A character that is kept adds to the first part of the token what it adds to the first
part of the text. -/
theorem length_firstPart_cons (c : Char) {w l : List Char}
    (h : (firstPart w).length ≤ (firstPart l).length) :
    (firstPart (c :: w)).length ≤ (firstPart (c :: l)).length := by
  unfold firstPart at h ⊢
  rw [List.takeWhile_cons, List.takeWhile_cons]
  split
  · simp only [List.length_cons]
    omega
  · simp

/-- A list of tokens whose first one continues the characters kept with given ones. -/
def Continues (kept w : List Char) (tokens : List String) : Prop :=
  ∃ rest, tokens = tokenText (w.reverse ++ kept) :: rest

theorem Continues.cons {c : Char} {kept w : List Char} {tokens : List String}
    (h : Continues (c :: kept) w tokens) : Continues kept (c :: w) tokens := by
  obtain ⟨rest, rfl⟩ := h
  exact ⟨rest, by simp⟩

theorem Continues.unique {kept w w' : List Char} {tokens : List String}
    (h : Continues kept w tokens) (h' : Continues kept w' tokens) : w = w' := by
  obtain ⟨rest, rfl⟩ := h
  obtain ⟨rest', he⟩ := h'
  have hlist := String.ofList_injective (List.cons.inj he).1
  simpa using hlist

/-- The scan drops quotes and nothing else before the first equals sign or blank. -/
theorem scan_continues :
    ∀ (l : List Char) (tokens : List String),
      (∀ {kept}, scan (.plain kept) l = .ok tokens →
        ∃ w, Continues kept w tokens ∧ (firstPart w).length ≤ (firstPart l).length) ∧
      (∀ {q kept}, isQuote q = true → scan (.quoted q kept) l = .ok tokens →
        ∃ w, Continues kept w tokens ∧ (firstPart w).length ≤ (firstPart l).length)
  | [], tokens => by
      refine ⟨fun h => ?_, fun _ h => ?_⟩
      · cases h
        exact ⟨[], ⟨[], rfl⟩, Nat.le_refl _⟩
      · cases h
  | c :: l, tokens => by
      obtain ⟨ihPlain, ihQuoted⟩ := scan_continues l tokens
      refine ⟨fun {kept} h => ?_, fun {q kept} hq h => ?_⟩
      · rcases opens_or_ends_or_keeps (opensRun kept) c with ⟨hc, ho⟩ | hb | ⟨hc, hb⟩
        · rw [scan_plain_open l hc ho] at h
          obtain ⟨w, hw, hle⟩ := ihQuoted hc h
          rw [firstPart_cons_quote hc]
          exact ⟨w, hw, Nat.le_succ_of_le hle⟩
        · rw [scan_plain_blank l hb] at h
          obtain ⟨rest, _, rfl⟩ := ok_of_map_eq_ok h
          exact ⟨[], ⟨rest, rfl⟩, Nat.zero_le _⟩
        · rw [scan_plain_keep l hc hb] at h
          obtain ⟨w, hw, hle⟩ := ihPlain h
          exact ⟨c :: w, hw.cons, length_firstPart_cons c hle⟩
      · by_cases hcq : c = q
        · simp only [scan, hcq, if_true] at h
          obtain ⟨w, hw, hle⟩ := ihPlain h
          rw [hcq, firstPart_cons_quote hq]
          exact ⟨w, hw, Nat.le_succ_of_le hle⟩
        · simp only [scan, hcq, if_false] at h
          obtain ⟨w, hw, hle⟩ := ihQuoted hq h
          exact ⟨c :: w, hw.cons, length_firstPart_cons c hle⟩

/-- In a token where no quote may open a run, nothing is dropped before the first equals
sign or blank. -/
theorem read_continues :
    ∀ (l : List Char) (tokens : List String),
      (∀ {raw kept}, (Reader.plain raw kept).read l = .ok tokens →
        ∃ w, Continues kept w tokens ∧ (opensRun raw = false → firstPart w = firstPart l)) ∧
      (∀ {q raw kept}, (Reader.quoted q raw kept).read l = .ok tokens →
        ∃ w, Continues kept w tokens)
  | [], tokens => by
      refine ⟨fun h => ?_, fun h => ?_⟩
      · cases h
        exact ⟨[], ⟨[], rfl⟩, fun _ => rfl⟩
      · cases h
  | c :: l, tokens => by
      refine ⟨fun {raw kept} h => ?_, fun {q raw kept} h => ?_⟩
      · obtain ⟨rest, hrest, rfl⟩ := ok_of_map_eq_ok h
        obtain ⟨ihPlain, ihQuoted⟩ := read_continues l rest
        rcases opens_or_ends_or_keeps (opensRun raw) c with ⟨hc, ho⟩ | hb | ⟨hc, hb⟩
        · rw [Reader.step_plain_open hc ho] at hrest ⊢
          obtain ⟨w, hw⟩ := ihQuoted hrest
          exact ⟨w, hw, fun hno => absurd ho (by simp [hno])⟩
        · rw [Reader.step_plain_blank hb]
          exact ⟨[], ⟨rest, rfl⟩, fun _ => by simp [firstPart, hb]⟩
        · rw [Reader.step_plain_keep hc hb] at hrest ⊢
          obtain ⟨w, hw, hfirst⟩ := ihPlain hrest
          refine ⟨c :: w, hw.cons, fun _ => ?_⟩
          by_cases he : c = '='
          · simp [firstPart, he]
          · have hno : opensRun (c :: raw) = false := by simp [opensRun, he]
            simpa [firstPart, he, hb] using hfirst hno
      · obtain ⟨rest, hrest, rfl⟩ := ok_of_map_eq_ok h
        obtain ⟨ihPlain, ihQuoted⟩ := read_continues l rest
        by_cases hcq : c = q
        · simp only [Reader.step, hcq, if_true] at hrest ⊢
          obtain ⟨w, hw, _⟩ := ihPlain hrest
          exact ⟨w, hw⟩
        · simp only [Reader.step, hcq, if_false] at hrest ⊢
          obtain ⟨w, hw⟩ := ihQuoted hrest
          exact ⟨c :: w, hw.cons⟩

/-- Behind a disputed quote the first part of the token is shorter for the scan. -/
theorem scan_ne_read_of_disputedAt {raw kept : List Char} {c : Char}
    (hc : (Reader.plain raw kept).disputedAt c = true) (l : List Char)
    {tokens : List String} (hscan : scan (.plain kept) (c :: l) = .ok tokens) :
    (Reader.plain raw kept).read (c :: l) ≠ .ok tokens := by
  intro hread
  simp only [Reader.disputedAt, Bool.and_eq_true, Bool.not_eq_true'] at hc
  obtain ⟨⟨hquote, hopen⟩, hplace⟩ := hc
  rw [scan_plain_open l hquote hopen] at hscan
  obtain ⟨w, hw, hle⟩ := (scan_continues l _).2 hquote hscan
  obtain ⟨rest, hrest, he⟩ := ok_of_map_eq_ok hread
  have hkeep : (isQuote c && opensRun raw) = false := by simp [hplace]
  rw [Reader.step_plain_keep hkeep (isBlank_of_isQuote hquote)] at hrest he
  obtain ⟨w', hw', hfirst⟩ := (read_continues l _).1 hrest
  subst he
  have hwords : w = c :: w' := hw.unique hw'.cons
  have hno : opensRun (c :: raw) = false := opensRun_cons_of_isQuote hquote raw
  rw [hwords, firstPart_cons_quote hquote, hfirst hno, List.length_cons] at hle
  omega

/-- A text with a disputed quote does not have the same tokens for the scan and for the
reader. -/
theorem scan_ne_read :
    ∀ (l : List Char) {r : Reader}, r.Sound → r.disputes l = true →
      ∀ {tokens}, scan r.scanState l = .ok tokens → r.read l ≠ .ok tokens
  | [], r, _, hd, _, _ => by simp [Reader.disputes] at hd
  | c :: l, r, h, hd, tokens, hscan => by
      cases hc : r.disputedAt c with
      | true =>
          cases r with
          | plain raw kept => exact scan_ne_read_of_disputedAt hc l hscan
          | between => cases hc
          | quoted q raw kept => cases hc
      | false =>
          have hl : (r.step c).disputes l = true := by
            simpa [Reader.disputes, hc] using hd
          rw [Reader.scan_cons h hc] at hscan
          intro hread
          obtain ⟨rest, hrest, hsame⟩ := ok_of_map_eq_ok hscan
          obtain ⟨rest', hrest', hsame'⟩ := ok_of_map_eq_ok hread
          have heq : rest = rest' := List.append_cancel_left (hsame.trans hsame'.symm)
          exact scan_ne_read l (Reader.sound_step h c) hl hrest (heq ▸ hrest')

/-- **Where the scan and the places of the quotes agree.**  The two give the same tokens, or
both none, exactly for the texts without a disputed quote and those that both refuse.
Without a disputed quote they also refuse a text for the same run. -/
theorem tokens_agree_iff_undisputed (text : String) :
    ((tokens text).toOption = (tokensByPlace text).toOption ↔
      isDisputed text = false ∨
        ((tokens text).toOption = none ∧ (tokensByPlace text).toOption = none)) ∧
      (isDisputed text = false → tokens text = tokensByPlace text) := by
  have hsame : isDisputed text = false → tokens text = tokensByPlace text :=
    Reader.scan_eq_read text.toList (r := .between) trivial
  refine ⟨⟨fun hagree => ?_, ?_⟩, hsame⟩
  · cases hd : isDisputed text with
    | false => exact Or.inl rfl
    | true =>
        right
        cases hscan : tokens text with
        | error run => exact ⟨rfl, by rw [← hagree, hscan]; rfl⟩
        | ok l =>
            -- both succeed, so that a disputed quote makes the tokens differ
            rw [hscan] at hagree
            have hne := scan_ne_read text.toList (r := .between) trivial hd hscan
            cases hread : tokensByPlace text with
            | error run => simp [hread, Except.toOption] at hagree
            | ok l' =>
                have hl : l = l' := by simpa [hread, Except.toOption] using hagree
                exact absurd (hl ▸ hread) hne
  · rintro (hd | ⟨hscan, hread⟩)
    · rw [hsame hd]
    · rw [hscan, hread]

/-- A quote behind an empty run that stands after the first equals sign opens a second
run, though by its place it is an ordinary character. -/
theorem tokens_disagree_behind_empty_run :
    (tokens "k=\"\"'x'").toOption = some ["k=x"] ∧
      (tokensByPlace "k=\"\"'x'").toOption = some ["k='x'"] ∧
      (tokens "k=\"\"'x'").toOption ≠ (tokensByPlace "k=\"\"'x'").toOption := by
  have hscan : (tokens "k=\"\"'x'").toOption = some ["k=x"] := rfl
  have hread : (tokensByPlace "k=\"\"'x'").toOption = some ["k='x'"] := rfl
  refine ⟨hscan, hread, ?_⟩
  rw [hscan, hread]
  decide

end Query
end SeriesCatalog
