import SeriesCatalog.Proofs.Service.Wire

/-!
# The check of a submission

Each of the three members of a submission may be any JSON value, or be missing.  A submission is
accepted if all members have one of the shapes that are understood.  Otherwise the kind of the
error tells which stage is the first that fails: the shape of the query, its text, the length or
the shape of the names.  What is wrong behind that stage has no effect.

* `Submission.GivesLength`: the ways to give a length; `Submission.CarriesQuery` and
  `Submission.GivesNames` have those to give a query text and names.
* `Length.Means`: what a directive asks for in terms of length.
* `Submission.Acceptable`, `Submission.AsksFor`, `Submission.FailsFirst`: what can be accepted,
  which request it comes to, and the kind of the first stage that fails.

Results:
* `Submission.directive_eq_ok_iff`, `Submission.specifiers_eq_ok_iff` and others: which members
  pass a stage.
* `Submission.check_by_stages`: the check accepts what is acceptable, and refuses everything else
  by its first stage that fails.
-/

namespace SeriesCatalog

/-- A stage that passes on some values only and has one kind of error fails by that kind. -/
theorem exists_kind_iff {α : Type} {stage : Except QueryError α} {Passes : α → Prop}
    {kindOfStage kind : String} (hok : ∀ a, stage = .ok a ↔ Passes a)
    (hkind : ∀ e, stage = .error e → e.kind = kindOfStage) :
    (∃ e, stage = .error e ∧ e.kind = kind) ↔ kind = kindOfStage ∧ ∀ a, ¬ Passes a := by
  cases stage with
  | error e =>
      have hnone : ∀ a, ¬ Passes a := fun a ha => nomatch (hok a).mpr ha
      simp [hnone, hkind e rfl, eq_comm]
  | ok a =>
      have hpasses : Passes a := (hok a).mp rfl
      constructor
      · rintro ⟨e, he, -⟩
        cases he
      · rintro ⟨-, hnone⟩
        exact absurd hpasses (hnone a)

namespace Length

/-- What a directive asks for. -/
inductive Means : Length → Int → Prop
  | unbounded : Means unbounded (-1)
  | countOnly : Means countOnly 0
  | bounded {n : Nat} (hpos : 0 < n) : Means (bounded n) n

theorem ofDirective_eq_ok_iff {n : Int} {r : Length} : ofDirective n = .ok r ↔ r.Means n := by
  constructor
  · intro h
    unfold ofDirective at h
    split at h
    · rename_i hn
      cases h
      exact hn ▸ .unbounded
    · split at h
      · rename_i hn
        cases h
        exact hn ▸ .countOnly
      · split at h
        · rename_i hpos
          cases h
          obtain ⟨m, rfl⟩ := Int.eq_ofNat_of_zero_le (Int.le_of_lt hpos)
          exact .bounded (by omega)
        · cases h
  · intro h
    cases h with
    | unbounded => rfl
    | countOnly => rfl
    | @bounded n hpos =>
        unfold ofDirective
        rw [if_neg (by omega), if_neg (by omega), if_pos (by omega), Int.toNat_natCast]

theorem kind_of_ofDirective {n : Int} {e : QueryError} (h : ofDirective n = .error e) :
    e.kind = "invalid-length" := by
  unfold ofDirective at h
  repeat' split at h
  all_goals cases h
  rfl

/-- A directive of minus one or more means something, and no other does. -/
theorem exists_means_iff {n : Int} : (∃ r, Means r n) ↔ -1 ≤ n := by
  constructor
  · rintro ⟨r, hr⟩
    cases hr <;> omega
  · intro hn
    rcases (by omega : n = -1 ∨ n = 0 ∨ 0 < n) with rfl | rfl | hpos
    · exact ⟨_, .unbounded⟩
    · exact ⟨_, .countOnly⟩
    · obtain ⟨m, rfl⟩ := Int.eq_ofNat_of_zero_le (Int.le_of_lt hpos)
      exact ⟨_, .bounded (by omega)⟩

end Length

namespace Submission

/-! ### The shape of the query and its text -/

theorem queryText_eq_ok_iff {v? : Option Json} {text : String} :
    queryText v? = .ok text ↔ CarriesQuery v? text := by
  refine ⟨fun h => ?_, queryText_of_carries⟩
  unfold queryText at h
  split at h <;> cases h
  · exact .absent
  · exact .null
  · exact .text _

theorem kind_of_queryText {v? : Option Json} {e : QueryError} (h : queryText v? = .error e) :
    e.kind = "invalid-request" := by
  unfold queryText at h
  split at h <;> cases h <;> rfl

theorem kind_of_parse {text : String} {e : QueryError} (h : Filter.parse text = .error e) :
    e.kind = "malformed-query" := by
  unfold Filter.parse at h
  split at h <;> cases h
  rfl

/-! ### The length -/

/-- The lengths that a member gives.  A text may have blanks around its number. -/
inductive GivesLength : Option Json → Int → Prop
  | absent : GivesLength none (-1)
  | null : GivesLength (some .null) (-1)
  | number {len : Int} (hfits : Words.fitsSigned64 len = true) : GivesLength (some (.whole len)) len
  | blank {text : String} (hblank : Text.isBlankText text = true) :
      GivesLength (some (.string text)) (-1)
  | text {text : String} {len : Int} (hwrites : Text.Writes (Text.trimBlanks text).toList len)
      (hfits : Words.fitsSigned64 len = true) : GivesLength (some (.string text)) len

theorem fitsSigned64_iff {n : Int} :
    Words.fitsSigned64 n = true ↔ -(Words.half64 : Int) ≤ n ∧ n < Words.half64 := by
  simp [Words.fitsSigned64]

/-- A number is not written by a text without characters. -/
theorem isEmpty_trimBlanks_of_writes {text : String} {len : Int}
    (h : Text.Writes (Text.trimBlanks text).toList len) :
    (Text.trimBlanks text).isEmpty = false := by
  rw [Bool.eq_false_iff]
  intro hempty
  rw [String.isEmpty_iff, ← String.toList_eq_nil_iff] at hempty
  rw [hempty] at h
  cases h with
  | plain hne => exact hne rfl

theorem directive_eq_ok_iff {v? : Option Json} {len : Int} :
    directive v? = .ok len ↔ GivesLength v? len := by
  constructor
  · intro h
    unfold directive at h
    split at h
    · cases h
      exact .absent
    · cases h
      exact .null
    · split at h
      · rename_i hfits
        cases h
        exact .number hfits
      · cases h
    · rename_i text
      simp only [Text.isEmpty_trimBlanks] at h
      split at h
      · rename_i hblank
        cases h
        exact .blank hblank
      · split at h
        · rename_i n hread
          cases h
          obtain ⟨hwrites, hbounds⟩ := (Text.readSigned_eq_ok_iff (by decide)).mp hread
          exact .text hwrites (fitsSigned64_iff.mpr hbounds)
        · cases h
    · cases h
  · intro h
    cases h with
    | absent => rfl
    | null => rfl
    | number hfits => simp [directive, hfits]
    | blank hblank => simp [directive, Text.isEmpty_trimBlanks, hblank, Length.defaultDirective]
    | text hwrites hfits =>
        have hread := (Text.readSigned_eq_ok_iff (by decide)).mpr
          ⟨hwrites, fitsSigned64_iff.mp hfits⟩
        simp [directive, isEmpty_trimBlanks_of_writes hwrites, hread]

theorem kind_of_directive {v? : Option Json} {e : QueryError} (h : directive v? = .error e) :
    e.kind = "invalid-length" := by
  unfold directive at h
  split at h
  · cases h
  · cases h
  · split at h <;> cases h
    rfl
  · simp only [Text.isEmpty_trimBlanks] at h
    split at h
    · cases h
    · split at h <;> cases h
      rfl
  · cases h
    rfl

/-! ### The names -/

theorem specifiers_eq_ok_iff {v? : Option Json} {s : Specifiers} :
    specifiers v? = .ok s ↔ ∃ names, GivesNames v? names ∧ s = .ofTexts names := by
  refine ⟨givesNames_of_specifiers, ?_⟩
  rintro ⟨names, hnames, rfl⟩
  exact specifiers_of_givesNames hnames

theorem kind_of_specifiers {v? : Option Json} {e : QueryError} (h : specifiers v? = .error e) :
    e.kind = "invalid-distinct-shape" := by
  unfold specifiers at h
  repeat' split at h
  all_goals cases h
  all_goals rfl

/-! ### All stages -/

/-- The query is a text that parses, the length is in range, and the names are names. -/
structure Acceptable (x : Submission) : Prop where
  query : ∃ text f, CarriesQuery x.query? text ∧ Filter.parse text = .ok f
  len : ∃ len, GivesLength x.len? len ∧ -1 ≤ len
  names : ∃ names, GivesNames x.distinct? names

/-- A submission asks for what a request holds: the filter of its query text, what its length
means, and the specifiers of its names without those that came before. -/
structure AsksFor (x : Submission) (r : Request) : Prop where
  filter : ∃ text, CarriesQuery x.query? text ∧ Filter.parse text = .ok r.filter
  length : ∃ len, GivesLength x.len? len ∧ r.length.Means len
  specifiers : ∃ names, GivesNames x.distinct? names ∧
    r.specifiers.list = names.eraseDups.map Specifier.parse

/-- The kind of the first stage that fails.  What a later stage would say is left open. -/
inductive FailsFirst (x : Submission) : String → Prop
  | query (hquery : ∀ text, ¬ CarriesQuery x.query? text) : FailsFirst x "invalid-request"
  | text {text : String} (hquery : CarriesQuery x.query? text)
      (hparse : ∀ f, Filter.parse text ≠ .ok f) : FailsFirst x "malformed-query"
  | length {text : String} {f : Filter} (hquery : CarriesQuery x.query? text)
      (hparse : Filter.parse text = .ok f) (hlen : ∀ len, GivesLength x.len? len → len < -1) :
      FailsFirst x "invalid-length"
  | names {text : String} {f : Filter} {len : Int} (hquery : CarriesQuery x.query? text)
      (hparse : Filter.parse text = .ok f) (hlen : GivesLength x.len? len) (hrange : -1 ≤ len)
      (hnames : ∀ names, ¬ GivesNames x.distinct? names) : FailsFirst x "invalid-distinct-shape"

section Stages

variable {x : Submission} {r : Request} {v? : Option Json} {e : QueryError} {kind : String}

/-- The two steps that read a length and give it its meaning are one stage. -/
def lengthStage (v? : Option Json) : Except QueryError Length :=
  directive v? >>= Length.ofDirective

theorem lengthStage_eq_ok_iff {length : Length} :
    lengthStage v? = .ok length ↔ ∃ len, GivesLength v? len ∧ length.Means len := by
  simp only [lengthStage, bind_eq_ok_iff, directive_eq_ok_iff, Length.ofDirective_eq_ok_iff]

theorem kind_of_lengthStage (h : lengthStage v? = .error e) : e.kind = "invalid-length" := by
  rcases bind_eq_error_iff.mp h with h | ⟨len, -, h⟩
  · exact kind_of_directive h
  · exact Length.kind_of_ofDirective h

theorem check_eq_stages (x : Submission) :
    x.check = (do
      let text ← queryText x.query?
      let filter ← Filter.parse text
      let length ← lengthStage x.len?
      let specifiers ← specifiers x.distinct?
      pure ⟨filter, length, specifiers⟩) := by
  simp only [check, lengthStage, bind_assoc]

theorem check_eq_error_iff :
    x.check = .error e ↔
      queryText x.query? = .error e ∨ ∃ text, queryText x.query? = .ok text ∧
        (Filter.parse text = .error e ∨ ∃ f, Filter.parse text = .ok f ∧
          (lengthStage x.len? = .error e ∨ ∃ length, lengthStage x.len? = .ok length ∧
            specifiers x.distinct? = .error e)) := by
  have hpure : ∀ r' : Request, (pure r' : Except QueryError Request) ≠ .error e := nofun
  simp only [check_eq_stages, bind_eq_error_iff, hpure, and_false, exists_false, or_false]

/-- The specifiers of names are told by their list. -/
theorem eq_ofTexts_iff {s : Specifiers} {names : List String} :
    s = .ofTexts names ↔ s.list = names.eraseDups.map Specifier.parse := by
  rw [← Specifiers.list_ofTexts]
  refine ⟨fun h => h ▸ rfl, fun h => ?_⟩
  cases s
  cases h
  rfl

theorem check_eq_ok_iff : x.check = .ok r ↔ x.AsksFor r := by
  simp only [check_eq_stages, bind_eq_ok_iff, queryText_eq_ok_iff, lengthStage_eq_ok_iff,
    specifiers_eq_ok_iff, eq_ofTexts_iff]
  constructor
  · rintro ⟨text, hquery, f, hparse, length, hlength, s, hnames, hr⟩
    cases hr
    exact ⟨⟨text, hquery, hparse⟩, hlength, hnames⟩
  · rintro ⟨⟨text, hquery, hparse⟩, hlength, hnames⟩
    exact ⟨text, hquery, _, hparse, _, hlength, _, hnames, rfl⟩

/-- A submission asks for some request exactly if it is acceptable. -/
theorem exists_asksFor_iff : (∃ r, x.AsksFor r) ↔ x.Acceptable := by
  constructor
  · rintro ⟨r, ⟨text, hquery, hparse⟩, ⟨len, hlen, hmeans⟩, names, hnames, -⟩
    exact ⟨⟨text, r.filter, hquery, hparse⟩, ⟨len, hlen, Length.exists_means_iff.mp ⟨_, hmeans⟩⟩,
      ⟨names, hnames⟩⟩
  · rintro ⟨⟨text, f, hquery, hparse⟩, ⟨len, hlen, hrange⟩, names, hnames⟩
    obtain ⟨length, hmeans⟩ := Length.exists_means_iff.mpr hrange
    exact ⟨⟨f, length, .ofTexts names⟩, ⟨text, hquery, hparse⟩, ⟨len, hlen, hmeans⟩, names, hnames,
      Specifiers.list_ofTexts names⟩

theorem queryText_kind_iff :
    (∃ e, queryText v? = .error e ∧ e.kind = kind) ↔
      kind = "invalid-request" ∧ ∀ text, ¬ CarriesQuery v? text :=
  exists_kind_iff (fun _ => queryText_eq_ok_iff) (fun _ => kind_of_queryText)

theorem parse_kind_iff {text : String} :
    (∃ e, Filter.parse text = .error e ∧ e.kind = kind) ↔
      kind = "malformed-query" ∧ ∀ f, Filter.parse text ≠ .ok f :=
  exists_kind_iff (fun _ => Iff.rfl) (fun _ => kind_of_parse)

theorem lengthStage_kind_iff :
    (∃ e, lengthStage v? = .error e ∧ e.kind = kind) ↔
      kind = "invalid-length" ∧ ∀ len, GivesLength v? len → len < -1 := by
  rw [exists_kind_iff (fun _ => lengthStage_eq_ok_iff) (fun _ => kind_of_lengthStage)]
  refine and_congr_right fun _ => ⟨fun h len hlen => ?_, fun h length hlength => ?_⟩
  · by_contra hrange
    obtain ⟨length, hmeans⟩ := Length.exists_means_iff.mpr (Int.not_lt.mp hrange)
    exact h length ⟨len, hlen, hmeans⟩
  · obtain ⟨len, hlen, hmeans⟩ := hlength
    exact absurd (Length.exists_means_iff.mp ⟨length, hmeans⟩) (Int.not_le.mpr (h len hlen))

theorem specifiers_kind_iff :
    (∃ e, specifiers v? = .error e ∧ e.kind = kind) ↔
      kind = "invalid-distinct-shape" ∧ ∀ names, ¬ GivesNames v? names := by
  rw [exists_kind_iff (fun _ => specifiers_eq_ok_iff) (fun _ => kind_of_specifiers)]
  refine and_congr_right fun _ => ⟨fun h names hnames => h _ ⟨names, hnames, rfl⟩, ?_⟩
  rintro h s ⟨names, hnames, -⟩
  exact h names hnames

theorem failsFirst_of_check (h : x.check = .error e) : x.FailsFirst e.kind := by
  rcases check_eq_error_iff.mp h with hquery | ⟨text, hquery, hrest⟩
  · obtain ⟨hkind, hnone⟩ := queryText_kind_iff.mp ⟨e, hquery, rfl⟩
    exact hkind ▸ .query hnone
  have hcarries := queryText_eq_ok_iff.mp hquery
  rcases hrest with hparse | ⟨f, hparse, hrest⟩
  · obtain ⟨hkind, hnone⟩ := parse_kind_iff.mp ⟨e, hparse, rfl⟩
    exact hkind ▸ .text hcarries hnone
  rcases hrest with hlength | ⟨length, hlength, hnames⟩
  · obtain ⟨hkind, hnone⟩ := lengthStage_kind_iff.mp ⟨e, hlength, rfl⟩
    exact hkind ▸ .length hcarries hparse hnone
  · obtain ⟨hkind, hnone⟩ := specifiers_kind_iff.mp ⟨e, hnames, rfl⟩
    obtain ⟨len, hlen, hmeans⟩ := lengthStage_eq_ok_iff.mp hlength
    exact hkind ▸ .names hcarries hparse hlen (Length.exists_means_iff.mp ⟨length, hmeans⟩) hnone

theorem exists_check_of_failsFirst (h : x.FailsFirst kind) :
    ∃ e, x.check = .error e ∧ e.kind = kind := by
  cases h with
  | query hnone =>
      obtain ⟨e, he, hkind⟩ := queryText_kind_iff.mpr ⟨rfl, hnone⟩
      exact ⟨e, check_eq_error_iff.mpr (.inl he), hkind⟩
  | text hquery hnone =>
      obtain ⟨e, he, hkind⟩ := parse_kind_iff.mpr ⟨rfl, hnone⟩
      exact ⟨e, check_eq_error_iff.mpr (.inr ⟨_, queryText_of_carries hquery, .inl he⟩), hkind⟩
  | length hquery hparse hnone =>
      obtain ⟨e, he, hkind⟩ := lengthStage_kind_iff.mpr ⟨rfl, hnone⟩
      exact ⟨e, check_eq_error_iff.mpr
        (.inr ⟨_, queryText_of_carries hquery, .inr ⟨_, hparse, .inl he⟩⟩), hkind⟩
  | names hquery hparse hlen hrange hnone =>
      obtain ⟨e, he, hkind⟩ := specifiers_kind_iff.mpr ⟨rfl, hnone⟩
      obtain ⟨length, hmeans⟩ := Length.exists_means_iff.mpr hrange
      have hlength := lengthStage_eq_ok_iff.mpr ⟨_, hlen, hmeans⟩
      exact ⟨e, check_eq_error_iff.mpr (.inr ⟨_, queryText_of_carries hquery,
        .inr ⟨_, hparse, .inr ⟨_, hlength, he⟩⟩⟩), hkind⟩

end Stages

/-- **The check accepts what is acceptable and refuses the rest by its first stage that fails.**
It succeeds exactly on acceptable submissions, with the request that they ask for, and the kind of
an error is always that of the first stage that fails. -/
theorem check_by_stages (x : Submission) :
    ((∃ r, x.check = .ok r) ↔ x.Acceptable) ∧
    (∀ r, x.check = .ok r ↔ x.AsksFor r) ∧
    ∀ kind, (∃ e, x.check = .error e ∧ e.kind = kind) ↔ x.FailsFirst kind := by
  refine ⟨?_, fun _ => check_eq_ok_iff, fun kind => ⟨?_, exists_check_of_failsFirst⟩⟩
  · simp only [check_eq_ok_iff, exists_asksFor_iff]
  · rintro ⟨e, he, rfl⟩
    exact failsFirst_of_check he

/-- Both the length and the shape of the names are wrong: the length comes first. -/
example : (⟨some (.string "a=b"), some (.string " -2 "), some (.whole 5)⟩ : Submission).check =
    .error (.invalidLength "-2") := rfl

/-- A submission that can be accepted, and one that is wrong throughout, of which the text of the
query is reported. -/
theorem check_by_stages_textFirst :
    (⟨some (.string "uid=a"), some (.whole 2), some (.string "city")⟩ : Submission).check =
        .ok ⟨Filter.empty.require "uid" "a", .bounded 2, .ofTexts ["city"]⟩ ∧
      ∃ e, (⟨some (.string "uid"), some (.string "x"), some (.whole 5)⟩ : Submission).check =
        .error e ∧ e.kind = "malformed-query" := by
  obtain ⟨-, haccepted, -⟩ :=
    check_by_stages ⟨some (.string "uid=a"), some (.whole 2), some (.string "city")⟩
  obtain ⟨-, -, hrefused⟩ :=
    check_by_stages ⟨some (.string "uid"), some (.string "x"), some (.whole 5)⟩
  have hparse : ∀ f, Filter.parse "uid" ≠ .ok f := by
    intro f hf
    cases hf
  exact ⟨(haccepted _).mpr ⟨⟨_, .text _, rfl⟩, ⟨2, .number (by decide), .bounded (by decide)⟩,
    _, .single "city", by decide⟩, (hrefused _).mpr (.text (.text _) hparse)⟩

end Submission
end SeriesCatalog
