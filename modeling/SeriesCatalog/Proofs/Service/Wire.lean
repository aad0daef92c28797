import SeriesCatalog.Proofs.Query.Submissions
import SeriesCatalog.Proofs.Service.Handling
import SeriesCatalog.Proofs.Text.Numerals

/-!
# Requests on the wire

A request is made of parts: a query text, a length, and a list of names that may be missing.  A
line of JSON text carries them in the members of an object, each of which can be written in
several ways.  Whatever the way, the check of the submission comes to the same, and so does all
that follows from it.

* `Submission.CarriesQuery`, `Submission.CarriesLength`: the ways to write a query text and a
  length; `Submission.GivesNames` has those to write names.
* `Submission.Carries`: a submission that carries parts.
* `Request.ofParts`: the request that parts come to.
* `Service.MayHandle`: the answers to a submission, over all orders of the calls.

Results:
* `Submission.check_of_carries`: the check of a submission, by its parts.
* `Service.handleLine_eq_handle_ofParts`: a line that carries parts is answered as the submission
  that is made of them.
-/

namespace SeriesCatalog

/-- The request that parts come to.  A query text that does not parse is found before a length
that is out of range, and names are always in order. -/
def Request.ofParts (query : String) (len : Int) (names? : Option (List String)) :
    Except QueryError Request := do
  let filter ← Filter.parse query
  let length ← Length.ofDirective len
  pure ⟨filter, length, .ofTexts (names?.getD [])⟩

namespace Submission

/-- The values of the member for the query text. -/
inductive CarriesQuery : Option Json → String → Prop
  | text (query : String) : CarriesQuery (some (.string query)) query
  | absent : CarriesQuery none ""
  | null : CarriesQuery (some .null) ""

/-- The values of the member for the length, where a text may have blanks around the number. -/
inductive CarriesLength : Option Json → Int → Prop
  | number (len : Int) : CarriesLength (some (.whole len)) len
  | text {before after : String} (len : Int) (hbefore : Text.isBlankText before = true)
      (hafter : Text.isBlankText after = true) :
      CarriesLength (some (.string (before ++ toString len ++ after))) len
  | absent : CarriesLength none (-1)
  | null : CarriesLength (some .null) (-1)
  | blank {text : String} (htext : Text.isBlankText text = true) :
      CarriesLength (some (.string text)) (-1)

/-- A submission carries parts.  No names are as good as an empty list of them. -/
structure Carries (x : Submission) (query : String) (len : Int)
    (names? : Option (List String)) : Prop where
  query : CarriesQuery x.query? query
  len : CarriesLength x.len? len
  names : GivesNames x.distinct? (names?.getD [])

section Parts

variable {x : Submission} {query : String} {len : Int} {names? : Option (List String)}

theorem carries_ofParts (query : String) (len : Int) (names? : Option (List String)) :
    (ofParts query len names?).Carries query len names? := by
  refine ⟨.text query, .number len, ?_⟩
  cases names? with
  | none => exact .absent
  | some names => exact .list names

theorem queryText_of_carries {v? : Option Json} (h : CarriesQuery v? query) :
    queryText v? = .ok query := by
  cases h <;> rfl

theorem directive_of_carries {v? : Option Json} (h : CarriesLength v? len)
    (hfits : Words.fitsSigned64 len = true) : directive v? = .ok len := by
  cases h with
  | number => simp [directive, hfits]
  | text _ hbefore hafter =>
      have hbounds : -(Words.half64 : Int) ≤ len ∧ len < Words.half64 := by
        simpa [Words.fitsSigned64] using hfits
      have hempty : (toString len).isEmpty = false := by
        simpa [Bool.eq_false_iff] using Text.toString_ne_empty len
      simp only [directive, Text.trimBlanks_toString hbefore hafter, hempty, Bool.false_eq_true,
        if_false, Text.readSigned_toString hbounds.1 hbounds.2]
  | absent => rfl
  | null => rfl
  | blank htext => simp [directive, Text.isEmpty_trimBlanks, htext, Length.defaultDirective]

theorem texts?_map_string (names : List String) : texts? (names.map .string) = some names := by
  induction names with
  | nil => rfl
  | cons name names ih => simp [texts?, ih]

theorem specifiers_of_givesNames {v? : Option Json} {names : List String}
    (h : GivesNames v? names) : specifiers v? = .ok (.ofTexts names) := by
  cases h with
  | absent => rfl
  | null => rfl
  | single name => rfl
  | list names => simp [specifiers, texts?_map_string]

/-- **The check of a submission, by the parts that it carries.** -/
theorem check_of_carries (h : x.Carries query len names?)
    (hfits : Words.fitsSigned64 len = true) : x.check = Request.ofParts query len names? := by
  simp only [check, queryText_of_carries h.query, directive_of_carries h.len hfits,
    specifiers_of_givesNames h.names]
  rfl

end Parts

/-- A member that is null is left out of the submission of a line.  What can be written as null
can be left out, too. -/
theorem member?_of_lookup (carries : Option Json → Prop)
    (hnull : carries (some .null) → carries none) {key : String} {m : Entries Json}
    (h : carries (Entries.lookup key m)) : carries (member? key m) := by
  unfold member?
  split
  · rename_i hlookup
    exact hnull (hlookup ▸ h)
  · exact h

theorem exists_read_carries {line : String} {m : Entries Json} {query : String} {len : Int}
    {names? : Option (List String)} (hread : Json.read line = .ok (.object m))
    (hquery : CarriesQuery (Entries.lookup "query" m) query)
    (hlen : CarriesLength (Entries.lookup "len" m) len)
    (hnames : GivesNames (Entries.lookup "distinct" m) (names?.getD [])) :
    ∃ x, read line = .ok x ∧ x.Carries query len names? := by
  refine ⟨⟨member? "query" m, member? "len" m, member? "distinct" m⟩, by simp [read, hread], ?_⟩
  constructor
  · refine member?_of_lookup (CarriesQuery · query) (fun hnull => ?_) hquery
    cases hnull
    exact .absent
  · refine member?_of_lookup (CarriesLength · len) (fun hnull => ?_) hlen
    cases hnull
    exact .absent
  · refine member?_of_lookup (GivesNames · (names?.getD [])) (fun hnull => ?_) hnames
    generalize names?.getD [] = names at hnull
    cases hnull
    exact .absent

end Submission

namespace Service

/-- What handling a submission may give, over all orders of the calls of its request. -/
inductive MayHandle (s : Service) (x : Submission) : Envelope → Prop
  | refused {e : QueryError} (hcheck : x.check = .error e) : MayHandle s x (.ofError e)
  | executed {r : Request} {o : Except QueryError Envelope} (hcheck : x.check = .ok r)
      (ho : s.Possible r o) : MayHandle s x (envelopeOf o)

variable {s : Service} {x y : Submission} {envelope : Envelope}

theorem mayAnswer_iff_mayHandle {line : String} (hread : Submission.read line = .ok x) :
    s.MayAnswer line envelope ↔ s.MayHandle x envelope := by
  constructor
  · intro h
    cases h with
    | unread hread' => cases hread.symm.trans hread'
    | refused hread' hcheck =>
        cases hread.symm.trans hread'
        exact .refused hcheck
    | executed hread' hcheck ho =>
        cases hread.symm.trans hread'
        exact .executed hcheck ho
  · intro h
    cases h with
    | refused hcheck => exact .refused hread hcheck
    | executed hcheck ho => exact .executed hread hcheck ho

theorem MayHandle.congr (hcheck : x.check = y.check) (h : s.MayHandle x envelope) :
    s.MayHandle y envelope := by
  cases h with
  | refused hx => exact .refused (hcheck ▸ hx)
  | executed hx ho => exact .executed (hcheck ▸ hx) ho

/-- **A line that carries parts is answered as the submission that is made of them.**  The check
of both comes to the request of the parts or to its error, the answer and its audit record are
the same, and so are the answers that other orders of the calls may give. -/
theorem handleLine_eq_handle_ofParts (s : Service) (query : String) (len : Int)
    (names? : Option (List String)) (hfits : Words.fitsSigned64 len = true) (line : String)
    (m : Entries Json) (hread : Json.read line = .ok (.object m))
    (hquery : Submission.CarriesQuery (Entries.lookup "query" m) query)
    (hlen : Submission.CarriesLength (Entries.lookup "len" m) len)
    (hnames : Submission.GivesNames (Entries.lookup "distinct" m) (names?.getD [])) :
    (∃ x, Submission.read line = .ok x ∧ x.check = Request.ofParts query len names?) ∧
    (Submission.ofParts query len names?).check = Request.ofParts query len names? ∧
    (∀ elapsed?, s.handleLine line elapsed? = s.handle (.ofParts query len names?) elapsed?) ∧
    ∀ envelope, s.MayAnswer line envelope ↔
      s.MayHandle (.ofParts query len names?) envelope := by
  obtain ⟨x, hx, hcarries⟩ := Submission.exists_read_carries hread hquery hlen hnames
  have hline := Submission.check_of_carries hcarries hfits
  have hparts := Submission.check_of_carries (Submission.carries_ofParts query len names?) hfits
  have hcheck : x.check = (Submission.ofParts query len names?).check := hline.trans hparts.symm
  refine ⟨⟨x, hx, hline⟩, hparts, fun elapsed? => ?_, fun envelope => ?_⟩
  · simp only [handleLine, hx, handle, outcome, hcheck]
  · rw [mayAnswer_iff_mayHandle hx]
    exact ⟨.congr hcheck, .congr hcheck.symm⟩

/-- The members are in another order, with one that is unknown; the length is a text with blanks
and the list of names a bare name. -/
theorem handleLine_len_in_text :
    ((⟨Store.empty.executor, .standard⟩ : Service).handleLine
      "\x7b\"distinct\": \"city\", \"note\": [1], \"len\": \" 3 \", \"query\": \"a=b\"\x7d").1 =
      .success (.page [] 0) (some [("city", [])]) := by
  have hread : Json.read
      "\x7b\"distinct\": \"city\", \"note\": [1], \"len\": \" 3 \", \"query\": \"a=b\"\x7d" =
      .ok (.object [("distinct", .string "city"), ("note", .list [.whole 1]),
        ("len", .string (" " ++ toString (3 : Int) ++ " ")), ("query", .string "a=b")]) := rfl
  have h := handleLine_eq_handle_ofParts ⟨Store.empty.executor, .standard⟩ "a=b" 3
    (some ["city"]) rfl _ _ hread (.text "a=b") (.text 3 rfl rfl) (.single "city")
  exact congrArg Prod.fst (h.2.2.1 none)

end Service
end SeriesCatalog
