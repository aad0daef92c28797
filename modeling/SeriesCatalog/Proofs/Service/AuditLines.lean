import SeriesCatalog.Logging.Files
import SeriesCatalog.Proofs.Json.Controls
import SeriesCatalog.Proofs.Query.Tokens
import SeriesCatalog.Proofs.Query.Validation
import SeriesCatalog.Proofs.Service.Answer
import SeriesCatalog.Proofs.Service.Audit

/-!
# Lines of the audit log

A record is written with a line feed behind it and no escapes in it.  So it takes one line unless
its text has line feeds, and these come from the texts that an error takes over as they are: parts
of the query text, a length that is no number, the name of a field and what a store says.  All
other texts are fixed, quoted or escaped.

* `Service.TakesOver`: an error takes over a text with a character in it.

Results:
* `Service.mem_auditRecord_iff`: the control characters of a record.
* `LogRecord.length_lines`: the number of lines that a record takes.
* `Service.auditRecord_lines`: when a record takes one line, whatever the request and the store are.
-/

namespace SeriesCatalog

open Text

variable {c : Char}

theorem mem_framed_iff (hc : IsControl c) (before : String) {after : String}
    (hbefore : FreeOfControls before.toList) (hafter : FreeOfControls after.toList) (t : String) :
    c ∈ (before ++ t ++ after).toList ↔ c ∈ t.toList := by
  simp only [String.toList_append, List.mem_append, hbefore.not_mem hc, hafter.not_mem hc,
    false_or, or_false]

theorem mem_behind_iff (hc : IsControl c) (before : String)
    (hbefore : FreeOfControls before.toList) (t : String) :
    c ∈ (before ++ t).toList ↔ c ∈ t.toList := by
  simp only [String.toList_append, List.mem_append, hbefore.not_mem hc, false_or]

theorem mem_ahead_iff (hc : IsControl c) (t : String) {after : String}
    (hafter : FreeOfControls after.toList) : c ∈ (t ++ after).toList ↔ c ∈ t.toList := by
  simp only [String.toList_append, List.mem_append, hafter.not_mem hc, or_false]

/-! ## Texts of errors -/

/-- Of what is said about a query text, only the part of it that is shown may have control
characters. -/
theorem Query.mem_detail_iff (hc : IsControl c) {text : String} {m : Query.Malformed}
    (h : Query.pairs text = .error m) : c ∈ m.detail.toList ↔ c ∈ m.part.toList := by
  rcases Query.shown_of_pairs h with ⟨r, -, hquote, rfl⟩ | ⟨ts, t, -, -, rfl | rfl⟩
  · have hfree : FreeOfControls ("unterminated " ++ toString r.quote ++ " in '").toList := by
      simp only [Query.isQuote, Bool.or_eq_true, decide_eq_true_eq] at hquote
      rcases hquote with (hquote | hquote) | hquote <;> rw [hquote] <;> decide
    exact mem_framed_iff hc _ hfree (by decide) r.kept
  · exact mem_framed_iff hc "token '" (by decide) (by decide) t
  · exact mem_framed_iff hc "token '" (by decide) (by decide) t

theorem Json.ReadError.freeOfControls_message (e : Json.ReadError) :
    FreeOfControls e.message.toList := by
  have hfault : FreeOfControls e.fault.message.toList := by cases e.fault <;> decide
  have hmessage : e.message =
      e.fault.message ++ " at line " ++ toString e.line ++ " column " ++ toString e.column := rfl
  rw [hmessage]
  simp only [String.toList_append, freeOfControls_append]
  exact ⟨⟨⟨⟨hfault, by decide⟩, freeOfControls_toString_nat _⟩, by decide⟩,
    freeOfControls_toString_nat _⟩

namespace QueryError

theorem freeOfControls_kind (e : QueryError) : FreeOfControls e.kind.toList := by
  have hkinds : ∀ kind ∈ ["malformed-query", "invalid-length", "invalid-distinct-shape",
      "invalid-request", "store-failure", "aggregation-failure", "task-failure"],
      FreeOfControls kind.toList := by decide
  exact hkinds e.kind (by cases e <;> simp [kind])

end QueryError

namespace Submission

theorem freeOfControls_of_queryText {v? : Option Json} {e : QueryError}
    (h : queryText v? = .error e) : FreeOfControls e.message.toList := by
  unfold queryText at h
  split at h <;> cases h
  · decide
  · decide
  · rename_i v _ _ _ _
    have htext :
        FreeOfControls ("Invalid request: query must be a string, got " ++ v.text).toList := by
      rw [String.toList_append, freeOfControls_append]
      exact ⟨by decide, v.freeOfControls_text⟩
    exact htext

/-- A length is shown as a number or as JSON text, unless it is a text itself. -/
theorem shown_of_lengthStage {v? : Option Json} {e : QueryError} (h : lengthStage v? = .error e) :
    ∃ shown, e = .invalidLength shown ∧ (FreeOfControls shown.toList ∨
      ∃ text, v? = some (.string text) ∧ shown = s!"'{text}'") := by
  rcases bind_eq_error_iff.mp h with h | ⟨n, -, h⟩
  · unfold directive at h
    split at h
    · cases h
    · cases h
    · split at h <;> cases h
      exact ⟨_, rfl, .inl (freeOfControls_toString _)⟩
    · simp only [Text.isEmpty_trimBlanks] at h
      split at h
      · cases h
      · split at h <;> cases h
        exact ⟨_, rfl, .inr ⟨_, rfl, rfl⟩⟩
    · cases h
      exact ⟨_, rfl, .inl (Json.freeOfControls_text _)⟩
  · unfold Length.ofDirective at h
    repeat' split at h
    all_goals cases h
    exact ⟨_, rfl, .inl (freeOfControls_toString _)⟩

theorem eq_of_specifiers {v? : Option Json} {e : QueryError} (h : specifiers v? = .error e) :
    e = .invalidDistinct := by
  unfold specifiers at h
  repeat' split at h
  all_goals cases h
  all_goals rfl

end Submission

namespace Service

variable {s : Service} {x : Submission} {line : String} {o : Except QueryError Envelope}

/-- An error shows a text of the request with a character in it: a part of the query text, or a
length that is no number. -/
inductive FromRequest (c : Char) (x : Submission) : QueryError → Prop
  | query {text : String} {m : Query.Malformed} (hquery : Submission.queryText x.query? = .ok text)
      (hpairs : Query.pairs text = .error m) (hc : c ∈ m.part.toList) :
      FromRequest c x (.malformedQuery m.detail)
  | length {text : String} (hlen : x.len? = some (.string text)) (hc : c ∈ text.toList) :
      FromRequest c x (.invalidLength s!"'{text}'")

/-- An error tells of a call that has failed, and the character is in the name of the field or in
what the store says. -/
inductive FromStore (c : Char) : QueryError → Prop
  | fetch {e : StoreError} (hc : c ∈ e.message.toList) : FromStore c (.store e)
  | lookup {field : String} {e : StoreError} (hc : c ∈ field.toList ∨ c ∈ e.message.toList) :
      FromStore c (.lookup field e)

/-- An outcome takes over a text with a character in it. -/
inductive TakesOver (c : Char) (x : Submission) : Except QueryError Envelope → Prop
  | request {e : QueryError} (h : FromRequest c x e) : TakesOver c x (.error e)
  | store {e : QueryError} (h : FromStore c e) : TakesOver c x (.error e)

/-! ## Records -/

theorem freeOfControls_shownTime (elapsed? : Option Nat) :
    FreeOfControls (shownTime elapsed?).toList := by
  cases elapsed? with
  | none => decide
  | some n =>
      have hshown : shownTime (some n) = " elapsed_ms=" ++ toString n := rfl
      rw [hshown, String.toList_append, freeOfControls_append]
      exact ⟨by decide, freeOfControls_toString_nat n⟩

theorem mem_auditRecord_error_iff (hc : IsControl c) (elapsed? : Option Nat) (e : QueryError) :
    c ∈ (auditRecord elapsed? (.error e)).text.toList ↔ c ∈ e.message.toList := by
  have hbefore : FreeOfControls ("outcome=error kind=" ++ e.kind ++ " message=\"").toList := by
    simp only [String.toList_append, freeOfControls_append, e.freeOfControls_kind, and_true]
    exact ⟨by decide, by decide⟩
  have hrecord : (auditRecord elapsed? (.error e)).text =
      "outcome=error kind=" ++ e.kind ++ " message=\"" ++ e.message ++ "\"" ++
        shownTime elapsed? := rfl
  rw [hrecord, mem_ahead_iff hc _ (freeOfControls_shownTime elapsed?)]
  exact mem_framed_iff hc _ hbefore (by decide) e.message

theorem freeOfControls_shownCount (n? : Option Nat) : FreeOfControls (shownCount n?).toList := by
  cases n? with
  | none => decide
  | some n =>
      have hshown : shownCount (some n) = "Some(" ++ toString n ++ ")" := rfl
      rw [hshown, String.toList_append, String.toList_append, freeOfControls_append,
        freeOfControls_append]
      exact ⟨⟨by decide, freeOfControls_toString_nat n⟩, by decide⟩

theorem freeOfControls_auditRecord_ok (elapsed? : Option Nat) (envelope : Envelope) :
    FreeOfControls (auditRecord elapsed? (.ok envelope)).text.toList := by
  have hrecord : (auditRecord elapsed? (.ok envelope)).text =
      "outcome=ok len=" ++ shownCount envelope.count? ++ " distinct=" ++
        toString ((envelope.distinct?.map List.length).getD 0) ++ shownTime elapsed? := rfl
  rw [hrecord]
  simp only [String.toList_append, freeOfControls_append]
  exact ⟨⟨⟨⟨by decide, freeOfControls_shownCount _⟩, by decide⟩, freeOfControls_toString_nat _⟩,
    freeOfControls_shownTime elapsed?⟩

theorem mem_malformedQuery_message_iff (hc : IsControl c) (detail : String) :
    c ∈ (QueryError.malformedQuery detail).message.toList ↔ c ∈ detail.toList :=
  mem_behind_iff hc "Malformed query: " (by decide) detail

theorem mem_store_message_iff (hc : IsControl c) (e : StoreError) :
    c ∈ (QueryError.store e).message.toList ↔ c ∈ e.message.toList :=
  mem_behind_iff hc "Store failure: " (by decide) e.message

theorem mem_lookup_message_iff (hc : IsControl c) (field : String) (e : StoreError) :
    c ∈ (QueryError.lookup field e).message.toList ↔ c ∈ field.toList ∨ c ∈ e.message.toList := by
  have hmessage : (QueryError.lookup field e).message =
      "Distinct lookup failed for '" ++ field ++ "': " ++ e.message := rfl
  rw [hmessage, String.toList_append, List.mem_append,
    mem_framed_iff hc _ (by decide) (by decide)]

theorem mem_invalidLength_message_iff (hc : IsControl c) (shown : String) :
    c ∈ (QueryError.invalidLength shown).message.toList ↔ c ∈ shown.toList :=
  mem_framed_iff hc "Invalid len: " (by decide) (by decide) shown

/-- A length that is a text is shown between quotes. -/
theorem mem_invalidLength_text_iff (hc : IsControl c) (text : String) :
    c ∈ (QueryError.invalidLength s!"'{text}'").message.toList ↔ c ∈ text.toList :=
  (mem_invalidLength_message_iff hc _).trans (mem_framed_iff hc "'" (by decide) (by decide) text)

theorem freeOfControls_shownTask (task? : Option Nat) :
    FreeOfControls (Breakdown.shownTask task?).toList := by
  cases task? with
  | none => decide
  | some n => exact freeOfControls_toString_nat n

/-- What is reported of a task that broke off quotes its message. -/
theorem freeOfControls_breakdown (b : Breakdown) : FreeOfControls b.text.toList := by
  cases b with
  | panicked task? message? =>
      cases message? with
      | none =>
          simp only [Breakdown.text, String.toList_append, freeOfControls_append]
          exact ⟨⟨by decide, freeOfControls_shownTask task?⟩, by decide⟩
      | some message =>
          simp only [Breakdown.text, String.toList_append, freeOfControls_append]
          exact ⟨⟨⟨by decide, freeOfControls_shownTask task?⟩, by decide⟩,
            freeOfControls_quoted message⟩
  | cancelled task? =>
      simp only [Breakdown.text, String.toList_append, freeOfControls_append]
      exact ⟨⟨by decide, freeOfControls_shownTask task?⟩, by decide⟩

theorem freeOfControls_task (b : Breakdown) :
    FreeOfControls (QueryError.task b).message.toList := by
  have hmessage : (QueryError.task b).message = "Task failure: " ++ b.text := rfl
  rw [hmessage, String.toList_append, freeOfControls_append]
  exact ⟨by decide, freeOfControls_breakdown b⟩

theorem fromRequest_of_mem (hc : IsControl c) {e : QueryError} (h : x.check = .error e)
    (hmem : c ∈ e.message.toList) : FromRequest c x e := by
  rcases Submission.check_eq_error_iff.mp h with hquery | ⟨text, hquery, hrest⟩
  · exact absurd hmem ((Submission.freeOfControls_of_queryText hquery).not_mem hc)
  rcases hrest with hparse | ⟨f, hparse, hlength | ⟨length, hlength, hnames⟩⟩
  · unfold Filter.parse at hparse
    split at hparse <;> cases hparse
    rename_i m hpairs
    have hdetail := (mem_malformedQuery_message_iff hc m.detail).mp hmem
    exact .query hquery hpairs ((Query.mem_detail_iff hc hpairs).mp hdetail)
  · obtain ⟨shown, rfl, hfree | ⟨text, hlen, rfl⟩⟩ := Submission.shown_of_lengthStage hlength
    · exact absurd ((mem_invalidLength_message_iff hc shown).mp hmem) (hfree.not_mem hc)
    · exact .length hlen ((mem_invalidLength_text_iff hc text).mp hmem)
  · rw [Submission.eq_of_specifiers hnames] at hmem
    exact absurd hmem (FreeOfControls.not_mem (by decide) hc)

theorem fromStore_of_mem (hc : IsControl c) {r : Request} {e : QueryError}
    (h : s.CallFails r e) (hmem : c ∈ e.message.toList) : FromStore c e := by
  have htask (b : Breakdown) : c ∉ (QueryError.task b).message.toList :=
    (freeOfControls_task b).not_mem hc
  cases h with
  | count _ hfails =>
      generalize s.executor.count r.filter = outcome at hfails
      cases outcome <;> cases hfails
      · exact .fetch ((mem_store_message_iff hc _).mp hmem)
      · exact absurd hmem (htask _)
  | @find limit _ _ hfails =>
      generalize s.executor.find r.filter limit = outcome at hfails
      cases outcome <;> cases hfails
      · exact .fetch ((mem_store_message_iff hc _).mp hmem)
      · exact absurd hmem (htask _)
  | @lookup spec _ _ hfails =>
      generalize s.executor.lookup spec r.filter = outcome at hfails
      cases outcome <;> cases hfails
      · exact .lookup ((mem_lookup_message_iff hc _ _).mp hmem)
      · exact absurd hmem (htask _)

theorem TakesOver.mem (hc : IsControl c) {e : QueryError} (h : TakesOver c x (.error e)) :
    c ∈ e.message.toList := by
  rcases h with ⟨⟨_, hpairs, hmem⟩ | ⟨_, hmem⟩⟩ | ⟨hmem | hmem⟩
  · exact (mem_malformedQuery_message_iff hc _).mpr ((Query.mem_detail_iff hc hpairs).mpr hmem)
  · exact (mem_invalidLength_text_iff hc _).mpr hmem
  · exact (mem_store_message_iff hc _).mpr hmem
  · exact (mem_lookup_message_iff hc _ _).mpr hmem

/-- **The control characters of a record** are those of the text that an error takes over. -/
theorem mem_auditRecord_iff (hc : IsControl c) (elapsed? : Option Nat) (h : s.ComesTo x o) :
    c ∈ (auditRecord elapsed? o).text.toList ↔ TakesOver c x o := by
  cases o with
  | ok envelope =>
      have hnot := (freeOfControls_auditRecord_ok elapsed? envelope).not_mem hc
      exact ⟨fun hmem => absurd hmem hnot, fun htakes => nomatch htakes⟩
  | error e =>
      rw [mem_auditRecord_error_iff hc]
      refine ⟨fun hmem => ?_, TakesOver.mem hc⟩
      rcases comesTo_error_iff.mp h with hcheck | ⟨r, -, hfails⟩
      · exact .request (fromRequest_of_mem hc hcheck hmem)
      · exact .store (fromStore_of_mem hc hfails hmem)

/-- A line that is no request is recorded without anything of it. -/
theorem freeOfControls_of_read {e : QueryError} (h : Submission.read line = .error e) :
    FreeOfControls e.message.toList := by
  unfold Submission.read at h
  split at h <;> cases h
  · rename_i e _
    have hmessage : (QueryError.invalidRequest e.message).message =
        "Invalid request: " ++ e.message := rfl
    rw [hmessage, String.toList_append, freeOfControls_append]
    exact ⟨by decide, e.freeOfControls_message⟩
  · decide

theorem mem_auditRecord_of_line_iff (hc : IsControl c) (elapsed? : Option Nat)
    (h : s.LineComesTo line o) :
    c ∈ (auditRecord elapsed? o).text.toList ↔
      ∃ x, Submission.read line = .ok x ∧ TakesOver c x o := by
  cases h with
  | unread hread =>
      rw [mem_auditRecord_error_iff hc]
      have hnot := (freeOfControls_of_read hread).not_mem hc
      refine ⟨fun hmem => absurd hmem hnot, ?_⟩
      rintro ⟨x, hx, -⟩
      rw [hread] at hx
      cases hx
  | read hread ho =>
      rw [mem_auditRecord_iff hc elapsed? ho]
      refine ⟨fun htakes => ⟨_, hread, htakes⟩, ?_⟩
      rintro ⟨x', hx', htakes⟩
      rw [hread] at hx'
      cases hx'
      exact htakes

/-- A request shows nothing but its query text and its length. -/
theorem FromRequest.mem {e : QueryError} (h : FromRequest c x e) :
    (∃ text, x.query? = some (.string text) ∧ c ∈ text.toList) ∨
      ∃ text, x.len? = some (.string text) ∧ c ∈ text.toList := by
  cases h with
  | length hlen hmem => exact .inr ⟨_, hlen, hmem⟩
  | query hquery hpairs hmem =>
      have htext := Query.mem_of_mem_part hpairs hmem
      have hcarries := Submission.queryText_eq_ok_iff.mp hquery
      generalize x.query? = v? at hcarries ⊢
      cases hcarries with
      | text => exact .inl ⟨_, rfl, htext⟩
      | absent => cases htext
      | null => cases htext

end Service

/-- **A record takes as many lines as its text has**: the line feed behind it is the only other
one. -/
theorem LogRecord.length_lines (r : LogRecord) {time : String} (htime : '\n' ∉ time.toList)
    (htarget : '\n' ∉ r.target.toList) :
    (lines (Utf8.encode (r.line time))).length = r.text.toList.count '\n' + 1 := by
  have hline : r.line time =
      (time ++ " [" ++ r.level.name ++ "] " ++ r.target ++ " - " ++ r.text) ++ "\n" := rfl
  have hlevel : '\n' ∉ r.level.name.toList := by cases r.level <;> decide
  rw [hline, length_lines_encode]
  simp only [String.toList_append, List.count_append, List.count_eq_zero.mpr htime,
    List.count_eq_zero.mpr hlevel, List.count_eq_zero.mpr htarget]
  simp

namespace Service

variable {s : Service}

/-- **When a record takes one line.**  A character below U+0020, such as a line feed or a carriage
return, stands in a record exactly if an error takes over a text that has it: a part of the query
text, a length that is no number, the name of a field for which a call fails, or what the store says
of the call that fails.  A record takes one line, and one more for each line feed in its text.  So
on a store whose calls do not fail, a request whose query text and length have no line feed is
recorded on one line. -/
theorem auditRecord_lines (s : Service) :
    (∀ c, IsControl c → ∀ x o elapsed?, s.ComesTo x o →
      (c ∈ (auditRecord elapsed? o).text.toList ↔ TakesOver c x o)) ∧
    (∀ c, IsControl c → ∀ line o elapsed?, s.LineComesTo line o →
      (c ∈ (auditRecord elapsed? o).text.toList ↔
        ∃ x, Submission.read line = .ok x ∧ TakesOver c x o)) ∧
    (∀ x elapsed?, ∃ o, s.ComesTo x o ∧ (s.handle x elapsed?).2 = auditRecord elapsed? o) ∧
    (∀ line elapsed?, ∃ o, s.LineComesTo line o ∧
      (s.handleLine line elapsed?).2 = auditRecord (lineTime? line elapsed?) o) ∧
    ∀ time, '\n' ∉ time.toList →
      (∀ o elapsed?, (lines (Utf8.encode ((auditRecord elapsed? o).line time))).length =
        (auditRecord elapsed? o).text.toList.count '\n' + 1) ∧
      (s.executor.NeverFails → ∀ x o elapsed?, s.ComesTo x o →
        (∀ text, x.query? = some (.string text) → '\n' ∉ text.toList) →
        (∀ text, x.len? = some (.string text) → '\n' ∉ text.toList) →
        (lines (Utf8.encode ((auditRecord elapsed? o).line time))).length = 1) := by
  have hlines : ∀ {time : String}, '\n' ∉ time.toList → ∀ o elapsed?,
      (lines (Utf8.encode ((auditRecord elapsed? o).line time))).length =
        (auditRecord elapsed? o).text.toList.count '\n' + 1 := by
    intro time htime o elapsed?
    have htarget : (auditRecord elapsed? o).target = auditTarget := by cases o <;> rfl
    exact (auditRecord elapsed? o).length_lines htime (htarget ▸ by decide)
  refine ⟨fun c hc x o elapsed? => mem_auditRecord_iff hc elapsed?,
    fun c hc line o elapsed? => mem_auditRecord_of_line_iff hc elapsed?, fun x elapsed? => ?_,
    fun line elapsed? => ?_, fun time htime => ⟨hlines htime, ?_⟩⟩
  · obtain ⟨o, ho, hhandle⟩ := exists_handle_eq s x elapsed?
    exact ⟨o, ho, congrArg Prod.snd hhandle⟩
  · obtain ⟨o, ho, hhandle⟩ := exists_handleLine_eq s line elapsed?
    exact ⟨o, ho, congrArg Prod.snd hhandle⟩
  · intro hnever x o elapsed? ho hquery hlen
    have hnone : '\n' ∉ (auditRecord elapsed? o).text.toList := by
      intro hmem
      cases o with
      | ok envelope =>
          exact (freeOfControls_auditRecord_ok elapsed? envelope).not_mem (by decide) hmem
      | error e =>
          rcases comesTo_error_iff.mp ho with hcheck | ⟨r, -, hfails⟩
          · rw [mem_auditRecord_error_iff (by decide)] at hmem
            rcases (fromRequest_of_mem (by decide) hcheck hmem).mem with ⟨t, ht, hc⟩ | ⟨t, ht, hc⟩
            · exact hquery t ht hc
            · exact hlen t ht hc
          · exact not_callFails hnever hfails
    rw [hlines htime, List.count_eq_zero.mpr hnone]

theorem auditRecord_lines_recife :
    '\n' ∉ "2020-01-01 00:00:00.000".toList ∧ (onStore .empty .countOnly).executor.NeverFails ∧
      (lines (Utf8.encode (((onStore .empty .countOnly).handle
        (.ofParts "city=Recife" 0 none) (some 3)).2.line "2020-01-01 00:00:00.000"))).length =
          1 := by
  have htime : '\n' ∉ "2020-01-01 00:00:00.000".toList := by decide
  have hnever : (onStore .empty .countOnly).executor.NeverFails := Store.executor_neverFails _
  obtain ⟨-, -, hhandle, -, hlines⟩ := auditRecord_lines (onStore .empty .countOnly)
  obtain ⟨o, ho, hrecord⟩ := hhandle (.ofParts "city=Recife" 0 none) (some 3)
  refine ⟨htime, hnever, ?_⟩
  rw [hrecord]
  refine (hlines _ htime).2 hnever _ o (some 3) ho (fun text htext => ?_) fun text htext => ?_
  · cases htext
    decide
  · cases htext

/-- A request whose query text is a token with a line feed and without an equals sign, and one with
a line feed in its length: the former is recorded on two lines. -/
theorem auditRecord_broken_lines :
    ((onStore .empty .countOnly).handle (.ofParts "\"a\nb\"" 0 none) (some 3)).2.text =
        "outcome=error kind=malformed-query " ++
          "message=\"Malformed query: token 'a\nb' has no '='\" elapsed_ms=3" ∧
      ((onStore .empty .countOnly).handle ⟨none, some (.string "a\nb"), none⟩ (some 3)).2.text =
        "outcome=error kind=invalid-length " ++
          "message=\"Invalid len: 'a\nb' (len must be -1 or higher)\" elapsed_ms=3" ∧
      (lines (Utf8.encode (((onStore .empty .countOnly).handle
        (.ofParts "\"a\nb\"" 0 none) (some 3)).2.line "2020-01-01 00:00:00.000"))).length = 2 := by
  have hrecord : ((onStore .empty .countOnly).handle (.ofParts "\"a\nb\"" 0 none) (some 3)).2 =
      ⟨.warn, auditTarget, "outcome=error kind=malformed-query " ++
        "message=\"Malformed query: token 'a\nb' has no '='\" elapsed_ms=3"⟩ := rfl
  refine ⟨congrArg LogRecord.text hrecord, rfl, ?_⟩
  rw [hrecord, LogRecord.length_lines _ (by decide) (by decide)]
  decide

end Service
end SeriesCatalog
