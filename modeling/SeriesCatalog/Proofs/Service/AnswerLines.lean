import SeriesCatalog.Proofs.Json.Controls
import SeriesCatalog.Proofs.Service.Answer
import SeriesCatalog.Proofs.Service.AnswerTexts
import SeriesCatalog.Proofs.Service.Audit
import SeriesCatalog.Proofs.Store.Inheritance

/-!
# Lines of answers

Whatever is stored and asked for, an answer is sent as one line.  The documents, the values and the
names in it are arbitrary texts at any depth, but the line has no control character, no object in it
has a key twice, and it is read back as an object with a member for each part of the answer.

* `Inquiry`: what a service is asked by.
* `Inquiry.Names`: the names of the fields whose different values are asked for.
* `Service.Returns`: the answers that a service may give.

Results:
* `Service.fetch_onStore_within`: what is found on a store is what it holds.
* `Service.Returns.sound`: a store of sound documents gives sound answers.
* `Service.answer_line_tells`: the line of an answer, and what it is read as.
-/

namespace SeriesCatalog

/-- What a service is asked by: a request that was checked, one as it arrives, or a line. -/
inductive Inquiry
  | request (r : Request)
  | submission (x : Submission)
  | line (text : String)

/-- The names of fields that an inquiry gives. -/
inductive Inquiry.Names : Inquiry → List String → Prop
  | request {r : Request} {names : List String} (h : r.specifiers = .ofTexts names) :
      Names (.request r) names
  | submission {x : Submission} {names : List String}
      (h : Submission.GivesNames x.distinct? names) : Names (.submission x) names
  | line {text : String} {x : Submission} {names : List String}
      (hread : Submission.read text = .ok x) (h : Submission.GivesNames x.distinct? names) :
      Names (.line text) names

namespace Service

/-- The answers that executing, handling and handling a line may give.  The specifiers of a request
are those of names. -/
inductive Returns (s : Service) : Inquiry → Envelope → Prop
  | execute {r : Request} {e : Envelope} {names : List String}
      (hnames : r.specifiers = .ofTexts names) (ho : s.Possible r (.ok e)) :
      Returns s (.request r) e
  | handle {x : Submission} {o : Except QueryError Envelope} (ho : s.ComesTo x o) :
      Returns s (.submission x) (envelopeOf o)
  | handleLine {text : String} {o : Except QueryError Envelope} (ho : s.LineComesTo text o) :
      Returns s (.line text) (envelopeOf o)

open Store

variable {s : Store} {policy : Policy} {r : Request} {x : Submission} {names : List String}
  {e : Envelope} {o : Except QueryError Envelope}

theorem mem_matching_of_mem_find {f : Filter} {limit : Limit} {d : Document}
    (h : d ∈ (s.find f limit).documents) : d ∈ s.matching f := by
  unfold find at h
  dsimp only at h
  split at h
  · exact h
  · exact List.mem_of_mem_take h

theorem matched_find (s : Store) (f : Filter) (limit : Limit) :
    (s.find f limit).matched = (s.matching f).length := by
  unfold find
  dsimp only
  split <;> rfl

/-- What is found on a store are documents of it, and no more are counted than it has. -/
theorem fetch_onStore_within {f : Filter} {plan : Plan} {result : ResultSet}
    (h : (onStore s policy).fetch f plan = .value result) :
    (∀ l, result.documents? = some l → ∀ d ∈ l, d ∈ s.documents) ∧
      ∀ n, result.count? = some n → n ≤ s.documents.size := by
  have hcount : (s.matching f).length ≤ s.documents.size := by
    rw [← Array.length_toList]
    exact List.length_filter_le _ _
  cases plan with
  | skip =>
      cases h
      simp [ResultSet.documents?, ResultSet.count?]
  | count =>
      cases h
      refine ⟨by simp [ResultSet.documents?], fun n hn => ?_⟩
      cases hn
      exact hcount
  | find limit =>
      cases h
      refine ⟨fun l hl d hd => ?_, fun n hn => ?_⟩
      · cases hl
        exact Array.mem_toList_iff.mp (List.mem_filter.mp (mem_matching_of_mem_find hd)).1
      · cases hn
        rwa [matched_find]

theorem sound_failure (message : String) : (Envelope.failure message).Sound := by
  constructor <;> intro _ hnone <;> cases hnone

section Sound

variable (hstored : ∀ d ∈ s.documents, (Value.document d).Sound)
  (hsize : s.documents.size ≤ Words.greatest64)

include hstored hsize

/-- A request for the different values of names comes to a sound answer with a list for each. -/
theorem sound_of_possible (hnames : r.specifiers = .ofTexts names)
    (ho : (onStore s policy).Possible r (.ok e)) :
    e.Sound ∧ ∀ lists, e.distinct? = some lists → Entries.keys lists = names.eraseDups := by
  obtain ⟨result, values, hanswers, rfl⟩ := possible_ok_iff.mp ho
  obtain ⟨hdocuments, hcount⟩ := fetch_onStore_within hanswers.fetch
  generalize hdistinct : (if r.specifiers.isEmpty then none
    else some (r.specifiers.list.map fun spec => (spec.responseKey, values spec))) = lists?
  have hlists : ∀ lists, lists? = some lists →
      lists = r.specifiers.list.map fun spec => (spec.responseKey, values spec) := by
    rintro lists rfl
    split at hdistinct
    · cases hdistinct
    · exact (Option.some.inj hdistinct).symm
  have hkeys : ∀ lists, lists? = some lists → Entries.keys lists = names.eraseDups := by
    intro lists hl
    rw [hlists lists hl, hnames, Specifiers.list_ofTexts]
    simp [Entries.keys, Function.comp_def]
  refine ⟨⟨fun l hl d hd => hstored d (hdocuments l hl d hd),
    fun n hn => (hcount n hn).trans hsize, fun lists hl => ?_, fun lists hl entry he v hv => ?_⟩,
    hkeys⟩
  · rw [hkeys lists hl]
    exact FirstOccurrences.nodup_eraseDups names
  · rw [hlists lists hl] at he
    obtain ⟨spec, hspec, rfl⟩ := List.mem_map.mp he
    exact holds_lookup Value.hereditary_sound hstored (hanswers.lookup spec hspec) hv

theorem sound_of_comesTo (ho : (onStore s policy).ComesTo x o) :
    (envelopeOf o).Sound ∧ ∀ lists, (envelopeOf o).distinct? = some lists →
      ∃ names, Submission.GivesNames x.distinct? names ∧
        Entries.keys lists = names.eraseDups := by
  cases o with
  | error error => exact ⟨sound_failure _, fun _ hl => nomatch hl⟩
  | ok e =>
      cases ho with
      | executed hcheck ho =>
          obtain ⟨_, _, names, hgives, -, -, hnames⟩ := Submission.gives_of_check hcheck
          obtain ⟨hsound, hkeys⟩ := sound_of_possible hstored hsize hnames ho
          exact ⟨hsound, fun lists hl => ⟨names, hgives.names, hkeys lists hl⟩⟩

/-- **A store of sound documents gives sound answers**, with a list for each name that was given. -/
theorem Returns.sound {q : Inquiry} (h : (onStore s policy).Returns q e) :
    e.Sound ∧ ∀ lists, e.distinct? = some lists →
      ∃ names, q.Names names ∧ Entries.keys lists = names.eraseDups := by
  cases h with
  | execute hnames ho =>
      obtain ⟨hsound, hkeys⟩ := sound_of_possible hstored hsize hnames ho
      exact ⟨hsound, fun lists hl => ⟨_, .request hnames, hkeys lists hl⟩⟩
  | handle ho =>
      obtain ⟨hsound, hkeys⟩ := sound_of_comesTo hstored hsize ho
      refine ⟨hsound, fun lists hl => ?_⟩
      obtain ⟨names, hnames, heq⟩ := hkeys lists hl
      exact ⟨names, .submission hnames, heq⟩
  | handleLine ho =>
      cases ho with
      | unread _ => exact ⟨sound_failure _, fun _ hl => nomatch hl⟩
      | read hread ho =>
          obtain ⟨hsound, hkeys⟩ := sound_of_comesTo hstored hsize ho
          refine ⟨hsound, fun lists hl => ?_⟩
          obtain ⟨names, hnames, heq⟩ := hkeys lists hl
          exact ⟨names, .line hread hnames, heq⟩

end Sound

/-- **The line of an answer.**  On a store of sound documents, and with any writer that writes sound
values, the answer to a request, a submission or a line is written itself and not as a complaint.
Its line is the text of an object in which no key is repeated, and has no control character.  It is
read back as an object with a member for each part of the answer, in which the lists of different
values stand under the names that were given. -/
theorem answer_line_tells {ws : List Write} (hws : ∀ w ∈ ws, w.Brings Value.Sound)
    (hsize : (run ws).documents.size ≤ Words.greatest64) (policy : Policy)
    {write : Value → Except String Json} (hwrite : ∀ v : Value, v.Sound → write v = .ok v.toJson)
    {q : Inquiry} {e : Envelope} (he : (onStore (run ws) policy).Returns q e) :
    e.membersBy write = .ok e.members ∧
      e.lineBy write = e.toJson.text ∧ e.toJson.WellKeyed ∧
      Text.FreeOfControls (e.lineBy write).toList ∧
      (Text.lines (Text.Utf8.encode (e.lineBy write ++ "\n"))).length = 1 ∧
      (∃ m, Json.readWith none (e.lineBy write) = .ok (.object m) ∧ (Json.object m).WellKeyed ∧
        e.Tells m) ∧
      ∀ lists, e.distinct? = some lists →
        ∃ names, q.Names names ∧ Entries.keys lists = names.eraseDups := by
  have hstored : ∀ d ∈ (run ws).documents, (Value.document d).Sound := fun _ hd =>
    holds_run Value.hereditary_sound hws hd
  obtain ⟨hsound, hnames⟩ := he.sound hstored hsize
  have hline : e.lineBy write = e.toJson.text := hsound.lineBy_eq hwrite
  have hcontrols : Text.FreeOfControls e.toJson.text.toList := Json.freeOfControls_text _
  have hfeed : e.toJson.text.toList.count '\n' = 0 :=
    List.count_eq_zero.mpr (hcontrols.not_mem (by decide))
  obtain ⟨m, hread, htells⟩ := hsound.readWith_text
  rw [hline]
  refine ⟨hsound.membersBy_eq hwrite, rfl, hsound.legible.wellKeyed, hcontrols, ?_,
    ⟨m, hread, Json.wellKeyed_of_readWith hread, htells⟩, hnames⟩
  rw [Text.length_lines_encode, hfeed]

/-- A document in which a name and a value take two lines. -/
def twoLines : Document :=
  [("_id", .string "a"), ("fields", .document [("first\nlast", .string "Reci\nfe")])]

def writesOfTwoLines : List Write :=
  [.upsertFields "a" [("first\nlast", .string "Reci\nfe")]]

theorem documents_writesOfTwoLines : (run writesOfTwoLines).documents.toList = [twoLines] := by
  simp [run, writeAll, write, writesOfTwoLines, upsertFields, mergeInto, empty, append]
  rfl

/-- The answer to a request for one document and for the different values under the name. -/
def answerOfTwoLines : Envelope :=
  .success (.page [twoLines] 1) (some [("first\nlast", [.string "Reci\nfe"])])

theorem returns_answerOfTwoLines : (onStore (run writesOfTwoLines) .standard).Returns
    (.request ⟨.empty, .bounded 1, .ofTexts ["first\nlast"]⟩) answerOfTwoLines := by
  have hmatching : (run writesOfTwoLines).matching .empty = [twoLines] := by
    rw [matching, documents_writesOfTwoLines]
    rfl
  have hanswers : (onStore (run writesOfTwoLines) .standard).Answers
      ⟨.empty, .bounded 1, .ofTexts ["first\nlast"]⟩ (.page [twoLines] 1)
      fun _ => [.string "Reci\nfe"] := by
    constructor
    · have hfind : (run writesOfTwoLines).find .empty (.atMost 1) = ⟨[twoLines], 1⟩ := by
        simp only [find, hmatching]
        rfl
      exact congrArg (fun r : Found => Outcome.value (ResultSet.page r.documents r.matched)) hfind
    · intro spec hspec
      obtain rfl : spec = .field "first\nlast" := List.mem_singleton.mp hspec
      have hdistinct : (run writesOfTwoLines).distinct (Series.fieldPath "first\nlast") .empty =
          [.string "Reci\nfe"] := by
        rw [distinct, hmatching]
        rfl
      exact congrArg Outcome.value hdistinct
  exact .execute rfl (possible_ok_iff.mpr ⟨_, _, hanswers, rfl⟩)

theorem answer_line_tells_two_lines :
    (∀ w ∈ writesOfTwoLines, w.Brings Value.Sound) ∧
      (run writesOfTwoLines).documents.size ≤ Words.greatest64 ∧
      (onStore (run writesOfTwoLines) .standard).Returns
        (.request ⟨.empty, .bounded 1, .ofTexts ["first\nlast"]⟩) answerOfTwoLines ∧
      Text.FreeOfControls answerOfTwoLines.line.toList ∧
      ∃ m, Json.readWith none answerOfTwoLines.line = .ok (.object m) ∧
        Entries.keys m = ["success", "content", "len", "distinct"] := by
  have hws : ∀ w ∈ writesOfTwoLines, w.Brings Value.Sound := by
    intro w hw
    obtain rfl := List.mem_singleton.mp hw
    exact Value.hereditary_sound.put Value.hereditary_sound.nil
      (Value.hereditary_sound.simple (by trivial)) "first\nlast"
  have hsize : (run writesOfTwoLines).documents.size ≤ Words.greatest64 := by
    rw [← Array.length_toList, documents_writesOfTwoLines]
    decide
  obtain ⟨-, -, -, hcontrols, -, ⟨m, hread, -, htells⟩, -⟩ :=
    answer_line_tells hws hsize .standard (fun v _ => rfl) returns_answerOfTwoLines
  exact ⟨hws, hsize, returns_answerOfTwoLines, hcontrols, m, hread, htells.keys⟩

end Service
end SeriesCatalog
