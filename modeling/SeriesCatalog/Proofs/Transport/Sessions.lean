import SeriesCatalog.Command.Run
import SeriesCatalog.Proofs.Service.Handling
import SeriesCatalog.Proofs.Transport.Progress

/-!
# What sessions give

A session over lines gives one answer for each line that is not blank, in the order of the
lines, for every order in which its reader, its tasks, its writer and its output move.  If the
output or the reader fails, the session says so.

Input: the moves of a session, in which each task finishes with one result.

Results:
* `Reaches.output_begins`, `Reaches.output_eq`: the output from the results of the tasks.
* `serve_answers`: the session in which every part moves as soon as it can.
* `runServe_output`: what the program that serves lines puts out.
* `output_in_order`: what an output that never complains has taken.
* `never_ok_if_cut_short`: a session that comes to a number is complete.
-/

namespace SeriesCatalog
namespace Transport

variable {lines : List Arrival} {texts : List String} {s t : State} {m : Move}
  {moves : List Move} {a b : List TaskResult}

/-! ## The output from the results -/

/-- **The output is a beginning of the answers that the tasks come to.** -/
theorem Reaches.output_begins (h : Reaches (.start lines) moves s)
    (ha : ∀ i r, .finish i r ∈ moves → a[i]? = some r) : s.output <+: transcript a :=
  h.delivered.output_begins fun i r hr => ha i r (h.finish_mem_iff.mpr hr)

theorem results_unique (hb : ∀ i r, .finish i r ∈ moves ↔ b[i]? = some r)
    (ha : ∀ i r, .finish i r ∈ moves → a[i]? = some r) (hlength : b.length = a.length) :
    b = a := by
  have hbegins : b <+: a := List.prefix_iff_getElem?.mpr fun i hi =>
    ha i _ ((hb i _).mpr (List.getElem?_eq_getElem hi))
  exact hbegins.eq_of_length hlength

/-- **A session that comes to a number has all answers as its output.** -/
theorem Reaches.output_eq (h : Reaches (.start lines) moves s) {n : Nat}
    (hresult : s.result? = some (.ok n)) (hlength : a.length = n)
    (ha : ∀ i r, .finish i r ∈ moves → a[i]? = some r) : s.output = transcript a := by
  obtain ⟨-, -, b, hb, hfinish, hout⟩ := h.of_result_ok hresult
  rw [hout, results_unique hfinish ha (hb.trans hlength.symm)]

/-- The answer of one task, and what stands before and behind it. -/
theorem transcript_split {j : Nat} {r : TaskResult} (hj : a[j]? = some r) :
    transcript a = transcript (a.take j) ++ r.due ++ transcript (a.drop (j + 1)) := by
  obtain ⟨hlt, rfl⟩ := List.getElem?_eq_some_iff.mp hj
  have hsplit : a = a.take j ++ a[j] :: a.drop (j + 1) := by simp
  refine (congrArg transcript hsplit).trans ?_
  simp only [transcript, List.flatMap_append, List.flatMap_cons, List.append_assoc]

theorem take_drop_eq_of_agree {j : Nat} (h : ∀ i, i ≠ j → a[i]? = b[i]?) :
    a.take j = b.take j ∧ a.drop (j + 1) = b.drop (j + 1) := by
  constructor
  · apply List.ext_getElem?
    intro i
    by_cases hi : i < j
    · simp [hi, h i (Nat.ne_of_lt hi)]
    · rw [List.getElem?_take, List.getElem?_take, if_neg hi, if_neg hi]
  · apply List.ext_getElem?
    intro i
    rw [List.getElem?_drop, List.getElem?_drop, h _ (by omega)]

/-- Two complete sessions that differ in the result of one task have outputs that differ in the
answer of this task alone. -/
theorem Reaches.outputs_differ_in_one {moves' : List Move} {s' : State} {n j : Nat}
    (h : Reaches (.start lines) moves s) (h' : Reaches (.start lines) moves' s')
    (hresult : s.result? = some (.ok n)) (hresult' : s'.result? = some (.ok n)) (hj : j < n)
    (hsame : ∀ i r, i ≠ j → (.finish i r ∈ moves ↔ .finish i r ∈ moves')) :
    ∃ before behind r r', .finish j r ∈ moves ∧ .finish j r' ∈ moves' ∧
      s.output = before ++ r.due ++ behind ∧
      s'.output = before ++ r'.due ++ behind := by
  -- Both outputs are made of the results, which agree at all places but one.
  obtain ⟨-, -, a, ha, hfinish, hout⟩ := h.of_result_ok hresult
  obtain ⟨-, -, b, hb, hfinish', hout'⟩ := h'.of_result_ok hresult'
  have hagree : ∀ i, i ≠ j → a[i]? = b[i]? := by
    intro i hi
    apply Option.ext
    intro r
    rw [← hfinish, ← hfinish', hsame i r hi]
  obtain ⟨htake, hdrop⟩ := take_drop_eq_of_agree hagree
  have hr := List.getElem?_eq_getElem (ha.symm ▸ hj : j < a.length)
  have hr' := List.getElem?_eq_getElem (hb.symm ▸ hj : j < b.length)
  refine ⟨_, _, _, _, (hfinish _ _).mpr hr, (hfinish' _ _).mpr hr',
    hout.trans (transcript_split hr), ?_⟩
  rw [hout', transcript_split hr', htake, hdrop]

/-! ## Sessions of a service -/

/-- The answers of a service to requests that it handles one after the other. -/
def handled (service : Service) (requests : List String) : List UInt8 :=
  requests.flatMap fun t => Text.Utf8.encode ((service.handleLine t).1.line ++ "\n")

theorem transcript_map_handleLine (service : Service) (requests : List String) :
    transcript (requests.map fun t => .answered (service.handleLine t).1) =
      handled service requests := by
  simp [transcript, handled, List.flatMap_map, TaskResult.due]

/-- If each task handles its request and no call fails, the result of a task is known from its
request. -/
theorem Reaches.finish_of_neverFails (h : Reaches (.start (texts.map .line)) moves s)
    {service : Service} (hnever : service.executor.NeverFails)
    (hanswers : ∀ i r line, .finish i r ∈ moves → s.requests[i]? = some line →
      ∃ e, r = .answered e ∧ service.MayAnswer line e) {i : Nat} {r : TaskResult}
    (hfinish : .finish i r ∈ moves) :
    ((nonBlank texts).map fun t => TaskResult.answered (service.handleLine t).1)[i]? =
      some r := by
  have hlt : i < s.requests.length := by
    rw [← h.readInOrder.results]
    exact (List.getElem?_eq_some_iff.mp (h.finish_mem_iff.mp hfinish)).1
  have hline := List.getElem?_eq_getElem hlt
  obtain ⟨e, rfl, he⟩ := hanswers i r _ hfinish hline
  have hbegins : s.requests <+: nonBlank texts :=
    requestLines_map_line texts ▸ h.readInOrder.requests_begin
  rw [List.getElem?_map, List.prefix_iff_getElem?.mp hbegins i hlt, Option.map_some,
    (Service.mayAnswer_iff hnever).mp he]

/-! ## Complaints -/

/-- If the writer has failed, a session comes to its complaint, or to that of the reader. -/
theorem Reaches.result_of_failed (h : Reaches (.start lines) moves s) {c : String}
    (hwriter : s.writer = .failed c) {o : Except String Nat} (ho : s.result? = some o) :
    o = .error c ∨ ∃ e, o = .error e ∧ .unreadable e ∈ lines := by
  cases o with
  | ok n =>
      rw [(State.result?_eq_ok_iff.mp ho).2.1] at hwriter
      cases hwriter
  | error e =>
      obtain hreader | ⟨-, hfailed⟩ := State.result?_eq_error_iff.mp ho
      · exact .inr ⟨e, rfl, h.readInOrder.fault_mem hreader⟩
      · rw [hfailed] at hwriter
        cases hwriter
        exact .inl rfl

/-- **A reader is turned away only if the output has refused an answer.** -/
theorem Reaches.of_turnedAway (h : Reaches (.start lines) moves s)
    (hreader : s.reader = .turnedAway) :
    ∃ c, s.result? = some (.error c) ∧ .refuse c ∈ moves := by
  obtain ⟨c, hwriter⟩ := h.inTurn.turnedAway hreader
  exact ⟨c, State.result?_eq_error_iff.mpr (.inr ⟨.inr hreader, hwriter⟩),
    h.refuse_of_failed hwriter (.inr hreader)⟩

theorem Reaches.results_eq_nil (h : Reaches (.start lines) moves s)
    (hlines : requestLines lines = []) : s.results = [] := by
  have hrequests := h.readInOrder.requests_begin
  rw [hlines, List.prefix_nil] at hrequests
  rw [← List.length_eq_zero_iff, h.readInOrder.results, hrequests, List.length_nil]

/-- Without a request an error comes from the reader, or from the output at the end. -/
theorem Reaches.flush_of_error (h : Reaches (.start lines) moves s)
    (hlines : requestLines lines = []) {e : String} (he : s.result? = some (.error e)) :
    .flush (some e) ∈ moves ∨ .unreadable e ∈ lines := by
  obtain hreader | ⟨-, hwriter⟩ := State.result?_eq_error_iff.mp he
  · exact .inr (h.readInOrder.fault_mem hreader)
  · obtain ⟨m, hm, hc⟩ := h.complaint_of_failed hwriter
    cases m with
    | flush c =>
        cases hc
        exact .inl hm
    | refuse c =>
        -- No answer is begun that could be refused.
        obtain ⟨_, _, -, _, hresult, -⟩ := h.of_refuse hm
        simp [h.results_eq_nil hlines] at hresult
    | _ => cases hc

/-- **A session over lines of text whose output never complains comes to the number of its
requests, if it comes to anything.** -/
theorem Reaches.result_eq (h : Reaches (.start (texts.map .line)) moves s)
    (hwriter : ∀ m ∈ moves, m.complaint? = none) {o : Except String Nat}
    (ho : s.result? = some o) : o = .ok (nonBlank texts).length := by
  cases o with
  | ok n =>
      obtain ⟨-, ⟨texts', hlines, -, rfl⟩, -⟩ := h.of_result_ok ho
      rw [← requestLines_map_line texts, hlines, requestLines_map_line]
  | error c =>
      obtain hreader | ⟨-, hfailed⟩ := State.result?_eq_error_iff.mp ho
      · simpa using h.readInOrder.fault_mem hreader
      · obtain ⟨m, hm, hc⟩ := h.complaint_of_failed hfailed
        rw [hwriter m hm] at hc
        cases hc

theorem Conduct.complaint?_of_mem {c : Conduct} (hrefusal : c.refusal? = none)
    (hm : m ∈ c.moves s) : m.complaint? = none := by
  obtain hwriter | hother := List.mem_append.mp hm
  · unfold writerMoves at hwriter
    split at hwriter
    · obtain rfl := List.mem_singleton.mp hwriter
      rfl
    · split at hwriter
      · simp only [List.mem_cons, List.not_mem_nil, or_false] at hwriter
        obtain rfl | rfl := hwriter <;> rfl
      · cases hwriter
    · rw [hrefusal] at hwriter
      obtain rfl := List.mem_singleton.mp hwriter
      rfl
    · cases hwriter
  · simp only [List.mem_cons, List.not_mem_nil, or_false] at hother
    obtain rfl | rfl | rfl := hother <;> rfl

/-- **A session over lines of text whose output never complains can be carried on, without a
complaint, until it comes to the number of its requests.** -/
theorem Reaches.exists_ok (h : Reaches (.start (texts.map .line)) moves s)
    (hwriter : ∀ m ∈ moves, m.complaint? = none) :
    ∃ more t, Reaches (.start (texts.map .line)) (moves ++ more) t ∧
      (∀ m ∈ more, m.complaint? = none) ∧
      t.result? = some (.ok (nonBlank texts).length) := by
  obtain ⟨more, hmore, hmoves, hresult⟩ :=
    h.drive ⟨fun _ => .brokeOff "", none⟩ (Nat.le_refl s.effort)
  have hquiet : ∀ m ∈ more, m.complaint? = none := by
    intro m hm
    obtain ⟨_, u, -, hu⟩ := hmoves m hm
    exact Conduct.complaint?_of_mem rfl hu
  have hall : ∀ m ∈ moves ++ more, m.complaint? = none := fun m hm =>
    (List.mem_append.mp hm).elim (hwriter m) (hquiet m)
  obtain ⟨o, ho⟩ := Option.ne_none_iff_exists'.mp hresult
  exact ⟨more, _, hmore, hquiet, hmore.result_eq hall ho ▸ ho⟩

/-! ## Every part moves as soon as it can -/

theorem Conduct.Tries.finish_eq {c : Conduct} {i : Nat} {r : TaskResult}
    (h : c.Tries lines (.finish i r)) : ((requestLines lines).map c.answer)[i]? = some r := by
  obtain ⟨moves, u, hu, hm⟩ := h
  obtain ⟨-, x, hx, rfl⟩ := Conduct.of_finish hm
  obtain ⟨hlt, rfl⟩ := List.getElem?_eq_some_iff.mp hx
  rw [List.getElem?_map, List.prefix_iff_getElem?.mp hu.readInOrder.requests_begin i hlt,
    Option.map_some]

/-- **The session in which every part moves as soon as it can answers each request, in order.** -/
theorem serve_answers {c : Conduct} (hrefusal : c.refusal? = none) (texts : List String) :
    (serve c (texts.map .line)).result? = some (.ok (nonBlank texts).length) ∧
      (serve c (texts.map .line)).output = transcript ((nonBlank texts).map c.answer) := by
  obtain ⟨moves, hrun, hmoves, hresult⟩ := reaches_serve c (texts.map .line)
  have hquiet : ∀ m ∈ moves, m.complaint? = none := by
    intro m hm
    obtain ⟨_, u, -, hu⟩ := hmoves m hm
    exact Conduct.complaint?_of_mem hrefusal hu
  obtain ⟨o, ho⟩ := Option.ne_none_iff_exists'.mp hresult
  have hok := hrun.result_eq hquiet ho ▸ ho
  refine ⟨hok, hrun.output_eq hok (List.length_map _) fun i r hfinish => ?_⟩
  exact requestLines_map_line texts ▸ (hmoves _ hfinish).finish_eq

/-- **The program that serves lines answers them as if it handled one after the other.** -/
theorem runServe_output {service : Service} {input : List UInt8} (clock : Command.Clock)
    (hinput : arrivals input = texts.map .line) :
    (Command.runServe service input clock).code = Command.successCode ∧
      (Command.runServe service input clock).output = handled service (nonBlank texts) := by
  obtain ⟨hresult, houtput⟩ := serve_answers (c := Command.conduct service) rfl texts
  rw [← hinput] at hresult houtput
  simp only [Command.runServe, hresult, houtput]
  exact ⟨trivial, transcript_map_handleLine service (nonBlank texts)⟩

/-! ## Every schedule -/

/-- **In every session over lines of text whose output never complains, the output is at every
moment a beginning of the answers to the lines that are not blank, in their order, and the
session comes to their number when all of it is written.**  So the sessions of a service whose
calls do not fail give what handling the lines one after the other gives, and a task that comes
to something else changes its own answer alone. -/
theorem output_in_order (texts : List String) {moves : List Move} {s : State}
    (hrun : Reaches (.start (texts.map .line)) moves s)
    (hwriter : ∀ m ∈ moves, m.complaint? = none) :
    s.requests <+: nonBlank texts ∧
    (∀ a : List TaskResult, a.length = (nonBlank texts).length →
      (∀ i r, .finish i r ∈ moves → a[i]? = some r) → s.output <+: transcript a) ∧
    (∀ o, s.result? = some o → o = .ok (nonBlank texts).length ∧
      ∃ a : List TaskResult, a.length = (nonBlank texts).length ∧
        (∀ i r, .finish i r ∈ moves ↔ a[i]? = some r) ∧ s.output = transcript a) ∧
    (∃ more t, Reaches (.start (texts.map .line)) (moves ++ more) t ∧
      (∀ m ∈ more, m.complaint? = none) ∧
      t.result? = some (.ok (nonBlank texts).length)) ∧
    (∀ service : Service, service.executor.NeverFails →
      (∀ i r line, .finish i r ∈ moves → s.requests[i]? = some line →
        ∃ e, r = .answered e ∧ service.MayAnswer line e) →
      s.output <+: handled service (nonBlank texts) ∧
        (s.result? ≠ none → s.output = handled service (nonBlank texts))) ∧
    (∀ (moves' : List Move) (s' : State) (n j : Nat),
      Reaches (.start (texts.map .line)) moves' s' →
      s.result? = some (.ok n) → s'.result? = some (.ok n) → j < n →
      (∀ i r, i ≠ j → (.finish i r ∈ moves ↔ .finish i r ∈ moves')) →
      ∃ before behind r r', .finish j r ∈ moves ∧ .finish j r' ∈ moves' ∧
        s.output = before ++ r.due ++ behind ∧
        s'.output = before ++ r'.due ++ behind) := by
  refine ⟨requestLines_map_line texts ▸ hrun.readInOrder.requests_begin,
    fun _ _ ha => hrun.output_begins ha, fun o ho => ?_, hrun.exists_ok hwriter,
    fun service hnever hanswers => ?_, fun moves' s' n j hrun' hok hok' hj hsame =>
      hrun.outputs_differ_in_one hrun' hok hok' hj hsame⟩
  · obtain rfl := hrun.result_eq hwriter ho
    obtain ⟨-, -, hanswers⟩ := hrun.of_result_ok ho
    exact ⟨rfl, hanswers⟩
  · have hfinish : ∀ i r, .finish i r ∈ moves →
        ((nonBlank texts).map fun t => TaskResult.answered (service.handleLine t).1)[i]? =
          some r := fun _ _ => hrun.finish_of_neverFails hnever hanswers
    rw [← transcript_map_handleLine]
    refine ⟨hrun.output_begins hfinish, fun hresult => ?_⟩
    obtain ⟨o, ho⟩ := Option.ne_none_iff_exists'.mp hresult
    exact hrun.output_eq (hrun.result_eq hwriter ho ▸ ho) (List.length_map _) hfinish

/-- Two requests, of which the second is answered first, while the task of the first, which is the
seventh that was ever started, breaks off. -/
def secondFirst : List Move :=
  [.read, .send, .read, .receive, .read, .finish 1 (.answered (.failure "y")), .send,
    .finish 0 (.brokeOff (.panicked (some 7) (some "x"))), .compose, .write 1,
    .write ((TaskResult.brokeOff (.panicked (some 7) (some "x"))).octets.length - 1), .read,
    .receive, .compose, .write (TaskResult.answered (.failure "y")).octets.length, .flush none]

theorem output_in_order_secondFirst :
    ∃ s, Reaches (.start (["a", " ", "b"].map .line)) secondFirst s ∧
      (∀ m ∈ secondFirst, m.complaint? = none) ∧ s.result? = some (.ok 2) ∧
      s.output = Text.Utf8.encode
        ("\x7b\"success\":false,\"error\":\"Task failure: task 7 panicked with message " ++
          "\\\"x\\\"\"\x7d\n" ++ "\x7b\"success\":false,\"error\":\"y\"\x7d\n") := by
  have hfinal : (secondFirst.foldlM State.step (.start (["a", " ", "b"].map .line))).map
      (fun s => (s.reader, s.writer, s.answered)) = some (.ended, .ended, 2) := by
    decide +kernel
  obtain ⟨s, hrun, hs⟩ := exists_reaches hfinal
  simp only [Prod.mk.injEq] at hs
  have hok := State.result?_eq_ok_iff.mpr ⟨.inl hs.1, hs.2⟩
  have hquiet : ∀ m ∈ secondFirst, m.complaint? = none := by simp [secondFirst, Move.complaint?]
  obtain ⟨-, -, hanswers, -⟩ := output_in_order ["a", " ", "b"] hrun hquiet
  obtain ⟨-, a, hlength, hfinish, hout⟩ := hanswers _ hok
  have hall : ∀ i r, .finish i r ∈ secondFirst →
      [TaskResult.brokeOff (.panicked (some 7) (some "x")), .answered (.failure "y")][i]? =
        some r := by
    intro i r hi
    obtain ⟨rfl, rfl⟩ | ⟨rfl, rfl⟩ := by simpa [secondFirst] using hi
    · rfl
    · rfl
  rw [results_unique hfinish hall hlength] at hout
  refine ⟨s, hrun, hquiet, hok, hout.trans ?_⟩
  decide +kernel

/-- **A session that comes to a number has read all lines and written all answers.**  If the
output complains, the session does not come to a number, and what is written are the first
answers and a part of the next one; a reader that is turned away has met such a complaint.
Without a request nothing is written. -/
theorem never_ok_if_cut_short {lines : List Arrival} {moves : List Move} {s : State}
    (hrun : Reaches (.start lines) moves s) :
    (∀ n, s.result? = some (.ok n) → s.reader = .ended ∧
      (∃ texts : List String, lines = texts.map .line ∧ s.requests = nonBlank texts ∧
        n = (nonBlank texts).length) ∧
      ∃ a : List TaskResult, a.length = n ∧ (∀ i r, .finish i r ∈ moves ↔ a[i]? = some r) ∧
        s.output = transcript a) ∧
    (∀ m ∈ moves, ∀ c, m.complaint? = some c → ∀ o, s.result? = some o →
      o = .error c ∨ ∃ e, o = .error e ∧ .unreadable e ∈ lines) ∧
    (∀ c, .refuse c ∈ moves → s.requests <+: requestLines lines ∧
      ∃ (done : List TaskResult) (next : TaskResult) (part rest : List UInt8),
        done.length = s.answered ∧ (∀ i r, done[i]? = some r → .finish i r ∈ moves) ∧
        .finish s.answered next ∈ moves ∧ next.due = part ++ rest ∧ rest ≠ [] ∧
        s.output = transcript done ++ part) ∧
    (s.reader = .turnedAway → ∃ c, s.result? = some (.error c) ∧ .refuse c ∈ moves) ∧
    (requestLines lines = [] → s.output = [] ∧
      ∀ e, s.result? = some (.error e) → .flush (some e) ∈ moves ∨ .unreadable e ∈ lines) ∧
    (∃ more t, Reaches (.start lines) (moves ++ more) t ∧ t.result? ≠ none) := by
  refine ⟨fun n hok => hrun.of_result_ok hok, fun m hm c hc o ho => ?_, fun c hrefuse => ?_,
    hrun.of_turnedAway, fun hlines => ⟨?_, fun e he => hrun.flush_of_error hlines he⟩, ?_⟩
  · exact hrun.result_of_failed (hrun.failed_of_complaint hm hc) ho
  · obtain ⟨part, rest, ⟨done, hlength, hknows, hout⟩, next, hnext, hdue, hrest⟩ :=
      hrun.of_refuse hrefuse
    exact ⟨hrun.readInOrder.requests_begin, done, next, part, rest, hlength,
      fun i r hi => hrun.finish_mem_iff.mpr (hknows i r hi), hrun.finish_mem_iff.mpr hnext,
      hdue, hrest, hout⟩
  · have hnone : ∀ i r, .finish i r ∈ moves → ([] : List TaskResult)[i]? = some r := by
      intro i r hfinish
      have hresult := hrun.finish_mem_iff.mp hfinish
      simp [hrun.results_eq_nil hlines] at hresult
    exact List.prefix_nil.mp (hrun.output_begins hnone)
  · obtain ⟨more, hmore, -, hresult⟩ :=
      hrun.drive ⟨fun _ => .brokeOff "", none⟩ (Nat.le_refl s.effort)
    exact ⟨more, _, hmore, hresult⟩

/-- The first of two answers is refused after three octets, so that the second request is turned
away. -/
def refusedHalfway : List Move :=
  [.read, .send, .receive, .read, .finish 0 (.answered (.failure "y")), .compose, .write 3,
    .refuse "broken pipe", .send]

theorem never_ok_if_cut_short_refusedHalfway :
    ∃ s, Reaches (.start (["a", "b"].map .line)) refusedHalfway s ∧
      s.result? = some (.error "broken pipe") ∧
      ∃ rest, rest ≠ [] ∧
        Text.Utf8.encode "\x7b\"success\":false,\"error\":\"y\"\x7d\n" = s.output ++ rest := by
  have hfinal : (refusedHalfway.foldlM State.step (.start (["a", "b"].map .line))).map
      (fun s => (s.reader, s.answered)) = some (.turnedAway, 0) := by decide +kernel
  obtain ⟨s, hrun, hs⟩ := exists_reaches hfinal
  obtain ⟨hreader, hanswered⟩ := Prod.mk.inj hs
  obtain ⟨-, -, hcut, haway, -⟩ := never_ok_if_cut_short hrun
  obtain ⟨c, hresult, hc⟩ := haway hreader
  obtain ⟨-, done, next, part, rest, hlength, -, hnext, hdue, hrest, hout⟩ := hcut c hc
  obtain rfl : c = "broken pipe" := by simpa [refusedHalfway] using hc
  rw [hanswered] at hlength hnext
  obtain rfl := List.eq_nil_of_length_eq_zero hlength
  obtain rfl : next = .answered (.failure "y") := by simpa [refusedHalfway] using hnext
  have hwritten : (TaskResult.answered (.failure "y")).due =
      Text.Utf8.encode "\x7b\"success\":false,\"error\":\"y\"\x7d\n" := by decide +kernel
  exact ⟨s, hrun, hresult, rest, hrest, by rw [← hwritten, hdue, hout]; rfl⟩

end Transport
end SeriesCatalog
