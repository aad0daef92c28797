import SeriesCatalog.Proofs.Transport.Order

/-!
# What is written

The output of a session is made of the answers of the first tasks, one after the other, and of
a part of the next answer if that is being written or was cut short.

* `TaskResult.due`, `transcript`: the octets that answers are to have.
* `State.Written`, `State.Begun`: the answers that are written, and the one that is begun.
* `Delivered`: the output, for each state of the writer.

Results:
* `Reaches.delivered`: the output of every state of a session.
* `Delivered.output_begins`: it is a beginning of the answers that the tasks come to.
* `Reaches.output_grows`: it is a beginning of every later output.
* `Reaches.of_result_ok`: a session that comes to a number has written all answers.
* `Reaches.of_refuse`: an output that refuses cuts one answer short.
-/

namespace SeriesCatalog
namespace Transport

/-- The octets that are due for a task: the line of its answer with a line feed behind it.  A task
that breaks off is answered with a failure. -/
def TaskResult.due : TaskResult → List UInt8
  | answered e => Text.Utf8.encode (e.line ++ "\n")
  | brokeOff b =>
      Text.Utf8.encode ((Envelope.failure ("Task failure: " ++ b.text)).line ++ "\n")

theorem TaskResult.octets_eq_due (r : TaskResult) : r.octets = r.due := by
  cases r <;> rfl

/-- The octets that are due for tasks, one after the other. -/
def transcript (a : List TaskResult) : List UInt8 :=
  a.flatMap TaskResult.due

theorem transcript_mono {a b : List TaskResult} (h : a <+: b) :
    transcript a <+: transcript b := by
  obtain ⟨l, rfl⟩ := h
  rw [transcript, transcript, List.flatMap_append]
  exact List.prefix_append _ _

namespace State

/-- The first tasks have come to these results. -/
def Knows (s : State) (a : List TaskResult) : Prop :=
  ∀ (i : Nat) (r : TaskResult), a[i]? = some r → s.results[i]? = some (some r)

/-- What tasks have come to is still so in another state. -/
def KeptIn (s t : State) : Prop :=
  ∀ (i : Nat) (r : TaskResult), s.results[i]? = some (some r) → t.results[i]? = some (some r)

/-- The output is made of all answers that are written to their end, and of a part more. -/
def Written (s : State) (part : List UInt8) : Prop :=
  ∃ done : List TaskResult, done.length = s.answered ∧ s.Knows done ∧
    s.output = transcript done ++ part

/-- A part of the next answer is written, and something is left of it. -/
def Begun (s : State) (part rest : List UInt8) : Prop :=
  ∃ r, s.results[s.answered]? = some (some r) ∧ r.due = part ++ rest ∧ rest ≠ []

end State

variable {lines : List Arrival} {s t u : State} {m : Move} {moves : List Move}
  {part rest : List UInt8}

theorem State.Knows.concat {done : List TaskResult} {r : TaskResult} (h : s.Knows done)
    (hr : s.results[done.length]? = some (some r)) : s.Knows (done ++ [r]) := by
  intro i r' hi
  by_cases hlt : i < done.length
  · exact h i r' (by rwa [List.getElem?_append_left hlt] at hi)
  · have hbound := (List.getElem?_eq_some_iff.mp hi).1
    simp only [List.length_append, List.length_singleton] at hbound
    obtain rfl : i = done.length := by omega
    rw [List.getElem?_concat_length] at hi
    cases hi
    exact hr

section Kept

variable (hresults : s.KeptIn t) (hanswered : t.answered = s.answered)
include hresults hanswered

theorem State.Written.kept (h : s.Written part) (houtput : t.output = s.output) :
    t.Written part := by
  obtain ⟨done, hlength, hknows, hout⟩ := h
  exact ⟨done, hlength.trans hanswered.symm, fun i r hi => hresults i r (hknows i r hi),
    houtput.trans hout⟩

theorem State.Begun.kept (h : s.Begun part rest) : t.Begun part rest := by
  obtain ⟨r, hr, hdue, hrest⟩ := h
  exact ⟨r, by rw [hanswered]; exact hresults _ _ hr, hdue, hrest⟩

end Kept

/-- What a task has come to is kept by every move. -/
theorem Step.results_kept (hm : Step s m t) : s.KeptIn t := by
  intro i r h
  cases hm with
  | readRequest =>
      have hi := (List.getElem?_eq_some_iff.mp h).1
      change (s.results ++ [none])[i]? = _
      rwa [List.getElem?_append_left hi]
  | @finish task r' hresult =>
      change (s.results.set task (some r'))[i]? = _
      have hne : task ≠ i := by
        rintro rfl
        rw [h] at hresult
        cases hresult
      rwa [List.getElem?_set_ne hne]
  | _ => exact h

/-- The output of a session: the answers of the first tasks, and a part of the next answer while
that is being written or if the writer has failed. -/
inductive Delivered (s : State) : Prop
  | whole (hwriter : ∀ rest, s.writer ≠ .writing rest) (h : s.Written [])
  | cut {part rest : List UInt8}
      (hwriter : s.writer = .writing rest ∨ ∃ c, s.writer = .failed c)
      (h : s.Written part) (hbegun : s.Begun part rest)

namespace Delivered

theorem start (lines : List Arrival) : Delivered (.start lines) :=
  .whole (by simp [State.start]) ⟨[], rfl, by simp [State.Knows], rfl⟩

/-- A writer that is not writing has written answers as a whole, unless it has failed. -/
theorem written (h : Delivered s) (hwriting : ∀ rest, s.writer ≠ .writing rest)
    (hfailed : ∀ c, s.writer ≠ .failed c) : s.Written [] := by
  cases h with
  | whole _ h => exact h
  | cut hwriter =>
      obtain hw | ⟨c, hc⟩ := hwriter
      · exact absurd hw (hwriting _)
      · exact absurd hc (hfailed c)

theorem begun (h : Delivered s) (hwriter : s.writer = .writing rest) :
    ∃ part, s.Written part ∧ s.Begun part rest := by
  cases h with
  | whole hwhole => exact absurd hwriter (hwhole rest)
  | cut hcut h hbegun =>
      obtain hw | ⟨c, hc⟩ := hcut
      · rw [hwriter] at hw
        cases hw
        exact ⟨_, h, hbegun⟩
      · rw [hwriter] at hc
        cases hc

theorem kept (h : Delivered s) (hresults : s.KeptIn t) (hanswered : t.answered = s.answered)
    (houtput : t.output = s.output) (hwriter : t.writer = s.writer) : Delivered t := by
  cases h with
  | whole hw h => exact .whole (by simpa [hwriter] using hw) (h.kept hresults hanswered houtput)
  | cut hw h hbegun =>
      exact .cut (by simpa [hwriter] using hw) (h.kept hresults hanswered houtput)
        (hbegun.kept hresults hanswered)

theorem step (hturn : InTurn s) (h : Delivered s) (hm : Step s m t) : Delivered t := by
  have hresults := hm.results_kept
  cases hm with
  | readEnd | readFault | readBlank | readRequest | send | turnAway | finish =>
      exact h.kept hresults rfl rfl rfl
  | receive hwriter | flush hwriter | flushFault hwriter =>
      have hwritten := h.written (by simp [hwriter]) (by simp [hwriter])
      exact .whole (by simp) (hwritten.kept hresults rfl rfl)
  | @compose task r hwriter hresult =>
      have hwritten := h.written (by simp [hwriter]) (by simp [hwriter])
      -- The task that was waited for is the next one, so that its answer comes next.
      rw [hturn.awaited task hwriter] at hresult
      exact .cut (.inl rfl) (hwritten.kept hresults rfl rfl)
        ⟨r, hresult, r.octets_eq_due.symm, r.octets_ne_nil⟩
  | @writeRest rest hwriter hrest =>
      obtain ⟨part, ⟨done, hlength, hknows, hout⟩, r, hresult, hdue, -⟩ := h.begun hwriter
      rw [← hlength] at hresult
      refine .whole (by simp) ⟨done ++ [r], by simp [hlength], hknows.concat hresult, ?_⟩
      simp only [State.output] at hout
      simp [State.output, hout, transcript, hdue]
  | @writePart rest n hwriter hpos hlt =>
      obtain ⟨part, ⟨done, hlength, hknows, hout⟩, r, hresult, hdue, -⟩ := h.begun hwriter
      have hleft : rest.drop n ≠ [] := by simpa using Nat.not_le_of_lt hlt
      have hsplit : r.due = (part ++ rest.take n) ++ rest.drop n := by simpa using hdue
      refine .cut (.inl rfl) ⟨done, hlength, hknows, ?_⟩ ⟨r, hresult, hsplit, hleft⟩
      simp only [State.output] at hout
      simp [State.output, hout]
  | refuse hwriter =>
      obtain ⟨part, hwritten, hbegun⟩ := h.begun hwriter
      exact .cut (.inr ⟨_, rfl⟩) (hwritten.kept hresults rfl rfl) (hbegun.kept hresults rfl)

end Delivered

theorem Reaches.delivered (h : Reaches (.start lines) moves s) : Delivered s := by
  -- The order of the tasks is part of the invariant, since a step needs it.
  have hboth : InTurn s ∧ Delivered s :=
    h.preserves (P := fun s => InTurn s ∧ Delivered s)
      (fun h hm => ⟨h.1.step hm, .step h.1 h.2 hm⟩) ⟨inTurn_start lines, .start lines⟩
  exact hboth.2

/-- What tasks have come to is part of what all tasks come to in the end. -/
def State.AgreesWith (s : State) (a : List TaskResult) : Prop :=
  ∀ (i : Nat) (r : TaskResult), s.results[i]? = some (some r) → a[i]? = some r

theorem State.Knows.isPrefix {done a : List TaskResult} (h : s.Knows done) (ha : s.AgreesWith a) :
    done <+: a :=
  List.prefix_iff_getElem?.mpr fun i hi => ha i _ (h i _ (List.getElem?_eq_getElem hi))

/-- **The output is a beginning of the answers that the tasks come to.** -/
theorem Delivered.output_begins (h : Delivered s) {a : List TaskResult} (ha : s.AgreesWith a) :
    s.output <+: transcript a := by
  cases h with
  | whole _ h =>
      obtain ⟨done, -, hknows, hout⟩ := h
      rw [hout, List.append_nil]
      exact transcript_mono (hknows.isPrefix ha)
  | cut _ h hbegun =>
      obtain ⟨done, hlength, hknows, hout⟩ := h
      obtain ⟨r, hresult, hdue, -⟩ := hbegun
      rw [← hlength] at hresult
      refine List.IsPrefix.trans ?_ (transcript_mono ((hknows.concat hresult).isPrefix ha))
      simp [hout, transcript, hdue]

theorem Step.output_grows (hm : Step s m t) : s.output <+: t.output := by
  cases hm with
  | writeRest | writePart => simp [State.output]
  | _ => exact List.prefix_rfl

/-- What the output has taken stays: no move takes octets back or changes them. -/
theorem Reaches.output_grows (h : Reaches s moves t) : s.output <+: t.output :=
  h.preserves (P := fun x => s.output <+: x.output)
    (fun hx hrule => hx.trans hrule.output_grows) List.prefix_rfl

/-! ## What the moves tell -/

theorem Reaches.of_finish (h : Reaches s moves t) {i : Nat} {r : TaskResult}
    (hm : .finish i r ∈ moves) : t.results[i]? = some (some r) := by
  obtain ⟨_, u, v, _, -, hrule, hafter⟩ := h.split hm
  refine hafter.preserves (P := fun x => x.results[i]? = some (some r))
    (fun hx hrule => hrule.results_kept i r hx) ?_
  cases hrule with
  | finish hresult => exact List.getElem?_set_self (List.getElem?_eq_some_iff.mp hresult).1

theorem Step.finish_of_result (hm : Step s m t) {i : Nat} {r : TaskResult}
    (h : t.results[i]? = some (some r)) :
    s.results[i]? = some (some r) ∨ m = .finish i r := by
  cases hm with
  | readRequest =>
      change (s.results ++ [none])[i]? = _ at h
      rw [List.getElem?_append] at h
      split at h
      · exact .inl h
      · exact absurd (List.mem_of_getElem? h) (by simp)
  | @finish task r' hresult =>
      change (s.results.set task (some r'))[i]? = _ at h
      by_cases hi : task = i
      · subst hi
        rw [List.getElem?_set_self (List.getElem?_eq_some_iff.mp hresult).1] at h
        cases h
        exact .inr rfl
      · rw [List.getElem?_set_ne hi] at h
        exact .inl h
  | _ => exact .inl h

/-- **What a task has come to is the result with which it finished.** -/
theorem Reaches.finish_mem_iff (h : Reaches (.start lines) moves s) {i : Nat} {r : TaskResult} :
    .finish i r ∈ moves ↔ s.results[i]? = some (some r) := by
  refine ⟨h.of_finish, fun hr => ?_⟩
  obtain ⟨m, hm, rfl⟩ := h.caused (P := fun x => x.results[i]? = some (some r))
    (fun _ hrule => hrule.finish_of_result) (by simp [State.start]) hr
  exact hm

/-- A writer that has failed does nothing more. -/
theorem Step.failed_kept (hm : Step s m t) {c : String} (hwriter : s.writer = .failed c) :
    t.writer = .failed c ∧ t.answered = s.answered ∧ t.output = s.output := by
  cases hm <;> simp_all [State.output]

/-- **An output that complains makes the writer fail.** -/
theorem Reaches.failed_of_complaint (h : Reaches s moves t) (hm : m ∈ moves) {c : String}
    (hc : m.complaint? = some c) : t.writer = .failed c := by
  obtain ⟨_, u, v, _, -, hrule, hafter⟩ := h.split hm
  refine hafter.preserves (P := fun x => x.writer = .failed c)
    (fun hx hrule => (hrule.failed_kept hx).1) ?_
  cases hrule with
  | refuse | flushFault => cases hc; rfl
  | _ => cases hc

theorem Reaches.complaint_of_failed (h : Reaches (.start lines) moves s) {c : String}
    (hwriter : s.writer = .failed c) : ∃ m ∈ moves, m.complaint? = some c := by
  refine h.caused (P := fun x => x.writer = .failed c) (fun _ hrule hv => ?_)
    (by simp [State.start]) hwriter
  cases hrule with
  | receive | compose | writeRest | writePart | flush => cases hv
  | refuse | flushFault => cases hv; exact .inr rfl
  | _ => exact .inl hv

/-- The writer of a reader that is reading, or has been turned away, fails by a refusal: the
output is not flushed before the reading ends. -/
theorem Reaches.refuse_of_failed (h : Reaches (.start lines) moves s) {c : String}
    (hwriter : s.writer = .failed c) (hreader : s.reader = .reading ∨ s.reader = .turnedAway) :
    .refuse c ∈ moves := by
  have hcause : ∃ m ∈ moves, m = .refuse c := by
    refine h.caused
      (P := fun x => x.writer = .failed c ∧ (x.reader = .reading ∨ x.reader = .turnedAway))
      (fun hbefore hrule hv => ?_) (by simp [State.start]) ⟨hwriter, hreader⟩
    cases hrule with
    | readEnd | readFault => simp at hv
    | turnAway hreading => exact .inl ⟨hv.1, .inl hreading⟩
    | receive | compose | writeRest | writePart | flush => cases hv.1
    | refuse => cases hv.1; exact .inr rfl
    | flushFault hidle _ hread =>
        obtain hreading | haway := hv.2
        · exact absurd hreading hread
        · exact absurd haway (hbefore.inTurn.not_turnedAway (by simp [hidle]))
    | _ => exact .inl hv
  obtain ⟨m, hm, rfl⟩ := hcause
  exact hm

/-- **An output that refuses has cut one answer short.** -/
theorem Reaches.of_refuse (h : Reaches (.start lines) moves s) {c : String}
    (hm : .refuse c ∈ moves) : ∃ part rest, s.Written part ∧ s.Begun part rest := by
  obtain ⟨_, u, v, _, hbefore, hrule, hafter⟩ := h.split hm
  cases hrule with
  | refuse hwriter =>
      obtain ⟨part, hwritten, hbegun⟩ := hbefore.delivered.begun hwriter
      -- A writer that has failed stays so, and what it has cut short as well.
      have hcut : s.writer = .failed c ∧ s.Written part ∧ s.Begun part _ :=
        hafter.preserves
          (P := fun x => x.writer = .failed c ∧ x.Written part ∧ x.Begun part _)
          (fun hx hrule => by
            obtain ⟨hfailed, hanswered, houtput⟩ := hrule.failed_kept hx.1
            exact ⟨hfailed, hx.2.1.kept hrule.results_kept hanswered houtput,
              hx.2.2.kept hrule.results_kept hanswered⟩)
          ⟨rfl, hwritten, hbegun⟩
      exact ⟨part, _, hcut.2⟩

/-! ## What a session comes to -/

theorem State.result?_eq_ok_iff {n : Nat} :
    s.result? = some (.ok n) ↔
      (s.reader = .ended ∨ s.reader = .turnedAway) ∧ s.writer = .ended ∧ s.answered = n := by
  unfold result?
  cases s.reader <;> cases s.writer <;> simp

theorem State.result?_eq_error_iff {c : String} :
    s.result? = some (.error c) ↔ s.reader = .failed c ∨
      (s.reader = .ended ∨ s.reader = .turnedAway) ∧ s.writer = .failed c := by
  unfold result?
  cases s.reader <;> cases s.writer <;> simp

theorem InTurn.answered_all (h : InTurn s) (hwriter : s.writer = .ended) :
    s.answered = s.requests.length := by
  obtain ⟨hreader, hchannel⟩ := h.ended hwriter
  obtain ⟨n, hwaiting, hcount⟩ :=
    h.waiting_of_taken (k := s.answered) (by simp [hwriter]) (by simp [State.taken, hwriter])
  rw [hchannel, h.offered hreader] at hwaiting
  have hnone : n = 0 := by simpa using (congrArg List.length hwaiting).symm
  omega

theorem State.Knows.results_eq {a : List TaskResult} (h : s.Knows a)
    (hlength : a.length = s.results.length) : s.results = a.map some := by
  apply List.ext_getElem?
  intro i
  cases ha : a[i]? with
  | some r => simp [ha, h i r ha]
  | none =>
      have hge := List.getElem?_eq_none_iff.mp ha
      simp [ha, List.getElem?_eq_none (hlength ▸ hge)]

/-- **A session that comes to a number has read all lines and written all answers.** -/
theorem Reaches.of_result_ok (h : Reaches (.start lines) moves s) {n : Nat}
    (hresult : s.result? = some (.ok n)) :
    s.reader = .ended ∧
      (∃ texts : List String, lines = texts.map .line ∧ s.requests = nonBlank texts ∧
        n = (nonBlank texts).length) ∧
      ∃ a : List TaskResult, a.length = n ∧ (∀ i r, .finish i r ∈ moves ↔ a[i]? = some r) ∧
        s.output = transcript a := by
  obtain ⟨hreader, hwriter, rfl⟩ := State.result?_eq_ok_iff.mp hresult
  have hended : s.reader = .ended :=
    hreader.resolve_right (h.inTurn.not_turnedAway (by simp [hwriter]))
  obtain ⟨texts, hlines, hrequests⟩ := h.readInOrder.all_read (h.readInOrder.ended hended)
  have hall := h.inTurn.answered_all hwriter
  obtain ⟨done, hlength, hknows, hout⟩ :=
    h.delivered.written (by simp [hwriter]) (by simp [hwriter])
  have hresults : s.results = done.map some :=
    hknows.results_eq (by rw [hlength, hall, h.readInOrder.results])
  refine ⟨hended, ⟨texts, hlines, hrequests, hrequests ▸ hall⟩, done, hlength,
    fun i r => ?_, by rw [hout, List.append_nil]⟩
  rw [h.finish_mem_iff, hresults, List.getElem?_map]
  simp

end Transport
end SeriesCatalog
