import SeriesCatalog.Proofs.Transport.Transcript

/-!
# Sessions come to an end

As long as a session has come to nothing, one of its parts can move, and no schedule lets the
parts move for ever.

* `State.effort`: a bound of the moves that are left if every part moves as soon as it can.
* `State.rank`: what decreases with each move, in lexicographic order.

Results:
* `Reaches.exists_move`: a session that has come to nothing is not stuck.
* `Reaches.drive`, `reaches_serve`: the session in which every part moves as soon as it can
  is one of the sessions there are, and the bound of its moves is large enough.
* `wellFounded_step`: there is no infinite schedule.
-/

namespace SeriesCatalog
namespace Transport

variable {lines : List Arrival} {s t : State} {m : Move} {moves : List Move} {c : Conduct}

/-! ## A next move -/

theorem Conduct.mem_moves_of_writer (h : m ∈ c.writerMoves s) : m ∈ c.moves s :=
  List.mem_append_left _ h

/-- A writer that has not ended can move, unless it waits for a task to be sent. -/
theorem Reaches.exists_writer_move (h : Reaches (.start lines) moves s) (c : Conduct)
    (hended : s.writer ≠ .ended) (hfailed : ∀ complaint, s.writer ≠ .failed complaint)
    (hidle : s.writer = .idle → s.channel ≠ []) : ∃ m ∈ c.moves s, ∃ t, Step s m t := by
  cases hwriter : s.writer with
  | idle =>
      obtain ⟨task, l, hchannel⟩ := List.exists_cons_of_ne_nil (hidle hwriter)
      exact ⟨.receive, Conduct.mem_moves_of_writer (by simp [Conduct.writerMoves, hwriter]), _,
        .receive hwriter hchannel⟩
  | awaiting task =>
      obtain ⟨n, -, hcount⟩ := h.inTurn.waiting (by simp [hwriter])
      have htask : task < s.requests.length := by
        rw [h.inTurn.awaited task hwriter]
        simp only [State.taken, hwriter, held_awaiting] at hcount
        omega
      have hrequest := List.getElem?_eq_getElem htask
      obtain ⟨result?, hresult⟩ : ∃ result?, s.results[task]? = some result? :=
        ⟨_, List.getElem?_eq_getElem (h.readInOrder.results ▸ htask)⟩
      -- The task that the writer waits for has finished, or it can finish now.
      cases result? with
      | none =>
          exact ⟨.finish task (c.answer s.requests[task]), Conduct.mem_moves_of_writer
            (by simp [Conduct.writerMoves, hwriter, hrequest]), _, .finish hresult⟩
      | some r =>
          exact ⟨.compose, Conduct.mem_moves_of_writer
            (by simp [Conduct.writerMoves, hwriter, hrequest]), _, .compose hwriter hresult⟩
  | writing rest =>
      obtain ⟨_, -, -, -, -, hrest⟩ := h.delivered.begun hwriter
      cases hrefusal : c.refusal? with
      | none =>
          exact ⟨.write rest.length, Conduct.mem_moves_of_writer
            (by simp [Conduct.writerMoves, hwriter, hrefusal]), _, .writeRest hwriter hrest⟩
      | some complaint =>
          exact ⟨.refuse complaint, Conduct.mem_moves_of_writer
            (by simp [Conduct.writerMoves, hwriter, hrefusal]), _, .refuse hwriter⟩
  | ended => exact absurd hwriter hended
  | failed complaint => exact absurd hwriter (hfailed complaint)

theorem State.not_reading_of_result?_eq_none (h : s.result? = none)
    (hreader : s.reader ≠ .reading) :
    s.writer ≠ .ended ∧ ∀ complaint, s.writer ≠ .failed complaint := by
  unfold result? at h
  cases hr : s.reader <;> cases hw : s.writer <;> simp_all

/-- **A session that has come to nothing is not stuck.** -/
theorem Reaches.exists_move (h : Reaches (.start lines) moves s) (c : Conduct)
    (hresult : s.result? = none) : ∃ m ∈ c.moves s, ∃ t, Step s m t := by
  have hmem : ∀ m ∈ [Move.send, .read, .flush none], m ∈ c.moves s :=
    fun m hm => List.mem_append_right _ hm
  by_cases hreader : s.reader = .reading
  · have hended : s.writer ≠ .ended := fun hw => (h.inTurn.ended hw).1 hreader
    cases hoffered : s.offered? with
    | none =>
        -- The reader can read the next line, or find that there is none.
        refine ⟨.read, hmem _ (by simp), ?_⟩
        cases hunread : s.unread with
        | nil => exact ⟨_, .readEnd hreader hoffered hunread⟩
        | cons x l =>
            cases x with
            | unreadable complaint => exact ⟨_, .readFault hreader hoffered hunread⟩
            | line x =>
                cases hblank : Text.isBlankText x with
                | true => exact ⟨_, .readBlank hreader hoffered hunread hblank⟩
                | false => exact ⟨_, .readRequest hreader hoffered hunread hblank⟩
    | some task =>
        by_cases hfailed : ∃ complaint, s.writer = .failed complaint
        · obtain ⟨complaint, hwriter⟩ := hfailed
          exact ⟨.send, hmem _ (by simp), _, .turnAway hreader hoffered hwriter⟩
        · have hworking : ∀ complaint, s.writer ≠ .failed complaint :=
            fun complaint hw => hfailed ⟨complaint, hw⟩
          by_cases hroom : s.channel.length < channelCapacity
          · exact ⟨.send, hmem _ (by simp), _, .send hreader hoffered hworking hroom⟩
          · -- The channel is full, so that the writer has something to do.
            refine h.exists_writer_move c hended hworking fun _ hchannel => hroom ?_
            rw [hchannel]
            decide
  · obtain ⟨hended, hworking⟩ := State.not_reading_of_result?_eq_none hresult hreader
    by_cases hidle : s.writer = .idle ∧ s.channel = []
    · exact ⟨.flush none, hmem _ (by simp), _, .flush hidle.1 hidle.2 hreader⟩
    · exact h.exists_writer_move c hended hworking fun hw hchannel => hidle ⟨hw, hchannel⟩

/-! ## Every part moves as soon as it can -/

/-- The moves that the writer has left, apart from taking tasks. -/
def State.writerEffort (s : State) : Nat :=
  match s.writer with
  | .idle => 1
  | .awaiting task =>
      match s.results[task]? with
      | some (some _) => 3
      | _ => 4
  | .writing _ => 2
  | _ => 0

/-- A bound of the moves that are left if every part moves as soon as it can. -/
def State.effort (s : State) : Nat :=
  -- A request is read, sent, received, finished, composed and written: six moves.
  6 * s.unread.length + (if s.reader = .reading then 1 else 0) + 5 * s.offered?.toList.length
    + 4 * s.channel.length + s.writerEffort

theorem State.writerEffort_le (s : State) : s.writerEffort ≤ 4 := by
  unfold writerEffort
  split
  · decide
  · split <;> decide
  · decide
  · decide

/-- A new task is not the one that the writer waits for. -/
theorem State.writerEffort_concat (s : State) (unread : List Arrival) (requests : List String)
    (offered? : Option Nat) :
    { s with
      unread := unread, requests := requests, results := s.results ++ [none]
      offered? := offered? }.writerEffort = s.writerEffort := by
  cases hwriter : s.writer with
  | awaiting task =>
      have hsame : ∀ r, (s.results ++ [none])[task]? = some (some r) ↔
          s.results[task]? = some (some r) := by
        intro r
        rw [List.getElem?_append]
        split
        · rfl
        · rename_i hge
          simp [List.getElem?_singleton, List.getElem?_eq_none (Nat.le_of_not_lt hge)]
      simp only [writerEffort, hwriter]
      split <;> split <;> simp_all
  | _ => simp [writerEffort, hwriter]

/-- The task that finishes is the one that the writer waits for, with the answer to its
request. -/
theorem Conduct.of_finish {task : Nat} {r : TaskResult} (hm : .finish task r ∈ c.moves s) :
    s.writer = .awaiting task ∧ ∃ x, s.requests[task]? = some x ∧ r = c.answer x := by
  simp only [moves, writerMoves] at hm
  cases hwriter : s.writer with
  | awaiting other => cases hrequest : s.requests[other]? <;> simp_all
  | writing rest => cases hrefusal : c.refusal? <;> simp_all
  | _ => simp [hwriter] at hm

theorem Conduct.count_of_write {n : Nat} {rest : List UInt8} (hm : .write n ∈ c.moves s)
    (hwriter : s.writer = .writing rest) : n = rest.length := by
  simp only [moves, writerMoves, hwriter] at hm
  cases hrefusal : c.refusal? <;> simp_all

/-- Each of the moves that are tried leaves fewer moves. -/
theorem Step.effort_lt (h : Step s m t) (hm : m ∈ c.moves s) : t.effort < s.effort := by
  cases h with
  | readEnd hreader | readFault hreader =>
      simp [State.effort, State.writerEffort, hreader]
  | readBlank hreader hoffered hunread =>
      simp [State.effort, State.writerEffort, hunread]
  | readRequest hreader hoffered hunread =>
      have hwriter := State.writerEffort_concat s
      simp only [State.effort, hwriter, hunread, hoffered, List.length_cons,
        Option.toList_some, Option.toList_none, List.length_nil]
      omega
  | send hreader hoffered =>
      simp only [State.effort, State.writerEffort, hoffered, List.length_append, List.length_cons,
        Option.toList_some, Option.toList_none, List.length_nil]
      omega
  | turnAway hreader hoffered =>
      simp only [State.effort, State.writerEffort, hoffered, hreader]
      simp
      omega
  | @finish task r hresult =>
      obtain ⟨hwriter, -⟩ := Conduct.of_finish hm
      have hset : (s.results.set task (some r))[task]? = some (some r) :=
        List.getElem?_set_self (List.getElem?_eq_some_iff.mp hresult).1
      simp [State.effort, State.writerEffort, hwriter, hresult, hset]
  | @receive task l hwriter hchannel =>
      have hbound := State.writerEffort_le { s with writer := .awaiting task, channel := l }
      have hidle : s.writerEffort = 1 := by simp [State.writerEffort, hwriter]
      simp only [State.effort, hchannel, hidle, List.length_cons]
      omega
  | compose hwriter hresult => simp [State.effort, State.writerEffort, hwriter, hresult]
  | writeRest hwriter | refuse hwriter => simp [State.effort, State.writerEffort, hwriter]
  | writePart hwriter hpos hlt =>
      exact absurd (Conduct.count_of_write hm hwriter) (Nat.ne_of_lt hlt)
  | flush hwriter | flushFault hwriter => simp [State.effort, State.writerEffort, hwriter]

/-- A conduct tries a move in some state of a session. -/
def Conduct.Tries (c : Conduct) (lines : List Arrival) (m : Move) : Prop :=
  ∃ moves s, Reaches (.start lines) moves s ∧ m ∈ c.moves s

theorem Reaches.result_of_stuck (h : Reaches (.start lines) moves s)
    (hstuck : ∀ m ∈ c.moves s, s.step m = none) : s.result? ≠ none := by
  intro hresult
  obtain ⟨m, hm, t, hrule⟩ := h.exists_move c hresult
  have hnone := hstuck m hm
  rw [State.step_of_rule hrule] at hnone
  cases hnone

/-- A session may be carried on so that every part moves as soon as it can, and then comes to
something. -/
theorem Reaches.drive (c : Conduct) :
    ∀ {n : Nat} {moves : List Move} {s : State}, Reaches (.start lines) moves s →
      s.effort ≤ n →
      ∃ more, Reaches (.start lines) (moves ++ more) (Transport.drive c n s) ∧
        (∀ m ∈ more, c.Tries lines m) ∧ (Transport.drive c n s).result? ≠ none
  | 0, moves, s, h, hn => by
      have hstuck : ∀ m ∈ c.moves s, s.step m = none := by
        intro m hm
        cases hstep : s.step m with
        | none => rfl
        | some t =>
            have hlt := (State.step_eq_some_iff.mp hstep).effort_lt hm
            omega
      exact ⟨[], by simpa [Transport.drive] using h, by simp, h.result_of_stuck hstuck⟩
  | n + 1, moves, s, h, hn => by
      rw [Transport.drive]
      cases hnext : (c.moves s).findSome? s.step with
      | none =>
          exact ⟨[], by simpa using h, by simp,
            h.result_of_stuck (List.findSome?_eq_none_iff.mp hnext)⟩
      | some t =>
          obtain ⟨m, hm, hstep⟩ := List.exists_of_findSome?_eq_some hnext
          have hlt := (State.step_eq_some_iff.mp hstep).effort_lt hm
          obtain ⟨more, hreaches, hmoves, hresult⟩ :=
            Reaches.drive c (n := n) (h.move hstep) (by omega)
          refine ⟨m :: more, by simpa using hreaches, fun m' hm' => ?_, hresult⟩
          obtain rfl | hrest := List.mem_cons.mp hm'
          · exact ⟨moves, s, h, hm⟩
          · exact hmoves m' hrest

/-- **The session in which every part moves as soon as it can is a session like others, and it
comes to something.** -/
theorem reaches_serve (c : Conduct) (lines : List Arrival) :
    ∃ moves, Reaches (.start lines) moves (serve c lines) ∧
      (∀ m ∈ moves, c.Tries lines m) ∧ (serve c lines).result? ≠ none := by
  have heffort : (State.start lines).effort ≤ moveBound lines.length := by
    simp [State.effort, State.writerEffort, State.start, moveBound]
  simpa [serve] using (Reaches.refl (.start lines)).drive c heffort

/-! ## No schedule goes on for ever -/

namespace WriterState

/-- Whether the writer waits for a task, as a number. -/
def waits : WriterState → Nat
  | awaiting _ => 1
  | _ => 0

/-- What the writer has left to do without a task. -/
def load : WriterState → Nat
  | idle => 1
  | writing rest => rest.length + 1
  | _ => 0

end WriterState

/-- What the parts of a session have left: lines to read, tasks to hand over, tasks to finish,
and octets to write. -/
def State.rank (s : State) : Nat × Nat × Nat × Nat :=
  (s.unread.length + (if s.reader = .reading then 1 else 0),
    -- A task goes from the offer to the channel, and from there to the writer.
    3 * s.offered?.toList.length + 2 * s.channel.length + s.writer.waits,
    s.results.countP (·.isNone),
    s.writer.load)

/-- The lexicographic order of ranks. -/
abbrev State.RankLt : Nat × Nat × Nat × Nat → Nat × Nat × Nat × Nat → Prop :=
  Prod.Lex (· < ·) (Prod.Lex (· < ·) (Prod.Lex (· < ·) (· < ·)))

/-- A move of the writer that takes no task leaves less if the writer has less left. -/
theorem State.rank_lt_of_writer {w : WriterState} (pieces : List (List UInt8)) (answered : Nat)
    (hwaits : w.waits = s.writer.waits) (hload : w.load < s.writer.load) :
    State.RankLt { s with pieces := pieces, answered := answered, writer := w }.rank s.rank := by
  simp only [State.rank, hwaits]
  exact .right _ (.right _ (.right _ hload))

theorem Step.rank_lt (h : Step s m t) : State.RankLt t.rank s.rank := by
  cases h with
  | readEnd hreader | readFault hreader | turnAway hreader =>
      exact .left _ _ (by simp [hreader])
  | readBlank hreader hoffered hunread | readRequest hreader hoffered hunread =>
      exact .left _ _ (by simp [hunread])
  | send hreader hoffered =>
      refine .right _ (.left _ _ ?_)
      simp only [hoffered, Option.toList_none, Option.toList_some, List.length_append,
        List.length_singleton, List.length_nil]
      omega
  | receive hwriter hchannel =>
      refine .right _ (.left _ _ ?_)
      simp only [hwriter, hchannel, List.length_cons, WriterState.waits]
      omega
  | compose hwriter => exact .right _ (.left _ _ (by simp [hwriter, WriterState.waits]))
  | finish hresult =>
      obtain ⟨hlt, hnone⟩ := List.getElem?_eq_some_iff.mp hresult
      have hpos : 0 < s.results.countP (·.isNone) :=
        List.countP_pos_iff.mpr ⟨none, hnone ▸ List.getElem_mem hlt, rfl⟩
      refine .right _ (.right _ (.left _ _ ?_))
      rw [List.countP_set hlt, hnone]
      simp only [Option.isNone_none, Option.isNone_some, if_true, Bool.false_eq_true, if_false]
      omega
  | writeRest hwriter hrest =>
      refine State.rank_lt_of_writer _ _ (by simp [hwriter, WriterState.waits]) ?_
      simpa [hwriter, WriterState.load] using List.length_pos_iff.mpr hrest
  | writePart hwriter hpos hlt =>
      refine State.rank_lt_of_writer _ _ (by simp [hwriter, WriterState.waits]) ?_
      simp only [hwriter, WriterState.load, List.length_drop]
      omega
  | refuse hwriter | flush hwriter | flushFault hwriter =>
      exact State.rank_lt_of_writer _ _ (by simp [hwriter, WriterState.waits])
        (by simp [hwriter, WriterState.load])

/-- **There is no infinite schedule.** -/
theorem wellFounded_step : WellFounded fun t s : State => ∃ m, s.step m = some t := by
  refine Subrelation.wf ?_ (InvImage.wf State.rank (WellFoundedRelation.wf))
  rintro t s ⟨m, hm⟩
  exact (State.step_eq_some_iff.mp hm).rank_lt

end Transport
end SeriesCatalog
