import SeriesCatalog.Proofs.Transport.Steps

/-!
# The order of requests and tasks

The reader starts a task for each request, in the order of the lines, and the writer takes the
tasks in the order of their numbers, whatever the order of the moves is.

* `ReadInOrder`: the requests so far are those of the lines that have been read.
* `InTurn`: the tasks that wait are the next ones after those that the writer has taken.

Results:
* `Reaches.readInOrder`, `Reaches.inTurn`: both hold in every state of a session.
-/

namespace SeriesCatalog
namespace Transport

variable {lines : List Arrival} {s t u : State} {m : Move} {moves : List Move}

/-! ## Runs -/

/-- What every rule preserves holds in every state that is reached. -/
theorem Reaches.preserves {P : State → Prop}
    (hrule : ∀ {s m t}, P s → Step s m t → P t) (h : Reaches s moves t) (hs : P s) : P t := by
  induction h with
  | refl => exact hs
  | move _ hm ih => exact hrule ih (State.step_eq_some_iff.mp hm)

/-- A move of a session is made in some state, from which the session goes on. -/
theorem Reaches.split (h : Reaches s moves t) (hm : m ∈ moves) :
    ∃ before u v after, Reaches s before u ∧ Step u m v ∧ Reaches v after t := by
  induction h with
  | refl => cases hm
  | move hrun hlast ih =>
      obtain hearlier | hnow := List.mem_append.mp hm
      · obtain ⟨before, u, v, after, hu, hrule, hv⟩ := ih hearlier
        exact ⟨before, u, v, _, hu, hrule, hv.move hlast⟩
      · obtain rfl := List.mem_singleton.mp hnow
        exact ⟨_, _, _, [], hrun, State.step_eq_some_iff.mp hlast, .refl _⟩

/-- What is so in the end, and was not so at the start, comes from a move. -/
theorem Reaches.caused {P : State → Prop} {Q : Move → Prop}
    (hrule : ∀ {before u m v}, Reaches s before u → Step u m v → P v → P u ∨ Q m)
    (h : Reaches s moves t) (hs : ¬P s) (ht : P t) : ∃ m ∈ moves, Q m := by
  induction h with
  | refl => exact absurd ht hs
  | move hrun hlast ih =>
      obtain hearlier | hnow := hrule hrun (State.step_eq_some_iff.mp hlast) ht
      · obtain ⟨m, hm, hQ⟩ := ih hearlier
        exact ⟨m, List.mem_append_left _ hm, hQ⟩
      · exact ⟨_, List.mem_append_right _ List.mem_cons_self, hnow⟩

theorem Reaches.cons (h : Reaches t moves u) (hm : s.step m = some t) :
    Reaches s (m :: moves) u := by
  induction h with
  | refl => exact (Reaches.refl s).move hm
  | move _ hlast ih => exact ih.move hlast

/-- Moves that are possible one after the other are a session. -/
theorem reaches_of_foldlM :
    ∀ {moves : List Move} {s t : State}, moves.foldlM State.step s = some t → Reaches s moves t
  | [], s, t, h => by
      cases h
      exact .refl s
  | m :: moves, s, t, h => by
      obtain ⟨u, hm, hu⟩ := Option.bind_eq_some_iff.mp h
      exact (reaches_of_foldlM hu).cons hm

/-- What moves lead to can be computed. -/
theorem exists_reaches {β : Type} {f : State → β} {x : β}
    (h : (moves.foldlM State.step s).map f = some x) : ∃ t, Reaches s moves t ∧ f t = x := by
  obtain ⟨t, ht, hx⟩ := Option.map_eq_some_iff.mp h
  exact ⟨t, reaches_of_foldlM ht, hx⟩

/-! ## Reading -/

/-- The lines that are not blank. -/
def nonBlank (texts : List String) : List String :=
  texts.filter fun t => !Text.isBlankText t

theorem requestLines_append (texts : List String) (l : List Arrival) :
    requestLines (texts.map .line ++ l) = nonBlank texts ++ requestLines l := by
  induction texts with
  | nil => rfl
  | cons t texts ih =>
      rw [nonBlank] at ih
      cases ht : Text.isBlankText t with
      | false => simp [requestLines, nonBlank, ht, ih]
      | true => simp [requestLines, nonBlank, ht, ih]

theorem requestLines_map_line (texts : List String) :
    requestLines (texts.map .line) = nonBlank texts := by
  simpa [requestLines] using requestLines_append texts []

/-- What has been read are lines of text, and the tasks are for those that are not blank. -/
structure ReadInOrder (lines : List Arrival) (s : State) : Prop where
  read : ∃ texts : List String, lines = texts.map .line ++ s.unread ∧
    s.requests = nonBlank texts
  results : s.results.length = s.requests.length
  ended : s.reader = .ended → s.unread = []
  fault : ∀ c, s.reader = .failed c → .unreadable c ∈ s.unread

theorem readInOrder_start (lines : List Arrival) : ReadInOrder lines (.start lines) where
  read := ⟨[], rfl, rfl⟩
  results := rfl
  ended h := by cases h
  fault _ h := by cases h

theorem ReadInOrder.read_concat (h : ReadInOrder lines s) {x : String} {l : List Arrival}
    (hunread : s.unread = .line x :: l) :
    ∃ texts : List String, lines = texts.map .line ++ l ∧
      s.requests ++ nonBlank [x] = nonBlank texts := by
  obtain ⟨texts, hlines, hrequests⟩ := h.read
  exact ⟨texts ++ [x], by simp [hlines, hunread],
    by simp [hrequests, nonBlank, List.filter_append]⟩

theorem ReadInOrder.step (h : ReadInOrder lines s) (hm : Step s m t) : ReadInOrder lines t := by
  cases hm with
  | readEnd hreader hoffered hunread => exact ⟨h.read, h.results, fun _ => hunread, by simp⟩
  | readFault hreader hoffered hunread =>
      refine ⟨h.read, h.results, by simp, fun c hc => ?_⟩
      cases hc
      simp [hunread]
  | readBlank hreader hoffered hunread hblank =>
      obtain ⟨texts, hlines, hrequests⟩ := h.read_concat hunread
      exact ⟨⟨texts, hlines, by simpa [nonBlank, hblank] using hrequests⟩, h.results,
        by simp [hreader], by simp [hreader]⟩
  | readRequest hreader hoffered hunread hblank =>
      obtain ⟨texts, hlines, hrequests⟩ := h.read_concat hunread
      exact ⟨⟨texts, hlines, by simpa [nonBlank, hblank] using hrequests⟩, by simp [h.results],
        by simp [hreader], by simp [hreader]⟩
  | turnAway => exact ⟨h.read, h.results, by simp, by simp⟩
  | finish => exact ⟨h.read, by simp [h.results], h.ended, h.fault⟩
  | _ => exact ⟨h.read, h.results, h.ended, h.fault⟩

theorem Reaches.readInOrder (h : Reaches (.start lines) moves s) : ReadInOrder lines s :=
  h.preserves ReadInOrder.step (readInOrder_start lines)

/-- The tasks are for the first requests of the session. -/
theorem ReadInOrder.requests_begin (h : ReadInOrder lines s) :
    s.requests <+: requestLines lines := by
  obtain ⟨texts, rfl, hrequests⟩ := h.read
  rw [requestLines_append, hrequests]
  exact List.prefix_append _ _

/-- If all lines have been read, they are lines of text, and there is a task for each request. -/
theorem ReadInOrder.all_read (h : ReadInOrder lines s) (hunread : s.unread = []) :
    ∃ texts : List String, lines = texts.map .line ∧ s.requests = nonBlank texts := by
  obtain ⟨texts, hlines, hrequests⟩ := h.read
  exact ⟨texts, by simpa [hunread] using hlines, hrequests⟩

theorem ReadInOrder.fault_mem (h : ReadInOrder lines s) {c : String}
    (hreader : s.reader = .failed c) : .unreadable c ∈ lines := by
  obtain ⟨texts, rfl, -⟩ := h.read
  exact List.mem_append_right _ (h.fault c hreader)

/-! ## Taking turns -/

/-- The number of tasks in the hands of the writer. -/
def WriterState.held : WriterState → Nat
  | .awaiting _ => 1
  | .writing _ => 1
  | _ => 0

@[simp] theorem held_idle : WriterState.idle.held = 0 := rfl

@[simp] theorem held_awaiting (task : Nat) : (WriterState.awaiting task).held = 1 := rfl

@[simp] theorem held_writing (rest : List UInt8) : (WriterState.writing rest).held = 1 := rfl

@[simp] theorem held_ended : WriterState.ended.held = 0 := rfl

/-- The tasks that the writer has taken: those that it has answered, and the one it holds. -/
def State.taken (s : State) : Nat :=
  s.answered + s.writer.held

/-- The tasks that wait, in the channel or offered to it, are all the tasks after those that
the writer has taken.  A writer that has failed takes no more. -/
structure InTurn (s : State) : Prop where
  offered : s.reader ≠ .reading → s.offered? = none
  turnedAway : s.reader = .turnedAway → ∃ c, s.writer = .failed c
  ended : s.writer = .ended → s.reader ≠ .reading ∧ s.channel = []
  awaited : ∀ task, s.writer = .awaiting task → task = s.answered
  waiting : (∀ c, s.writer ≠ .failed c) → ∃ n,
    s.channel ++ s.offered?.toList = List.range' s.taken n ∧ s.taken + n = s.requests.length

theorem inTurn_start (lines : List Arrival) : InTurn (.start lines) where
  offered h := absurd rfl h
  turnedAway h := by cases h
  ended h := by cases h
  awaited _ h := by cases h
  waiting _ := ⟨0, rfl, rfl⟩

/-- A move of the writer leaves the reader alone: it was not turned away before. -/
theorem InTurn.not_turnedAway (h : InTurn s) (hwriter : ∀ c, s.writer ≠ .failed c) :
    s.reader ≠ .turnedAway := by
  intro hreader
  obtain ⟨c, hc⟩ := h.turnedAway hreader
  exact hwriter c hc

theorem InTurn.waiting_of_taken (h : InTurn s) (hwriter : ∀ c, s.writer ≠ .failed c) {k : Nat}
    (htaken : s.taken = k) : ∃ n, s.channel ++ s.offered?.toList = List.range' k n ∧
      k + n = s.requests.length :=
  htaken ▸ h.waiting hwriter

theorem InTurn.step (h : InTurn s) (hm : Step s m t) : InTurn t := by
  cases hm with
  | readEnd hreader hoffered hunread =>
      exact ⟨fun _ => hoffered, by simp, fun hw => absurd hreader (h.ended hw).1, h.awaited,
        h.waiting⟩
  | readFault hreader hoffered hunread =>
      exact ⟨fun _ => hoffered, by simp, fun hw => absurd hreader (h.ended hw).1, h.awaited,
        h.waiting⟩
  | readBlank hreader hoffered hunread hblank =>
      exact ⟨h.offered, h.turnedAway, h.ended, h.awaited, h.waiting⟩
  | readRequest hreader hoffered hunread hblank =>
      -- The new task has the next number, and waits behind all others.
      refine ⟨fun hr => absurd hreader hr, h.turnedAway, h.ended, h.awaited, fun hw => ?_⟩
      obtain ⟨n, hwaiting, hcount⟩ := h.waiting hw
      rw [hoffered, Option.toList_none, List.append_nil] at hwaiting
      refine ⟨n + 1, ?_, ?_⟩
      · change s.channel ++ [s.requests.length] = List.range' s.taken (n + 1)
        rw [List.range'_concat, Nat.one_mul, hwaiting, hcount]
      · change s.taken + (n + 1) = (s.requests ++ _).length
        rw [List.length_append, ← hcount]
        rfl
  | send hreader hoffered hwriter hroom =>
      refine ⟨fun _ => rfl, h.turnedAway, fun hw => absurd hreader (h.ended hw).1, h.awaited,
        fun hw => ?_⟩
      obtain ⟨n, hwaiting, hcount⟩ := h.waiting hw
      rw [hoffered, Option.toList_some] at hwaiting
      exact ⟨n, by rwa [Option.toList_none, List.append_nil], hcount⟩
  | turnAway hreader hoffered hwriter =>
      exact ⟨fun _ => rfl, fun _ => ⟨_, hwriter⟩, fun hw => absurd hreader (h.ended hw).1,
        h.awaited, fun hw => absurd hwriter (hw _)⟩
  | finish => exact ⟨h.offered, h.turnedAway, h.ended, h.awaited, h.waiting⟩
  | @receive task l hwriter hchannel =>
      -- The first task that waits is the next one, and the others wait behind it.
      obtain ⟨n, hwaiting, hcount⟩ :=
        h.waiting_of_taken (k := s.answered) (by simp [hwriter]) (by simp [State.taken, hwriter])
      rw [hchannel] at hwaiting
      cases n with
      | zero => cases hwaiting
      | succ n =>
          rw [List.range'_succ] at hwaiting
          injection hwaiting with htask hrest
          refine ⟨h.offered, fun hr => absurd hr (h.not_turnedAway (by simp [hwriter])), by simp,
            fun _ hw => ?_, fun _ => ⟨n, hrest, ?_⟩⟩
          · cases hw
            exact htask
          · change s.answered + 1 + n = s.requests.length
            omega
  | compose hwriter | writeRest hwriter | writePart hwriter =>
      exact ⟨h.offered, fun hr => absurd hr (h.not_turnedAway (by simp [hwriter])), by simp,
        by simp, fun _ => h.waiting_of_taken (by simp [hwriter]) (by simp [State.taken, hwriter])⟩
  | flush hwriter hchannel hreader =>
      exact ⟨h.offered, fun hr => absurd hr (h.not_turnedAway (by simp [hwriter])),
        fun _ => ⟨hreader, hchannel⟩, by simp,
        fun _ => h.waiting_of_taken (by simp [hwriter]) (by simp [State.taken, hwriter])⟩
  | refuse | flushFault =>
      -- Nothing is said of the tasks that wait for a writer that has failed.
      exact ⟨h.offered, fun _ => ⟨_, rfl⟩, by simp, by simp, fun hw => absurd rfl (hw _)⟩

theorem Reaches.inTurn (h : Reaches (.start lines) moves s) : InTurn s :=
  h.preserves InTurn.step (inTurn_start lines)

end Transport
end SeriesCatalog
