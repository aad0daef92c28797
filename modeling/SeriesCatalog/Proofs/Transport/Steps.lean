import SeriesCatalog.Transport.Session

/-!
# The moves of a session, case by case

A move of a session is possible under conditions on the state, and changes a few parts of it.
Here each case of each move is one rule, so that what the moves preserve is proved rule by rule.

Result: `State.step_eq_some_iff`, the rules are what the function computes.
-/

namespace SeriesCatalog
namespace Transport

/-- The moves that are possible, and what comes of them. -/
inductive Step : State → Move → State → Prop
  | readEnd {s : State} (hreader : s.reader = .reading) (hoffered : s.offered? = none)
      (hunread : s.unread = []) :
      Step s .read { s with reader := .ended }
  | readFault {s : State} {c : String} {l : List Arrival} (hreader : s.reader = .reading)
      (hoffered : s.offered? = none) (hunread : s.unread = .unreadable c :: l) :
      Step s .read { s with reader := .failed c }
  | readBlank {s : State} {t : String} {l : List Arrival} (hreader : s.reader = .reading)
      (hoffered : s.offered? = none) (hunread : s.unread = .line t :: l)
      (hblank : Text.isBlankText t = true) :
      Step s .read { s with unread := l }
  | readRequest {s : State} {t : String} {l : List Arrival} (hreader : s.reader = .reading)
      (hoffered : s.offered? = none) (hunread : s.unread = .line t :: l)
      (hblank : Text.isBlankText t = false) :
      Step s .read
        { s with
          unread := l
          requests := s.requests ++ [t]
          results := s.results ++ [none]
          offered? := some s.requests.length }
  | send {s : State} {task : Nat} (hreader : s.reader = .reading)
      (hoffered : s.offered? = some task) (hwriter : ∀ c, s.writer ≠ .failed c)
      (hroom : s.channel.length < channelCapacity) :
      Step s .send { s with offered? := none, channel := s.channel ++ [task] }
  | turnAway {s : State} {task : Nat} {c : String} (hreader : s.reader = .reading)
      (hoffered : s.offered? = some task) (hwriter : s.writer = .failed c) :
      Step s .send { s with offered? := none, reader := .turnedAway }
  | finish {s : State} {task : Nat} {r : TaskResult} (hresult : s.results[task]? = some none) :
      Step s (.finish task r) { s with results := s.results.set task (some r) }
  | receive {s : State} {task : Nat} {l : List Nat} (hwriter : s.writer = .idle)
      (hchannel : s.channel = task :: l) :
      Step s .receive { s with writer := .awaiting task, channel := l }
  | compose {s : State} {task : Nat} {r : TaskResult} (hwriter : s.writer = .awaiting task)
      (hresult : s.results[task]? = some (some r)) :
      Step s .compose { s with writer := .writing r.octets }
  | writeRest {s : State} {rest : List UInt8} (hwriter : s.writer = .writing rest)
      (hrest : rest ≠ []) :
      Step s (.write rest.length)
        { s with pieces := s.pieces ++ [rest], answered := s.answered + 1, writer := .idle }
  | writePart {s : State} {rest : List UInt8} {n : Nat} (hwriter : s.writer = .writing rest)
      (hpos : 0 < n) (hlt : n < rest.length) :
      Step s (.write n)
        { s with pieces := s.pieces ++ [rest.take n], writer := .writing (rest.drop n) }
  | refuse {s : State} {rest : List UInt8} {c : String} (hwriter : s.writer = .writing rest) :
      Step s (.refuse c) { s with writer := .failed c }
  | flush {s : State} (hwriter : s.writer = .idle) (hchannel : s.channel = [])
      (hreader : s.reader ≠ .reading) :
      Step s (.flush none) { s with writer := .ended }
  | flushFault {s : State} {c : String} (hwriter : s.writer = .idle) (hchannel : s.channel = [])
      (hreader : s.reader ≠ .reading) :
      Step s (.flush (some c)) { s with writer := .failed c }

namespace State

variable {s t : State} {m : Move}

theorem step_of_rule (h : Step s m t) : s.step m = some t := by
  cases h with
  | readEnd hreader hoffered hunread => simp [step, read?, hreader, hoffered, hunread]
  | readFault hreader hoffered hunread => simp [step, read?, hreader, hoffered, hunread]
  | readBlank hreader hoffered hunread hblank =>
      simp [step, read?, hreader, hoffered, hunread, hblank]
  | readRequest hreader hoffered hunread hblank =>
      simp [step, read?, hreader, hoffered, hunread, hblank]
  | send hreader hoffered hwriter hroom => simp [step, send?, hreader, hoffered, hroom]
  | turnAway hreader hoffered hwriter => simp [step, send?, hreader, hoffered, hwriter]
  | finish hresult => simp [step, finish?, hresult]
  | receive hwriter hchannel => simp [step, receive?, hwriter, hchannel]
  | compose hwriter hresult => simp [step, compose?, hwriter, hresult]
  | writeRest hwriter hrest => simp [step, write?, hwriter, hrest]
  | writePart hwriter hpos hlt =>
      simp [step, write?, hwriter, Nat.ne_of_gt hpos, Nat.le_of_lt hlt, Nat.ne_of_lt hlt]
  | refuse hwriter => simp [step, refuse?, hwriter]
  | flush hwriter hchannel hreader => simp [step, flush?, hwriter, hchannel, hreader]
  | flushFault hwriter hchannel hreader => simp [step, flush?, hwriter, hchannel, hreader]

theorem rule_of_read (h : s.read? = some t) : Step s .read t := by
  unfold read? at h
  split at h
  · rename_i hreader hoffered
    split at h
    · rename_i hunread
      cases h
      exact .readEnd hreader hoffered hunread
    · rename_i hunread
      cases h
      exact .readFault hreader hoffered hunread
    · rename_i hunread
      split at h
      · rename_i hblank
        cases h
        exact .readBlank hreader hoffered hunread hblank
      · rename_i hblank
        cases h
        exact .readRequest hreader hoffered hunread (Bool.eq_false_iff.mpr hblank)
  · cases h

theorem rule_of_send (h : s.send? = some t) : Step s .send t := by
  unfold send? at h
  split at h
  · rename_i hreader hoffered
    split at h
    · rename_i hwriter
      cases h
      exact .turnAway hreader hoffered hwriter
    · rename_i hwriter
      split at h
      · rename_i hroom
        cases h
        exact .send hreader hoffered hwriter hroom
      · cases h
  · cases h

theorem rule_of_finish {task : Nat} {r : TaskResult} (h : s.finish? task r = some t) :
    Step s (.finish task r) t := by
  unfold finish? at h
  split at h
  · rename_i hresult
    cases h
    exact .finish hresult
  · cases h

theorem rule_of_receive (h : s.receive? = some t) : Step s .receive t := by
  unfold receive? at h
  split at h
  · rename_i hwriter hchannel
    cases h
    exact .receive hwriter hchannel
  · cases h

theorem rule_of_compose (h : s.compose? = some t) : Step s .compose t := by
  unfold compose? at h
  split at h
  · rename_i hwriter
    split at h
    · rename_i hresult
      cases h
      exact .compose hwriter hresult
    · cases h
  · cases h

theorem rule_of_write {n : Nat} (h : s.write? n = some t) : Step s (.write n) t := by
  unfold write? at h
  split at h
  · rename_i rest hwriter
    split at h
    · cases h
    · rename_i hcount
      obtain ⟨hzero, hle⟩ := not_or.mp hcount
      split at h
      · rename_i hall
        subst hall
        cases h
        exact .writeRest hwriter (List.length_pos_iff.mp (Nat.pos_of_ne_zero hzero))
      · rename_i hpart
        cases h
        exact .writePart hwriter (Nat.pos_of_ne_zero hzero) (by omega)
  · cases h

theorem rule_of_refuse {c : String} (h : s.refuse? c = some t) : Step s (.refuse c) t := by
  unfold refuse? at h
  split at h
  · rename_i hwriter
    cases h
    exact .refuse hwriter
  · cases h

theorem rule_of_flush {c? : Option String} (h : s.flush? c? = some t) :
    Step s (.flush c?) t := by
  unfold flush? at h
  split at h
  · rename_i hwriter hchannel
    split at h
    · cases h
    · rename_i hreader
      cases c? with
      | none => cases h; exact .flush hwriter hchannel hreader
      | some c => cases h; exact .flushFault hwriter hchannel hreader
  · cases h

/-- The rules are what the function computes. -/
theorem step_eq_some_iff : s.step m = some t ↔ Step s m t := by
  refine ⟨fun h => ?_, step_of_rule⟩
  cases m with
  | read => exact rule_of_read h
  | send => exact rule_of_send h
  | finish task r => exact rule_of_finish h
  | receive => exact rule_of_receive h
  | compose => exact rule_of_compose h
  | write n => exact rule_of_write h
  | refuse c => exact rule_of_refuse h
  | flush c => exact rule_of_flush h

end State
end Transport
end SeriesCatalog
