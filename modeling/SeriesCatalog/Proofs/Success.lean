/-!
# Steps that succeed

A computation with errors succeeds only if each of its steps does.

* `ok_of_map_eq_ok`, `ok_of_bind_eq_ok`: the result of the first step, and what became of it.
* `bind_eq_ok_iff`, `bind_eq_error_iff`: two steps succeed if both do, and the first error of
  the two is the error of both.
* `mapM_eq_ok`, `option_mapM_eq_ok`: a step for each element of a list or an option.
-/

namespace SeriesCatalog

variable {ε α β : Type} {x : Except ε α} {b : β}

theorem ok_of_map_eq_ok {f : α → β} (h : f <$> x = .ok b) : ∃ a, x = .ok a ∧ f a = b := by
  cases x with
  | error e => cases h
  | ok a => exact ⟨a, rfl, Except.ok.inj h⟩

theorem ok_of_bind_eq_ok {f : α → Except ε β} (h : x >>= f = .ok b) :
    ∃ a, x = .ok a ∧ f a = .ok b := by
  cases x with
  | error e => cases h
  | ok a => exact ⟨a, rfl, h⟩

theorem bind_eq_ok_iff {f : α → Except ε β} :
    x >>= f = .ok b ↔ ∃ a, x = .ok a ∧ f a = .ok b := by
  refine ⟨ok_of_bind_eq_ok, ?_⟩
  rintro ⟨a, rfl, h⟩
  exact h

theorem bind_eq_error_iff {f : α → Except ε β} {e : ε} :
    x >>= f = .error e ↔ x = .error e ∨ ∃ a, x = .ok a ∧ f a = .error e := by
  constructor
  · intro h
    cases x with
    | error e' =>
        cases h
        exact .inl rfl
    | ok a => exact .inr ⟨a, rfl, h⟩
  · rintro (rfl | ⟨a, rfl, h⟩)
    · rfl
    · exact h

theorem mapM_eq_ok {f : α → Except ε β} {g : α → β} {l : List α} (h : ∀ a ∈ l, f a = .ok (g a)) :
    l.mapM f = .ok (l.map g) := by
  induction l with
  | nil => rfl
  | cons a l ih =>
      obtain ⟨ha, hl⟩ := List.forall_mem_cons.mp h
      rw [List.mapM_cons, ha, ih hl]
      rfl

theorem option_mapM_eq_ok {f : α → Except ε β} {g : α → β} {a? : Option α}
    (h : ∀ a, a? = some a → f a = .ok (g a)) : a?.mapM f = .ok (a?.map g) := by
  cases a? with
  | none => rfl
  | some a =>
      rw [Option.mapM_some, h a rfl]
      rfl

end SeriesCatalog
