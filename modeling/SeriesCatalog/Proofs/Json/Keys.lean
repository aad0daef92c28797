import SeriesCatalog.Json.Reader
import SeriesCatalog.Proofs.Entries
import SeriesCatalog.Proofs.Success

/-!
# Keys of objects

The members of an object are a list, which could hold a key twice.  The reader never makes
such an object: a repeated key gives its value to the member that is there.

* `Json.WellKeyed`: the keys of every object in a value differ.
* `Json.State.WellKeyed`: the same for all that a state of the reader holds.

Results:
* `Json.step_wellKeyed`: a step of the reader keeps it.
* `Json.wellKeyed_of_read`: a value that was read is well keyed.
-/

namespace SeriesCatalog
namespace Json

mutual

def WellKeyed : Json → Prop
  | list l => WellKeyedItems l
  | object m => (Entries.keys m).Nodup ∧ WellKeyedMembers m
  | _ => True

def WellKeyedItems : List Json → Prop
  | [] => True
  | v :: l => WellKeyed v ∧ WellKeyedItems l

def WellKeyedMembers : List (String × Json) → Prop
  | [] => True
  | (_, v) :: l => WellKeyed v ∧ WellKeyedMembers l

end

theorem wellKeyedItems_iff {l : List Json} : WellKeyedItems l ↔ ∀ v ∈ l, v.WellKeyed := by
  induction l with
  | nil => simp [WellKeyedItems]
  | cons v l ih => simp [WellKeyedItems, ih]

theorem wellKeyedMembers_iff {m : Entries Json} :
    WellKeyedMembers m ↔ ∀ e ∈ m, e.2.WellKeyed := by
  induction m with
  | nil => simp [WellKeyedMembers]
  | cons e m ih => simp [WellKeyedMembers, ih]

theorem wellKeyed_list_iff {l : List Json} : (list l).WellKeyed ↔ ∀ v ∈ l, v.WellKeyed := by
  rw [WellKeyed, wellKeyedItems_iff]

theorem wellKeyed_object_iff {m : Entries Json} :
    (object m).WellKeyed ↔ (Entries.keys m).Nodup ∧ ∀ e ∈ m, e.2.WellKeyed := by
  rw [WellKeyed, wellKeyedMembers_iff]

theorem WellKeyed.put {m : Entries Json} (h : (object m).WellKeyed) {v : Json}
    (hv : v.WellKeyed) (key : String) : (object (Entries.put key v m)).WellKeyed := by
  obtain ⟨hkeys, hmembers⟩ := wellKeyed_object_iff.mp h
  refine wellKeyed_object_iff.mpr ⟨Entries.nodup_keys_put hkeys, fun e he => ?_⟩
  rcases Entries.mem_put he with hvalue | hold
  · exact hvalue ▸ hv
  · exact hmembers e hold

/-! ## States -/

/-- The containers that are begun are well keyed so far. -/
def Place.WellKeyed : Place → Prop
  | whole => True
  | item before outer => (list before).WellKeyed ∧ outer.WellKeyed
  | member before _ outer => (object before).WellKeyed ∧ outer.WellKeyed

def Role.WellKeyed : Role → Prop
  | value place => place.WellKeyed
  | key before outer => (object before).WellKeyed ∧ outer.WellKeyed

def State.WellKeyed : State → Prop
  | value place => place.WellKeyed
  | firstItem outer => outer.WellKeyed
  | nextItem before outer => (list before).WellKeyed ∧ outer.WellKeyed
  | afterItem before outer => (list before).WellKeyed ∧ outer.WellKeyed
  | firstKey outer => outer.WellKeyed
  | nextKey before outer => (object before).WellKeyed ∧ outer.WellKeyed
  | colon before _ outer => (object before).WellKeyed ∧ outer.WellKeyed
  | afterMember before outer => (object before).WellKeyed ∧ outer.WellKeyed
  | word _ _ v place => v.WellKeyed ∧ place.WellKeyed
  | number _ _ place => place.WellKeyed
  | string _ _ role => role.WellKeyed
  | done v => v.WellKeyed

theorem wellKeyed_nil : (list []).WellKeyed ∧ (object []).WellKeyed := by
  simp [WellKeyed, WellKeyedItems, WellKeyedMembers, Entries.keys]

/-- A value is put in front of the items, and given to its key among the members. -/
theorem Place.WellKeyed.fill {v : Json} (hv : v.WellKeyed) {place : Place}
    (h : place.WellKeyed) : (place.fill v).WellKeyed := by
  cases place with
  | whole => exact hv
  | item before outer =>
      obtain ⟨hbefore, houter⟩ := h
      refine ⟨wellKeyed_list_iff.mpr fun w hw => ?_, houter⟩
      rcases List.mem_cons.mp hw with rfl | hw
      · exact hv
      · exact wellKeyed_list_iff.mp hbefore w hw
  | member before key outer => exact ⟨h.1.put hv key, h.2⟩

section Steps

variable {limit? : Option Nat} {offset : Nat} {c : Char}

theorem openContainer_eq_ok {outer : Place} {opened s : State}
    (h : openContainer limit? outer opened offset = .ok s) : s = opened := by
  unfold openContainer at h
  split at h
  · exact (Except.ok.inj h).symm
  · split at h
    · cases h
    · exact (Except.ok.inj h).symm

theorem beginValue_wellKeyed {place : Place} {s : State}
    (h : beginValue limit? offset place c = .ok s) (hplace : place.WellKeyed) : s.WellKeyed := by
  unfold beginValue at h
  split at h
  case h_5 | h_6 => exact openContainer_eq_ok h ▸ hplace
  case h_9 =>
    split at h
    · cases h
      exact hplace
    · cases h
  all_goals
    cases h
    first
    | exact hplace
    | exact ⟨trivial, hplace⟩

theorem stepBetween_wellKeyed {s s' : State} (h : stepBetween limit? offset s c = .ok s')
    (hs : s.WellKeyed) : s'.WellKeyed := by
  unfold stepBetween at h
  split at h
  · cases h
    exact hs
  · cases s with
    | value place => exact beginValue_wellKeyed h hs
    | firstItem outer =>
        dsimp only at h
        split at h
        · cases h
          exact hs.fill wellKeyed_nil.1
        · exact beginValue_wellKeyed h ⟨wellKeyed_nil.1, hs⟩
    | nextItem before outer =>
        dsimp only at h
        split at h
        · cases h
        · exact beginValue_wellKeyed h hs
    | afterItem before outer =>
        dsimp only at h
        split at h
        · cases h
          refine hs.2.fill (wellKeyed_list_iff.mpr fun v hv => ?_)
          exact wellKeyed_list_iff.mp hs.1 v (List.mem_reverse.mp hv)
        · split at h
          · cases h
            exact hs
          · cases h
    | firstKey outer =>
        dsimp only at h
        split at h
        · cases h
          exact hs.fill wellKeyed_nil.2
        · split at h
          · cases h
            exact ⟨wellKeyed_nil.2, hs⟩
          · cases h
    | nextKey before outer =>
        dsimp only at h
        split at h
        · cases h
        · split at h
          · cases h
            exact hs
          · cases h
    | colon before key outer =>
        dsimp only at h
        split at h
        · cases h
          exact hs
        · cases h
    | afterMember before outer =>
        dsimp only at h
        split at h
        · cases h
          exact hs.2.fill hs.1
        · split at h
          · cases h
            exact hs
          · cases h
    | word _ _ _ _ | number _ _ _ | string _ _ _ | done _ => cases h

theorem value_wellKeyed {n : Numeral} {v : Json} (h : n.value = .ok v) : v.WellKeyed := by
  simp only [Numeral.value] at h
  split at h
  · cases h
    trivial
  · obtain ⟨d, -, rfl⟩ := ok_of_map_eq_ok h
    trivial

theorem finishNumber_wellKeyed {n : Numeral} {v : Json} (h : finishNumber offset n = .ok v) :
    v.WellKeyed := by
  simp only [finishNumber] at h
  split at h
  · rename_i hvalue
    cases h
    exact value_wellKeyed hvalue
  · cases h

theorem finishString_wellKeyed {role : Role} (h : role.WellKeyed) (read : List Char) :
    (finishString read role).WellKeyed := by
  cases role with
  | value place =>
      refine h.fill ?_
      trivial
  | key before outer => exact h

/-- Within a string nothing but the characters read so far changes. -/
theorem finishEscape_wellKeyed {read : List Char} {role : Role} {first? : Option Nat} {unit : Nat}
    {s : State} (h : finishEscape offset read role first? unit = .ok s) (hrole : role.WellKeyed) :
    s.WellKeyed := by
  unfold finishEscape at h
  split at h
  · split at h
    · cases h
    · split at h
      all_goals
        cases h
        exact hrole
  · split at h
    · cases h
      exact hrole
    · cases h

theorem stepString_wellKeyed {part : StringPart} {read : List Char} {role : Role} {s : State}
    (h : stepString offset part read role c = .ok s) (hrole : role.WellKeyed) :
    s.WellKeyed := by
  cases part with
  | plain =>
      simp only [stepString] at h
      split at h
      · cases h
        exact finishString_wellKeyed hrole read
      · split at h
        · cases h
          exact hrole
        · split at h
          · cases h
          · cases h
            exact hrole
  | escape =>
      simp only [stepString] at h
      split at h
      · cases h
        exact hrole
      · split at h
        · cases h
          exact hrole
        · cases h
  | hex octets value? first? =>
      simp only [stepString] at h
      split at h
      · cases h
        exact hrole
      · split at h
        · exact finishEscape_wellKeyed h hrole
        · cases h
  | secondSlash first =>
      simp only [stepString] at h
      split at h
      · cases h
        exact hrole
      · cases h
  | secondLetter first =>
      simp only [stepString] at h
      split at h
      · cases h
        exact hrole
      · cases h

/-- **A step of the reader keeps the keys different.** -/
theorem step_wellKeyed {s s' : State} (h : step limit? offset s c = .ok s')
    (hs : s.WellKeyed) : s'.WellKeyed := by
  unfold step at h
  split at h
  · split at h
    · split at h
      · cases h
        exact hs.2.fill hs.1
      · cases h
        exact hs
    · cases h
  · split at h
    · cases h
    · cases h
      exact hs
    · split at h
      · cases h
      · rename_i hnumber
        exact stepBetween_wellKeyed h (Place.WellKeyed.fill (finishNumber_wellKeyed hnumber) hs)
  · exact stepString_wellKeyed h hs
  · exact stepBetween_wellKeyed h hs

theorem finish_wellKeyed {s : State} {v : Json} (h : finish offset s = .ok v)
    (hs : s.WellKeyed) : v.WellKeyed := by
  unfold finish at h
  split at h
  · cases h
    exact hs
  · split at h
    · split at h
      · cases h
      · rename_i hnumber
        have hfilled := Place.WellKeyed.fill (finishNumber_wellKeyed hnumber) hs
        split at h
        · rename_i hdone
          cases h
          rwa [hdone] at hfilled
        · cases h
    · cases h
  · cases h

theorem run_wellKeyed {l : List Char} {s : State} {v : Json} (h : run limit? offset s l = .ok v)
    (hs : s.WellKeyed) : v.WellKeyed := by
  induction l generalizing offset s with
  | nil => exact finish_wellKeyed h hs
  | cons c l ih =>
      simp only [run] at h
      split at h
      · cases h
      · rename_i hstep
        exact ih h (step_wellKeyed hstep hs)

end Steps

theorem wellKeyed_of_readWith {limit? : Option Nat} {text : String} {v : Json}
    (h : readWith limit? text = .ok v) : v.WellKeyed := by
  unfold readWith at h
  split at h
  · rename_i hrun
    cases h
    exact run_wellKeyed hrun trivial
  · cases h

/-- **A value that was read is well keyed**, however often its text repeats a key. -/
theorem wellKeyed_of_read {text : String} {v : Json} (h : read text = .ok v) : v.WellKeyed :=
  wellKeyed_of_readWith h

end Json
end SeriesCatalog
