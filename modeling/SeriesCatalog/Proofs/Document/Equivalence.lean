import SeriesCatalog.Proofs.Document.Equality
import SeriesCatalog.Proofs.Document.Keys

/-!
# The equality of values from one value to another

The equality of values is not reflexive, since some numbers equal nothing.  It leads from one
value to the next and, where the keys of documents differ, back.

Device: an induction on the parts of a value.  These are the items of a list and the values of a
document; everything else has none.

* `Value.parts`: the parts of a value.
* `Value.Equal`: equal values are the same, or of one kind and equal part by part.

Results:
* `Value.same_trans`: values that equal a common value from both sides are equal.
* `Value.same_symm`: equality goes both ways.
-/

namespace SeriesCatalog

namespace Decimal.Double

theorem same_finite_iff {s t : Bool} {a b : Fin rankCount} :
    (finite s a).same (finite t b) = true ↔ a = b ∧ (s = t ∨ a.val = 0) := by
  simp [same]

theorem same_infinite_iff {s t : Bool} : (infinite s).same (infinite t) = true ↔ s = t := by
  simp [same]

theorem same_trans {x y z : Double} (hxy : x.same y = true) (hyz : y.same z = true) :
    x.same z = true := by
  cases x with
  | nan => cases hxy
  | infinite s =>
      cases y with
      | infinite t => exact same_infinite_iff.mp hxy ▸ hyz
      | finite _ _ | nan => cases hxy
  | finite s a =>
      cases y with
      | infinite _ | nan => cases hxy
      | finite t b =>
          cases z with
          | infinite _ | nan => cases hyz
          | finite u c =>
              obtain ⟨rfl, hst⟩ := same_finite_iff.mp hxy
              obtain ⟨rfl, htu⟩ := same_finite_iff.mp hyz
              refine same_finite_iff.mpr ⟨rfl, ?_⟩
              rcases hst with rfl | hzero
              · exact htu
              · exact .inr hzero

theorem same_symm {x y : Double} (h : x.same y = true) : y.same x = true := by
  cases x with
  | nan => cases h
  | infinite s =>
      cases y with
      | infinite t => exact same_infinite_iff.mpr (same_infinite_iff.mp h).symm
      | finite _ _ | nan => cases h
  | finite s a =>
      cases y with
      | infinite _ | nan => cases h
      | finite t b =>
          obtain ⟨rfl, hst⟩ := same_finite_iff.mp h
          exact same_finite_iff.mpr ⟨rfl, hst.imp_left Eq.symm⟩

end Decimal.Double

namespace Value

/-! ## Parts -/

def parts : Value → List Value
  | array items => items
  | document m => m.map Prod.snd
  | scopedCode _ m => m.map Prod.snd
  | _ => []

theorem sizeOf_lt_of_mem_values {m : Document} {v : Value} (h : v ∈ m.map Prod.snd) :
    sizeOf v < sizeOf m := by
  obtain ⟨⟨k, w⟩, he, rfl⟩ := List.mem_map.mp h
  have hsize := List.sizeOf_lt_of_mem he
  simp only [Prod.mk.sizeOf_spec] at hsize ⊢
  omega

theorem sizeOf_lt_of_mem_parts {v part : Value} (h : part ∈ v.parts) :
    sizeOf part < sizeOf v := by
  cases v with
  | array items =>
      have hsize : sizeOf part < sizeOf items := List.sizeOf_lt_of_mem h
      simp only [array.sizeOf_spec]
      omega
  | document m =>
      have hsize : sizeOf part < sizeOf m := sizeOf_lt_of_mem_values h
      simp only [document.sizeOf_spec]
      omega
  | scopedCode text m =>
      have hsize : sizeOf part < sizeOf m := sizeOf_lt_of_mem_values h
      simp only [scopedCode.sizeOf_spec]
      omega
  | _ => cases h

/-- What holds of a value if it holds of its parts holds of every value. -/
theorem induction_on_parts {P : Value → Prop} (step : ∀ v, (∀ part ∈ v.parts, P part) → P v)
    (v : Value) : P v := by
  refine step v fun part h => ?_
  have hlt : sizeOf part < sizeOf v := sizeOf_lt_of_mem_parts h
  exact induction_on_parts step part
termination_by sizeOf v
decreasing_by exact hlt

/-! ## Equal values -/

/-- How values are equal. -/
inductive Equal : Value → Value → Prop
  | refl {v : Value} (h : same v v = true) : Equal v v
  | double {a b : Decimal.Double} (h : a.same b = true) : Equal (double a) (double b)
  | array {a b : List Value} (h : List.Forall₂ (fun v w => same v w = true) a b) :
      Equal (array a) (array b)
  | document {a b : Document} (hlength : a.length = b.length) (h : sameMembers a b = true) :
      Equal (document a) (document b)
  | scopedCode {text : String} {a b : Document} (hlength : a.length = b.length)
      (h : sameMembers a b = true) : Equal (scopedCode text a) (scopedCode text b)

theorem Equal.of_eq {v w : Value} (h : v = w) (hself : same v v = true) : Equal v w :=
  h ▸ .refl hself

theorem same_iff {v w : Value} : same v w = true ↔ Equal v w := by
  constructor
  · intro h
    cases v <;> cases w <;> simp only [same, Bool.and_eq_true, decide_eq_true_eq,
      Bool.false_eq_true] at h
    case double => exact .double h
    case array => exact .array (sameItems_iff.mp h)
    case document => exact .document h.1 h.2
    case scopedCode =>
      obtain ⟨rfl, hlength, hmembers⟩ := h
      exact .scopedCode hlength hmembers
    all_goals first
      | exact .refl rfl
      | exact .of_eq (by simp [h]) (by simp [same])
  · intro h
    cases h with
    | refl h => exact h
    | double h => exact h
    | array h => exact sameItems_iff.mpr h
    | document hlength h => simp [same, hlength, h]
    | scopedCode hlength h => simp [same, hlength, h]

theorem sameMembers_iff {a b : Document} :
    sameMembers a b = true ↔
      ∀ e ∈ a, ∃ w, Entries.lookup e.1 b = some w ∧ same e.2 w = true := by
  induction a with
  | nil => simp [sameMembers]
  | cons e a ih =>
      obtain ⟨key, v⟩ := e
      rw [sameMembers, Bool.and_eq_true, ih, List.forall_mem_cons]
      refine and_congr_left fun _ => ?_
      cases Entries.lookup key b <;> simp

theorem sameMembers_trans {a b c : Document}
    (ih : ∀ v ∈ a.map Prod.snd, ∀ {w x}, same v w = true → same w x = true → same v x = true)
    (hab : sameMembers a b = true) (hbc : sameMembers b c = true) : sameMembers a c = true := by
  refine sameMembers_iff.mpr fun e he => ?_
  obtain ⟨w, hw, hsame⟩ := sameMembers_iff.mp hab e he
  obtain ⟨x, hx, hsame'⟩ := sameMembers_iff.mp hbc _ (Entries.mem_of_lookup hw)
  exact ⟨x, hx, ih e.2 (List.mem_map_of_mem he) hsame hsame'⟩

theorem forall₂_same_trans {a b c : List Value}
    (ih : ∀ v ∈ a, ∀ {w x}, same v w = true → same w x = true → same v x = true)
    (hab : List.Forall₂ (fun v w => same v w = true) a b)
    (hbc : List.Forall₂ (fun v w => same v w = true) b c) :
    List.Forall₂ (fun v w => same v w = true) a c := by
  induction hab generalizing c with
  | nil => exact hbc
  | cons hvw _ ihitems =>
      cases hbc with
      | cons hwx hbc =>
          refine .cons (ih _ List.mem_cons_self hvw hwx) (ihitems (fun v hv => ?_) hbc)
          exact ih v (List.mem_cons_of_mem _ hv)

/-- **Equality leads from one value to the next.** -/
theorem same_trans {u v w : Value} (huv : same u v = true) (hvw : same v w = true) :
    same u w = true := by
  induction u using induction_on_parts generalizing v w with
  | step u ih =>
      cases same_iff.mp huv with
      | refl => exact hvw
      | double hab =>
          cases same_iff.mp hvw with
          | refl => exact huv
          | double hbc => exact same_iff.mpr (.double (Decimal.Double.same_trans hab hbc))
      | array hab =>
          cases same_iff.mp hvw with
          | refl => exact huv
          | array hbc => exact same_iff.mpr (.array (forall₂_same_trans ih hab hbc))
      | document hlength hab =>
          cases same_iff.mp hvw with
          | refl => exact huv
          | document hlength' hbc =>
              exact same_iff.mpr (.document (hlength.trans hlength') (sameMembers_trans ih hab hbc))
      | scopedCode hlength hab =>
          cases same_iff.mp hvw with
          | refl => exact huv
          | scopedCode hlength' hbc =>
              exact same_iff.mpr
                (.scopedCode (hlength.trans hlength') (sameMembers_trans ih hab hbc))

/-- The keys of a document are those of an equal one, so that none of them is without an equal
value on the way back. -/
theorem sameMembers_symm {a b : Document} (ha : a.WellKeyed) (hb : b.WellKeyed)
    (ih : ∀ v ∈ a.map Prod.snd, ∀ {w}, v.WellKeyed → w.WellKeyed →
      same v w = true → same w v = true)
    (hlength : a.length = b.length) (h : sameMembers a b = true) : sameMembers b a = true := by
  have hsame : same (.document a) (.document b) = true := same_iff.mpr (.document hlength h)
  refine sameMembers_iff.mpr fun e he => ?_
  have hkey : e.1 ∈ Entries.keys a :=
    (mem_keys_iff_of_same ha.nodup hsame).mpr (List.mem_map_of_mem he)
  obtain ⟨v, hv⟩ := Entries.mem_keys_iff.mp hkey
  have hmem : (e.1, v) ∈ a := Entries.mem_of_lookup hv
  obtain ⟨w, hw, hvw⟩ := sameMembers_iff.mp h _ hmem
  cases hw.symm.trans (Entries.lookup_of_mem hb.nodup he)
  exact ⟨v, hv, ih v (List.mem_map_of_mem hmem) (ha.values _ hmem) (hb.values _ he) hvw⟩

theorem forall₂_same_symm {a b : List Value} (ha : ∀ v ∈ a, v.WellKeyed)
    (hb : ∀ v ∈ b, v.WellKeyed)
    (ih : ∀ v ∈ a, ∀ {w}, v.WellKeyed → w.WellKeyed → same v w = true → same w v = true)
    (h : List.Forall₂ (fun v w => same v w = true) a b) :
    List.Forall₂ (fun v w => same v w = true) b a := by
  induction h with
  | nil => exact .nil
  | cons hvw _ ihitems =>
      obtain ⟨hv, ha⟩ := List.forall_mem_cons.mp ha
      obtain ⟨hw, hb⟩ := List.forall_mem_cons.mp hb
      refine .cons (ih _ List.mem_cons_self hv hw hvw) (ihitems ha hb fun v' hv' => ?_)
      exact ih v' (List.mem_cons_of_mem _ hv')

/-- **Equality goes both ways**, if no document has a key twice. -/
theorem same_symm {v w : Value} (hv : v.WellKeyed) (hw : w.WellKeyed) (h : same v w = true) :
    same w v = true := by
  induction v using induction_on_parts generalizing w with
  | step v ih =>
      cases same_iff.mp h with
      | refl => exact h
      | double hab => exact same_iff.mpr (.double (Decimal.Double.same_symm hab))
      | array hab =>
          exact same_iff.mpr (.array
            (forall₂_same_symm (wellKeyedItems_iff.mp hv) (wellKeyedItems_iff.mp hw) ih hab))
      | document hlength hab | scopedCode hlength hab =>
          have hback := sameMembers_symm (wellKeyed_document_iff.mp hv)
            (wellKeyed_document_iff.mp hw) ih hlength hab
          simp [same, hlength, hback]

end Value
end SeriesCatalog
