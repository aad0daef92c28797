import SeriesCatalog.Proofs.Document.Keys
import SeriesCatalog.Proofs.Document.Written
import SeriesCatalog.Proofs.Json.Reading

/-!
# Widths of whole numbers in documents

The kinds of whole numbers have 32 or 64 bits.  A value with numbers of the width of their kind,
and with different keys, has a JSON form whose text can be read.

* `Value.Sized`: the whole numbers in a value have the width of their kind.
* `Value.Sound`: well-keyed values with such numbers.

Results:
* `Value.hereditary_sound`: values are sound with their parts.
* `Value.Sound.legible`: the text of a sound value can be read.
-/

namespace SeriesCatalog
namespace Value

mutual

def Sized : Value → Prop
  | int32 n => Words.fitsSigned32 n = true
  | int64 n => Words.fitsSigned64 n = true
  | timestamp t i => t ≤ Words.greatest32 ∧ i ≤ Words.greatest32
  | array l => SizedItems l
  | document m => SizedMembers m
  | scopedCode _ m => SizedMembers m
  | _ => True

def SizedItems : List Value → Prop
  | [] => True
  | v :: l => Sized v ∧ SizedItems l

def SizedMembers : List (String × Value) → Prop
  | [] => True
  | (_, v) :: m => Sized v ∧ SizedMembers m

end

theorem sizedItems_iff {l : List Value} : SizedItems l ↔ ∀ v ∈ l, v.Sized := by
  induction l with
  | nil => simp [SizedItems]
  | cons v l ih => simp [SizedItems, ih]

theorem sizedMembers_iff {m : Document} : SizedMembers m ↔ ∀ e ∈ m, e.2.Sized := by
  induction m with
  | nil => simp [SizedMembers]
  | cons e m ih => simp [SizedMembers, ih]

/-- The keys in a value differ, and its whole numbers have the width of their kind. -/
@[mk_iff]
structure Sound (v : Value) : Prop where
  wellKeyed : v.WellKeyed
  sized : v.Sized

/-- **Values are sound with their parts.** -/
theorem hereditary_sound : Hereditary Sound where
  simple := by
    intro v hv
    refine ⟨hereditary_wellKeyed.simple hv, ?_⟩
    cases v with
    | array _ | document _ | scopedCode _ _ => exact hv.elim
    | int32 _ | int64 _ | timestamp _ _ => exact hv
    | _ => trivial
  array := by
    intro l
    simp only [sound_iff, hereditary_wellKeyed.array, Sized, sizedItems_iff]
    exact forall₂_and.symm
  document := by
    intro m
    simp only [sound_iff, hereditary_wellKeyed.document, Sized, sizedMembers_iff, and_assoc]
    exact and_congr_right' forall₂_and.symm
  scopedCode := by
    intro s m
    simp only [sound_iff, hereditary_wellKeyed.scopedCode, Sized, sizedMembers_iff, and_assoc]
    exact and_congr_right' forall₂_and.symm

/-! ## Texts that can be read -/

theorem legible_nat {n : Nat} (h : n ≤ Words.greatest64) : (Json.whole n).Legible :=
  Json.legible_whole (by omega) (by omega)

theorem legible_fitsSigned64 {n : Int} (h : Words.fitsSigned64 n = true) :
    (Json.whole n).Legible := by
  simp only [Words.fitsSigned64, Bool.and_eq_true, decide_eq_true_eq] at h
  have hhalf : Words.half64 ≤ Words.greatest64 := by decide
  exact Json.legible_whole h.1 (by omega)

theorem fitsSigned64_of_fitsSigned32 {n : Int} (h : Words.fitsSigned32 n = true) :
    Words.fitsSigned64 n = true := by
  simp only [Words.fitsSigned32, Words.fitsSigned64, Bool.and_eq_true, decide_eq_true_eq] at h ⊢
  have hhalf : Words.half32 ≤ Words.half64 := by decide
  omega

theorem legible_octets (l : List UInt8) :
    (Json.list (l.map fun b => .whole b.toNat)).Legible := by
  refine Json.legible_list_iff.mpr fun v hv => ?_
  obtain ⟨b, -, rfl⟩ := List.mem_map.mp hv
  have hb := b.toNat_lt
  exact legible_nat (by simp only [Words.greatest64]; omega)

/-- An object with a special key and what stands there. -/
theorem legible_special {key : String} {v : Json} (hv : v.Legible) :
    (Json.object [(key, v)]).Legible :=
  Json.legible_object_iff.mpr ⟨List.nodup_singleton key, by simpa using hv⟩

theorem legible_body {key key' : String} {v w : Json} (hkeys : key ≠ key') (hv : v.Legible)
    (hw : w.Legible) : (Json.object [(key, v), (key', w)]).Legible :=
  Json.legible_object_iff.mpr ⟨by simpa [Entries.keys] using hkeys, by simpa using ⟨hv, hw⟩⟩

theorem legible_writtenId (id : ObjectId) : (writtenId id).Legible :=
  legible_special (Json.legible_string _)

mutual

/-- **The text of a sound value can be read.** -/
theorem Sound.legible : ∀ {v : Value}, v.Sound → v.toJson.Legible
  | .double d, _ => ⟨finite_toJson _, by cases d <;> trivial, by cases d <;> trivial⟩
  | .null, _ => ⟨trivial, trivial, trivial⟩
  | .bool b, _ => Json.legible_bool b
  | .string s, _ => Json.legible_string s
  | .int32 n, h => legible_fitsSigned64 (fitsSigned64_of_fitsSigned32 h.sized)
  | .int64 n, h => legible_fitsSigned64 h.sized
  | .array l, h => Json.legible_list_iff.mpr (legible_items (hereditary_sound.array.mp h))
  | .document m, h => legible_members (hereditary_sound.document.mp h)
  | .scopedCode s m, h =>
      legible_body (by decide) (Json.legible_string s)
        (legible_members (hereditary_sound.scopedCode.mp h))
  | .binary s l, _ => by
      rw [toJson]
      split
      · exact legible_octets l
      · exact legible_special (legible_body (by decide) (Json.legible_string _)
          (Json.legible_string _))
  | .decimal _, _ | .code _, _ | .symbol _, _ => legible_special (Json.legible_string _)
  | .objectId id, _ => legible_writtenId id
  | .dateTime _, _ => legible_special (legible_special (Json.legible_string _))
  | .regex p o, _ =>
      legible_special (legible_body (by decide) (Json.legible_string p) (Json.legible_string o))
  | .timestamp t i, h => by
      have hword : Words.greatest32 ≤ Words.greatest64 := by decide
      exact legible_special (legible_body (by decide) (legible_nat (h.sized.1.trans hword))
        (legible_nat (h.sized.2.trans hword)))
  | .pointer s id, _ =>
      legible_special (legible_body (by decide) (Json.legible_string s) (legible_writtenId id))
  | .minKey, _ | .maxKey, _ => legible_special (legible_nat (by decide))
  | .undefined, _ => legible_special (Json.legible_bool true)

theorem legible_items : ∀ {l : List Value}, (∀ v ∈ l, v.Sound) → ∀ v ∈ itemsToJson l, v.Legible
  | [], _ => fun _ hv => nomatch hv
  | v :: l, h => by
      obtain ⟨hv, hl⟩ := List.forall_mem_cons.mp h
      exact List.forall_mem_cons.mpr ⟨hv.legible, legible_items hl⟩

theorem legible_members : ∀ {m : List (String × Value)},
    (Entries.keys m).Nodup ∧ (∀ e ∈ m, e.2.Sound) → (Json.object (membersToJson m)).Legible
  | [], _ => Json.legible_object_iff.mpr ⟨List.nodup_nil, fun _ he => nomatch he⟩
  | (k, v) :: m, ⟨hkeys, hvalues⟩ => by
      obtain ⟨hnew, hkeys⟩ := List.nodup_cons.mp hkeys
      obtain ⟨hv, hm⟩ := List.forall_mem_cons.mp hvalues
      have hnew' : k ∉ Entries.keys (membersToJson m) := (keys_membersToJson m).symm ▸ hnew
      exact Json.legible_member.mpr ⟨hnew', hv.legible, legible_members ⟨hkeys, hm⟩⟩

end

end Value
end SeriesCatalog
