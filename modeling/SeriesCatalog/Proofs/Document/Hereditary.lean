import SeriesCatalog.Document.Extended
import SeriesCatalog.Document.Path
import SeriesCatalog.Proofs.Entries
import SeriesCatalog.Proofs.Json.Keys
import SeriesCatalog.Proofs.Text.Numerals

/-!
# What values have with their parts

A property of values can be told by their parts alone: a list has it if its items have it, and a
document if its keys differ and its values have it.  Such a property is kept by whatever makes
documents, since special objects stand for values without parts.

* `Value.Simple`: the values that hold no others, with whole numbers of the width of their kind.
* `Value.Hereditary`: the properties that simple values have, and others with their parts.

Results:
* `Extended.yields_special`: special objects stand for simple values.
* `Value.Hereditary.ofMembers`: the document of a well-keyed object.
* `Value.Hereditary.put`, `Value.Hereditary.merge`: giving keys their values.
* `Value.Hereditary.contributions`: what a document has at the end of a path.
-/

namespace SeriesCatalog
namespace Value

/-- A value that holds no others, and whose whole numbers have the width of their kind. -/
def Simple : Value → Prop
  | int32 n => Words.fitsSigned32 n = true
  | int64 n => Words.fitsSigned64 n = true
  | timestamp t i => t ≤ Words.greatest32 ∧ i ≤ Words.greatest32
  | array _ | document _ | scopedCode _ _ => False
  | _ => True

/-- What simple values have, and other values exactly if their parts have it and their keys
differ. -/
structure Hereditary (P : Value → Prop) : Prop where
  simple : ∀ {v : Value}, v.Simple → P v
  array : ∀ {l : List Value}, P (.array l) ↔ ∀ v ∈ l, P v
  document : ∀ {m : Document}, P (.document m) ↔ (Entries.keys m).Nodup ∧ ∀ e ∈ m, P e.2
  scopedCode : ∀ {s : String} {m : Document},
    P (.scopedCode s m) ↔ (Entries.keys m).Nodup ∧ ∀ e ∈ m, P e.2

end Value

namespace Extended

/-! ## Special objects -/

/-- Whatever a reader gives is simple. -/
def Yields (r : Except Refusal Value) : Prop :=
  ∀ v, r = .ok v → v.Simple

theorem yields_ok {v : Value} (h : v.Simple) : Yields (.ok v) := by
  rintro w hw
  cases hw
  exact h

theorem yields_error (e : Refusal) : Yields (.error e) := by
  rintro w hw
  cases hw

theorem yields_map {α : Type} {f : α → Value} {x : Except Refusal α}
    (h : ∀ a, x = .ok a → (f a).Simple) : Yields (f <$> x) := by
  intro w hw
  obtain ⟨a, ha, rfl⟩ := ok_of_map_eq_ok hw
  exact h a ha

theorem yields_one {α : Type} {make : α → Except Refusal Value} {x : Except Refusal α} :
    (∀ a, x = .ok a → Yields (make a)) →
      Yields (match x with | .ok a => make a | .error e => .error e) := by
  intro h
  cases x with
  | error e => exact yields_error e
  | ok a => exact h a rfl

/-! ### Whole numbers -/

theorem fits_of_wholeOfText {half : Nat} {name s : String} {n : Int} (hhalf : 0 < half)
    (h : wholeOfText half name s = .ok n) : -(half : Int) ≤ n ∧ n < half := by
  unfold wholeOfText at h
  split at h
  · rename_i hread
    cases h
    exact ((Text.readSigned_eq_ok_iff hhalf).mp hread).2
  · cases h

theorem le_of_readUnsigned {greatest n : Nat} {name : String} {v : Json}
    (h : readUnsigned greatest name v = .ok n) : n ≤ greatest := by
  unfold readUnsigned at h
  split at h
  · split at h
    · rename_i hfits
      cases h
      simp only [Bool.and_eq_true, decide_eq_true_eq] at hfits
      omega
    · cases h
  · cases h

section Fields

variable {α β : Type} {P : α → Prop} {Q : β → Prop}

/-- The value of the only key is one that its reader gives. -/
theorem readOne_holds {key : String} {read : Json → Except Refusal α}
    (hread : ∀ v a, read v = .ok a → P a) {m : Entries Json} {a? : Option α} {a : α}
    (ha : ∀ a, a? = some a → P a) (h : readOne key read a? m = .ok a) : P a := by
  induction m generalizing a? with
  | nil =>
      cases a? with
      | none => cases h
      | some b =>
          cases h
          exact ha _ rfl
  | cons e m ih =>
      rw [readOne] at h
      split at h
      · split at h
        · rename_i hvalue
          refine ih (fun b hb => ?_) h
          cases hb
          exact hread _ _ hvalue
        · cases h
      · cases h

theorem readTwo_holds {x : Field α} {y : Field β} (hx : ∀ v a, x.read v = .ok a → P a)
    (hy : ∀ v b, y.read v = .ok b → Q b) {m : Entries Json} {a? : Option α} {b? : Option β}
    {r : α × β} (ha : ∀ a, a? = some a → P a) (hb : ∀ b, b? = some b → Q b)
    (h : readTwo x y a? b? m = .ok r) : P r.1 ∧ Q r.2 := by
  induction m generalizing a? b? with
  | nil =>
      cases a? with
      | none => cases h
      | some a =>
          cases b? with
          | none => cases h
          | some b =>
              cases h
              exact ⟨ha _ rfl, hb _ rfl⟩
  | cons e m ih =>
      rw [readTwo] at h
      split at h
      · split at h
        · rename_i hvalue
          refine ih (fun a' ha' => ?_) hb h
          cases ha'
          exact hx _ _ hvalue
        · cases h
      · split at h
        · split at h
          · rename_i hvalue
            refine ih ha (fun b' hb' => ?_) h
            cases hb'
            exact hy _ _ hvalue
          · cases h
        · cases h

theorem readBody_holds {name : String} {x : Field α} {y : Field β}
    (hx : ∀ v a, x.read v = .ok a → P a) (hy : ∀ v b, y.read v = .ok b → Q b) {v : Json}
    {r : α × β} (h : readBody name x y v = .ok r) : P r.1 ∧ Q r.2 := by
  unfold readBody at h
  split at h
  · exact readTwo_holds hx hy (by simp) (by simp) h
  · dsimp only at h
    split at h
    · cases h
    · obtain ⟨a, ha, h⟩ := ok_of_bind_eq_ok h
      split at h
      · cases h
      · obtain ⟨b, hb, h⟩ := ok_of_bind_eq_ok h
        split at h
        · cases h
          exact ⟨hx _ _ ha, hy _ _ hb⟩
        · cases h
  · cases h

end Fields

theorem yields_numberInt (name s : String) :
    Yields (.int32 <$> wholeOfText Words.half32 name s) :=
  yields_map fun n hn => by
    have hbounds := fits_of_wholeOfText (by decide) hn
    simpa [Value.Simple, Words.fitsSigned32] using hbounds

theorem yields_numberLong (name s : String) :
    Yields (.int64 <$> wholeOfText Words.half64 name s) :=
  yields_map fun n hn => by
    have hbounds := fits_of_wholeOfText (by decide) hn
    simpa [Value.Simple, Words.fitsSigned64] using hbounds

/-- Both parts of a timestamp are read as numbers of 32 bits. -/
theorem yields_timestamp {name first second key : String} {m : Entries Json} {b : Nat × Nat}
    (h : readOne key (readBody name ⟨first, readWord⟩ ⟨second, readWord⟩) none m = .ok b) :
    Yields (.ok (.timestamp b.1 b.2)) := by
  have hword : ∀ v n, readWord v = .ok n → n ≤ Words.greatest32 :=
    fun _ _ hn => le_of_readUnsigned hn
  have hbounds : b.1 ≤ Words.greatest32 ∧ b.2 ≤ Words.greatest32 :=
    readOne_holds (fun _ _ hbody => readBody_holds hword hword hbody)
      (by simp) h
  exact yields_ok hbounds

/-! ### All kinds -/

theorem yields_doubleOfText (s : String) : Yields (doubleOfText s) := by
  unfold doubleOfText
  split
  · exact yields_ok trivial
  · exact yields_error _

theorem yields_decimalOfText (s : String) : Yields (decimalOfText s) := by
  unfold decimalOfText
  split
  · exact yields_ok trivial
  · exact yields_error _

theorem yields_binaryOfTexts (base64 subtype : String) : Yields (binaryOfTexts base64 subtype) := by
  unfold binaryOfTexts
  split
  · exact yields_error _
  · split
    · exact yields_error _
    · exact yields_ok trivial
    · exact yields_error _

theorem yields_uuidOfText (s : String) : Yields (uuidOfText s) := by
  unfold uuidOfText
  split
  · exact yields_ok trivial
  · exact yields_error _

theorem yields_regexOfTexts (pattern options : String) : Yields (regexOfTexts pattern options) := by
  intro v hv
  obtain ⟨_, -, hv⟩ := ok_of_bind_eq_ok hv
  obtain ⟨_, -, hv⟩ := ok_of_bind_eq_ok hv
  cases hv
  trivial

theorem yields_readKeyMark (key : String) {v : Value} (h : v.Simple) (m : Entries Json) :
    Yields (readKeyMark key v m) := by
  unfold readKeyMark
  split
  · exact yields_error _
  · exact yields_ok h
  · exact yields_error _

theorem yields_ite {c : Prop} [Decidable c] {x r : Except Refusal Value}
    {rest : Option (Except Refusal Value)} (hx : Yields x) (hrest : rest = some r → Yields r)
    (h : (if c then some x else rest) = some r) : Yields r := by
  split at h
  · exact Option.some.inj h ▸ hx
  · exact hrest h

/-- A special object stands for a value that holds no others. -/
theorem yields_special {m : Entries Json} {r : Except Refusal Value} (h : special? m = some r) :
    Yields r := by
  revert h
  unfold special?
  refine yields_ite (yields_one fun s _ => yields_map fun _ _ => by trivial) ?_
  refine yields_ite (yields_one fun s _ => yields_ok (by trivial)) ?_
  refine yields_ite (yields_one fun b _ => yields_regexOfTexts _ _) ?_
  refine yields_ite (yields_one fun s _ => yields_numberInt _ _) ?_
  refine yields_ite (yields_one fun s _ => yields_numberLong _ _) ?_
  refine yields_ite (yields_one fun s _ => yields_doubleOfText s) ?_
  refine yields_ite (yields_one fun s _ => yields_decimalOfText s) ?_
  refine yields_ite (yields_one fun b _ => yields_binaryOfTexts _ _) ?_
  refine yields_ite (yields_one fun s _ => yields_uuidOfText s) ?_
  refine yields_ite (yields_map fun _ _ => by trivial) ?_
  refine yields_ite (yields_one fun b hb => yields_timestamp hb) ?_
  refine yields_ite (yields_one fun b _ => yields_map fun _ _ => by trivial) ?_
  refine yields_ite (yields_readKeyMark _ (by trivial) _) ?_
  refine yields_ite (yields_readKeyMark _ (by trivial) _) ?_
  refine yields_ite (yields_one fun b _ => yields_map fun _ _ => by trivial) ?_
  refine yields_ite (yields_one fun b _ => ?_) (fun h => nomatch h)
  cases b with
  | true => exact yields_ok (by trivial)
  | false => exact yields_error _

theorem simple_ofWhole (n : Int) : (ofWhole n).Simple := by
  unfold ofWhole
  split
  · assumption
  · split
    · assumption
    · trivial

/-! ## Values at every depth -/

theorem keys_of_members {m : Entries Json} {d : Document} (h : members m = .ok d) :
    Entries.keys d = Entries.keys m := by
  induction m generalizing d with
  | nil =>
      cases h
      rfl
  | cons e m ih =>
      obtain ⟨k, v⟩ := e
      obtain ⟨w, -, h⟩ := ok_of_bind_eq_ok h
      obtain ⟨d', hd', h⟩ := ok_of_bind_eq_ok h
      cases h
      exact congrArg (k :: ·) (ih hd')

variable {P : Value → Prop}

mutual

theorem holds_value (hP : Value.Hereditary P) : ∀ {v : Json} {w : Value},
    v.WellKeyed → value v = .ok w → P w
  | .null, _, _, h | .bool _, _, _, h | .double _, _, _, h | .string _, _, _, h => by
      cases h
      exact hP.simple (by trivial)
  | .whole n, _, _, h => by
      cases h
      exact hP.simple (simple_ofWhole n)
  | .list l, w, hv, h => by
      obtain ⟨l', hl', rfl⟩ := ok_of_map_eq_ok h
      exact hP.array.mpr (holds_values hP hv hl')
  | .object m, w, hv, h => by
      rw [value] at h
      split at h
      · obtain ⟨d, hd, rfl⟩ := ok_of_map_eq_ok h
        exact hP.document.mpr ⟨keys_of_members hd ▸ hv.1, holds_members hP hv.2 hd⟩
      · split at h
        · cases h
          exact hP.simple (by trivial)
        · rename_i hscope
          obtain ⟨d, hd, rfl⟩ := ok_of_map_eq_ok h
          exact hP.scopedCode.mpr (holds_scope hP hv.2 hscope hd)
      · rename_i hspecial
        exact hP.simple (yields_special hspecial w h)

theorem holds_values (hP : Value.Hereditary P) : ∀ {l : List Json} {l' : List Value},
    Json.WellKeyedItems l → values l = .ok l' → ∀ v ∈ l', P v
  | [], _, _, h => by
      cases h
      exact fun v hv => nomatch hv
  | v :: l, _, hl, h => by
      obtain ⟨w, hw, h⟩ := ok_of_bind_eq_ok h
      obtain ⟨l', hl', h⟩ := ok_of_bind_eq_ok h
      cases h
      exact List.forall_mem_cons.mpr ⟨holds_value hP hl.1 hw, holds_values hP hl.2 hl'⟩

theorem holds_members (hP : Value.Hereditary P) : ∀ {m : List (String × Json)} {d : Document},
    Json.WellKeyedMembers m → members m = .ok d → ∀ e ∈ d, P e.2
  | [], _, _, h => by
      cases h
      exact fun e he => nomatch he
  | (k, v) :: m, _, hm, h => by
      obtain ⟨w, hw, h⟩ := ok_of_bind_eq_ok h
      obtain ⟨d', hd', h⟩ := ok_of_bind_eq_ok h
      cases h
      exact List.forall_mem_cons.mpr ⟨holds_value hP hm.1 hw, holds_members hP hm.2 hd'⟩

theorem holds_scope (hP : Value.Hereditary P) : ∀ {m : List (String × Json)}
    {r : Except Refusal Document} {d : Document}, Json.WellKeyedMembers m →
      scope? m = some r → r = .ok d → (Entries.keys d).Nodup ∧ ∀ e ∈ d, P e.2
  | [], _, _, _, h, _ => by cases h
  | (k, v) :: m, r, d, hm, h, hr => by
      rw [scope?.eq_def] at h
      dsimp only at h
      split at h
      · split at h
        · rename_i inner
          cases h
          exact ⟨keys_of_members hr ▸ hm.1.1, holds_members hP hm.1.2 hr⟩
        · cases h
      · exact holds_scope hP hm.2 h hr

end

end Extended

namespace Value
namespace Hereditary

/-! ## Documents -/

variable {P : Value → Prop} (hP : Hereditary P) {d : Document}

include hP

/-- **The document of a well-keyed object** has every such property. -/
theorem ofMembers {m : Entries Json} (hm : (Json.object m).WellKeyed)
    (h : Document.ofMembers m = .ok d) : P (.document d) :=
  hP.document.mpr ⟨Extended.keys_of_members h ▸ hm.1, Extended.holds_members hP hm.2 h⟩

theorem nil : P (.document []) :=
  hP.document.mpr ⟨List.nodup_nil, fun _ he => nomatch he⟩

theorem put (h : P (.document d)) {v : Value} (hv : P v) (key : String) :
    P (.document (Entries.put key v d)) := by
  obtain ⟨hkeys, hvalues⟩ := hP.document.mp h
  refine hP.document.mpr ⟨Entries.nodup_keys_put hkeys, fun e he => ?_⟩
  rcases Entries.mem_put he with hvalue | hold
  · exact hvalue ▸ hv
  · exact hvalues e hold

theorem merge (h : P (.document d)) {new : Document} (hnew : ∀ e ∈ new, P e.2) :
    P (.document (Entries.merge d new)) := by
  obtain ⟨hkeys, hvalues⟩ := hP.document.mp h
  refine hP.document.mpr ⟨Entries.nodup_keys_merge hkeys, fun e he => ?_⟩
  rcases Entries.mem_merge he with ⟨e', he', hvalue⟩ | hold
  · exact hvalue ▸ hnew e' he'
  · exact hvalues e hold

theorem lookup (h : P (.document d)) {key : String} {v : Value}
    (hv : Entries.lookup key d = some v) : P v :=
  (hP.document.mp h).2 _ (Entries.mem_of_lookup hv)

theorem follow {depth : Nat} {path : List String} (h : P (.document d)) {v : Value}
    (hv : d.follow depth path = some v) : P v := by
  induction depth generalizing d path with
  | zero => simp [Document.follow] at hv
  | succ depth ih =>
      match path with
      | [] => simp [Document.follow] at hv
      | [key] => exact hP.lookup h hv
      | key :: next :: rest =>
          simp only [Document.follow] at hv
          split at hv
          · rename_i hinner
            exact ih (hP.lookup h hinner) hv
          · cases hv

/-- **The values at the end of a path** have what the document has. -/
theorem contributions (h : P (.document d)) {path : String} {v : Value}
    (hv : v ∈ d.contributions path) : P v := by
  have hend : ∀ w, d.getPath path = some w → P w := by
    intro w hw
    unfold Document.getPath at hw
    split at hw
    · cases hw
    · exact hP.follow h hw
  unfold Document.contributions at hv
  split at hv
  · rename_i hpath
    exact hP.array.mp (hend _ hpath) v hv
  · rename_i hpath
    rw [List.mem_singleton.mp hv]
    exact hend _ hpath
  · cases hv

end Hereditary
end Value
end SeriesCatalog
