import SeriesCatalog.Document.Extended
import SeriesCatalog.Document.Written
import SeriesCatalog.Proofs.Document.Equivalence
import SeriesCatalog.Proofs.Json.Injectivity
import SeriesCatalog.Proofs.Text.Encodings
import SeriesCatalog.Proofs.Text.Numerals

/-!
# Values read back from their JSON form

The special key of an object tells the kind of the value that it stands for, and whole numbers
have the width that their size asks for.  A value is read back from its JSON form unless this form
says too little: a number that is not finite becomes null, octets of the general kind a list, and a
whole number of the greater width may fit the smaller one.

* `Value.Ordinary`: the values whose JSON form says everything.

Results:
* `Value.value_toJson`: ordinary values are read back.
* `Value.text_toJson_inj`: the texts of ordinary values tell which they are.
* `Value.Ordinary.same_self`: an ordinary value equals itself.
-/

namespace SeriesCatalog
namespace Value

open Extended

/-! ## Numbers in JSON forms -/

theorem finiteItems_octets : ∀ l : List UInt8,
    Json.FiniteItems (l.map fun b => .whole b.toNat)
  | [] => trivial
  | _ :: l => ⟨trivial, finiteItems_octets l⟩

mutual

theorem finite_toJson : ∀ v : Value, v.toJson.Finite
  | .double (.finite negative rank) => ⟨negative, rank, rfl⟩
  | .array l => finite_itemsToJson l
  | .document m => finite_membersToJson m
  | .scopedCode _ m => ⟨trivial, finite_membersToJson m, trivial⟩
  | .binary s l => by
      rw [toJson]
      split
      · exact finiteItems_octets l
      · exact ⟨⟨trivial, trivial, trivial⟩, trivial⟩
  | .double (.infinite _) | .double .nan | .string _ | .bool _ | .null | .int32 _ | .int64 _ =>
      trivial
  | .decimal _ | .objectId _ | .code _ | .symbol _ | .minKey | .maxKey | .undefined =>
      ⟨trivial, trivial⟩
  | .dateTime _ => ⟨⟨trivial, trivial⟩, trivial⟩
  | .regex _ _ | .timestamp _ _ => ⟨⟨trivial, trivial, trivial⟩, trivial⟩
  | .pointer _ _ => ⟨⟨trivial, ⟨trivial, trivial⟩, trivial⟩, trivial⟩

theorem finite_itemsToJson : ∀ l : List Value, Json.FiniteItems (itemsToJson l)
  | [] => trivial
  | v :: l => ⟨finite_toJson v, finite_itemsToJson l⟩

theorem finite_membersToJson :
    ∀ m : List (String × Value), Json.FiniteMembers (membersToJson m)
  | [] => trivial
  | (_, v) :: m => ⟨finite_toJson v, finite_membersToJson m⟩

end

/-! ## Ordinary values -/

/-- The keys of objects that stand for values of kinds that JSON does not have. -/
def specialKeys : List String :=
  ["$oid", "$symbol", "$regularExpression", "$numberInt", "$numberLong", "$numberDouble",
    "$numberDecimal", "$binary", "$uuid", "$code", "$timestamp", "$date", "$minKey", "$maxKey",
    "$dbPointer", "$undefined"]

mutual

/-- The JSON form of a value says everything about it. -/
def Ordinary : Value → Prop
  | double d => ∃ negative rank, d = .finite negative rank
  | decimal d => Decimal.Decimal128.read? d.text = some d
  | array l => OrdinaryItems l
  | document m => (∀ key ∈ specialKeys, key ∉ Entries.keys m) ∧ OrdinaryMembers m
  | int32 n => Words.fitsSigned32 n = true
  | int64 n => Words.fitsSigned64 n = true ∧ Words.fitsSigned32 n = false
  | dateTime n => Words.fitsSigned64 n = true
  | binary s _ => s ≠ 0
  | scopedCode _ m => OrdinaryMembers m
  | regex p o => '\x00' ∉ p.toList ∧ '\x00' ∉ o.toList ∧ sortedOptions o = o
  | timestamp t i => t ≤ Words.greatest32 ∧ i ≤ Words.greatest32
  | _ => True

def OrdinaryItems : List Value → Prop
  | [] => True
  | v :: l => Ordinary v ∧ OrdinaryItems l

def OrdinaryMembers : List (String × Value) → Prop
  | [] => True
  | (_, v) :: m => Ordinary v ∧ OrdinaryMembers m

end

theorem ordinaryItems_iff {l : List Value} : OrdinaryItems l ↔ ∀ v ∈ l, v.Ordinary := by
  induction l with
  | nil => simp [OrdinaryItems]
  | cons v l ih => simp [OrdinaryItems, ih]

theorem ordinaryMembers_iff {m : Document} : OrdinaryMembers m ↔ ∀ e ∈ m, e.2.Ordinary := by
  induction m with
  | nil => simp [OrdinaryMembers]
  | cons e m ih => simp [OrdinaryMembers, ih]

/-! ## Reading back -/

theorem keys_membersToJson (m : Document) : Entries.keys (membersToJson m) = Entries.keys m := by
  induction m with
  | nil => rfl
  | cons e m ih =>
      obtain ⟨k, v⟩ := e
      exact congrArg (k :: ·) ih

theorem itemsToJson_eq_map (l : List Value) : itemsToJson l = l.map toJson := by
  induction l with
  | nil => rfl
  | cons v l ih => rw [itemsToJson, ih, List.map_cons]

theorem contains_eq_false {α : Type} {m : Entries α} {key : String} (h : key ∉ Entries.keys m) :
    Entries.contains key m = false := by
  cases hlookup : Entries.lookup key m with
  | none => simp [Entries.contains, hlookup]
  | some v => exact absurd (Entries.mem_keys_iff.mpr ⟨v, hlookup⟩) h

theorem special?_eq_none {m : Entries Json} (h : ∀ key ∈ specialKeys, key ∉ Entries.keys m) :
    special? m = none := by
  have hnone : ∀ key ∈ specialKeys, Entries.contains key m = false :=
    fun key hkey => contains_eq_false (h key hkey)
  simp only [specialKeys, List.forall_mem_cons] at hnone
  simp [special?, hnone]

/-! ### Special objects -/

section SpecialObjects

variable (s t : String)

theorem special?_oid : special? [("$oid", .string s)] = some (.objectId <$> objectIdOfText s) := by
  simp [special?, Entries.contains, Entries.lookup, readOne, readString]

theorem special?_symbol : special? [("$symbol", .string s)] = some (.ok (.symbol s)) := by
  simp [special?, Entries.contains, Entries.lookup, readOne, readString]

theorem special?_regularExpression :
    special? [("$regularExpression", .object [("pattern", .string s), ("options", .string t)])] =
      some (regexOfTexts s t) := by
  simp [special?, Entries.contains, Entries.lookup, readOne, readBody, readTwo, readString]

theorem special?_numberDecimal : special? [("$numberDecimal", .string s)] =
    some (decimalOfText s) := by
  simp [special?, Entries.contains, Entries.lookup, readOne, readString]

theorem special?_binary :
    special? [("$binary", .object [("base64", .string s), ("subType", .string t)])] =
      some (binaryOfTexts s t) := by
  simp [special?, Entries.contains, Entries.lookup, readOne, readBody, readTwo, readString]

theorem special?_date :
    special? [("$date", .object [("$numberLong", .string s)])] =
      some (.dateTime <$> wholeOfText Words.half64 "i64" s) := by
  simp [special?, Entries.contains, Entries.lookup, readOne, readDateBody, DateBody.instant]

theorem special?_dbPointer :
    special? [("$dbPointer", .object [("$ref", .string s),
      ("$id", .object [("$oid", .string t)])])] = some (.pointer s <$> objectIdOfText t) := by
  simp [special?, Entries.contains, Entries.lookup, readOne, readBody, readTwo, readPointedId,
    readString]

theorem special?_code : special? [("$code", .string s)] = some (.ok (.code s)) := by
  simp [special?, Entries.contains, Entries.lookup, readCode, readString]

theorem special?_scopedCode (m : List (String × Json)) :
    special? [("$code", .string s), ("$scope", .object m)] = some (.ok (.code s)) := by
  simp [special?, Entries.contains, Entries.lookup, readCode, readString]

theorem special?_timestamp {n m : Nat} (hn : n ≤ Words.greatest32) (hm : m ≤ Words.greatest32) :
    special? [("$timestamp", .object [("t", .whole n), ("i", .whole m)])] =
      some (.ok (.timestamp n m)) := by
  simp [special?, Entries.contains, Entries.lookup, readOne, readBody, readTwo, readWord,
    readUnsigned, hn, hm]

end SpecialObjects

/-! ### Texts in special objects -/

theorem objectIdOfText_hex (id : ObjectId) : objectIdOfText id.hex = .ok id := by
  rw [objectIdOfText, id.parse_hex]
  rfl

theorem wholeOfText_toString {n : Int} (h : Words.fitsSigned64 n = true) (name : String) :
    wholeOfText Words.half64 name (toString n) = .ok n := by
  simp only [Words.fitsSigned64, Bool.and_eq_true, decide_eq_true_eq] at h
  rw [wholeOfText, Text.readSigned_toString h.1 h.2]

theorem decimalOfText_text {d : Decimal.Decimal128} (h : Decimal.Decimal128.read? d.text = some d) :
    decimalOfText d.text = .ok (.decimal d) := by
  rw [decimalOfText, h]

theorem binaryOfTexts_encode (s : UInt8) (l : List UInt8) :
    binaryOfTexts (String.ofList (Text.Base64.encode l)) (String.ofList (Text.hexText 2 s.toNat)) =
      .ok (.binary s l) := by
  simp [binaryOfTexts, Text.Base64.decode?_encode, Text.octetsOfHex?_hexText]

theorem regexOfTexts_sorted {p o : String} (hp : '\x00' ∉ p.toList) (ho : '\x00' ∉ o.toList)
    (hsorted : sortedOptions o = o) : regexOfTexts p o = .ok (.regex p o) := by
  simp [regexOfTexts, endedByZero, hp, ho, hsorted]
  rfl

/-! ### Values -/

theorem ofWhole_of_fitsSigned32 {n : Int} (h : Words.fitsSigned32 n = true) :
    ofWhole n = .int32 n :=
  if_pos h

theorem ofWhole_of_fitsSigned64 {n : Int} (h : Words.fitsSigned64 n = true)
    (hlarge : Words.fitsSigned32 n = false) : ofWhole n = .int64 n := by
  simp [ofWhole, h, hlarge]

mutual

/-- **An ordinary value is read back from its JSON form.** -/
theorem value_toJson : ∀ {v : Value}, v.Ordinary → Extended.value v.toJson = .ok v
  | .double d, h => by
      obtain ⟨negative, rank, rfl⟩ := h
      rfl
  | .decimal d, h => by
      rw [toJson, value, special?_numberDecimal, decimalOfText_text h]
  | .string s, _ => rfl
  | .array l, h => by
      rw [toJson, value, values_itemsToJson h]
      rfl
  | .document m, h => by
      have hkeys : special? (membersToJson m) = none :=
        special?_eq_none ((keys_membersToJson m).symm ▸ h.1)
      rw [toJson, value, hkeys, members_membersToJson h.2]
      rfl
  | .bool b, _ => rfl
  | .null, _ => rfl
  | .int32 n, h => congrArg Except.ok (ofWhole_of_fitsSigned32 h)
  | .int64 n, h => congrArg Except.ok (ofWhole_of_fitsSigned64 h.1 h.2)
  | .objectId id, _ => by
      rw [toJson, writtenId, value, special?_oid, objectIdOfText_hex]
      rfl
  | .dateTime n, h => by
      rw [toJson, value, special?_date, wholeOfText_toString h]
      rfl
  | .binary s l, h => by
      rw [toJson, if_neg h, value, special?_binary, binaryOfTexts_encode]
  | .code s, _ => by
      rw [toJson, value, special?_code]
      rfl
  | .scopedCode s m, h => by
      rw [toJson, value, special?_scopedCode]
      simp [scope?, members_membersToJson h]
  | .symbol s, _ => by
      rw [toJson, value, special?_symbol]
  | .regex p o, h => by
      rw [toJson, value, special?_regularExpression, regexOfTexts_sorted h.1 h.2.1 h.2.2]
  | .timestamp t i, h => by
      rw [toJson, value, special?_timestamp h.1 h.2]
  | .pointer s id, _ => by
      rw [toJson, writtenId, value, special?_dbPointer, objectIdOfText_hex]
      rfl
  | .minKey, _ => rfl
  | .maxKey, _ => rfl
  | .undefined, _ => rfl

theorem values_itemsToJson :
    ∀ {l : List Value}, OrdinaryItems l → Extended.values (itemsToJson l) = .ok l
  | [], _ => rfl
  | v :: l, h => by
      rw [itemsToJson, values, value_toJson h.1, values_itemsToJson h.2]
      rfl

theorem members_membersToJson :
    ∀ {m : List (String × Value)}, OrdinaryMembers m →
      Extended.members (membersToJson m) = .ok m
  | [], _ => rfl
  | (k, v) :: m, h => by
      rw [membersToJson, members, value_toJson h.1, members_membersToJson h.2]
      rfl

end

/-! ## Consequences -/

/-- **The texts of ordinary values tell which they are.** -/
theorem text_toJson_inj {v w : Value} (hv : v.Ordinary) (hw : w.Ordinary) :
    v.toJson.text = w.toJson.text ↔ v = w := by
  rw [Json.text_inj (finite_toJson v) (finite_toJson w)]
  constructor
  · intro h
    have hread : (Except.ok v : Except Refusal Value) = .ok w := by
      rw [← value_toJson hv, h, value_toJson hw]
    exact Except.ok.inj hread
  · rintro rfl
    rfl

end Value

theorem Decimal.Double.same_self {d : Double} (h : d ≠ .nan) : d.same d = true := by
  cases d with
  | finite negative rank => exact same_finite_iff.mpr ⟨rfl, .inl rfl⟩
  | infinite negative => exact same_infinite_iff.mpr rfl
  | nan => exact absurd rfl h

namespace Value

theorem sameItems_self {l : List Value} (h : ∀ v ∈ l, same v v = true) : sameItems l l = true :=
  sameItems_iff.mpr (List.forall₂_same.mpr h)

theorem sameMembers_self {m : Document} (hkeys : (Entries.keys m).Nodup)
    (h : ∀ v ∈ m.map Prod.snd, same v v = true) : sameMembers m m = true := by
  refine sameMembers_iff.mpr fun e he => ⟨e.2, Entries.lookup_of_mem hkeys he, ?_⟩
  exact h e.2 (List.mem_map_of_mem he)

/-- A value equals itself if its parts do. -/
theorem same_self_of_parts {v : Value} (hkeys : v.WellKeyed) (hnumber : v ≠ .double .nan)
    (hparts : ∀ part ∈ v.parts, same part part = true) : same v v = true := by
  cases v with
  | double d => exact Decimal.Double.same_self fun hnan => hnumber (hnan ▸ rfl)
  | array l => exact sameItems_self hparts
  | document m => simp [same, sameMembers_self hkeys.1 hparts]
  | scopedCode s m => simp [same, sameMembers_self hkeys.1 hparts]
  | _ => simp [same]

theorem WellKeyed.parts {v : Value} (h : v.WellKeyed) {part : Value} (hpart : part ∈ v.parts) :
    part.WellKeyed := by
  cases v with
  | array l => exact wellKeyedItems_iff.mp h part hpart
  | document m | scopedCode _ m =>
      obtain ⟨e, he, rfl⟩ := List.mem_map.mp hpart
      exact wellKeyedMembers_iff.mp h.2 e he
  | _ => cases hpart

theorem Ordinary.parts {v : Value} (h : v.Ordinary) {part : Value} (hpart : part ∈ v.parts) :
    part.Ordinary := by
  cases v with
  | array l => exact ordinaryItems_iff.mp h part hpart
  | document m =>
      obtain ⟨e, he, rfl⟩ := List.mem_map.mp hpart
      exact ordinaryMembers_iff.mp h.2 e he
  | scopedCode _ m =>
      obtain ⟨e, he, rfl⟩ := List.mem_map.mp hpart
      exact ordinaryMembers_iff.mp h e he
  | _ => cases hpart

/-- **An ordinary value equals itself.** -/
theorem Ordinary.same_self {v : Value} (h : v.Ordinary) (hkeys : v.WellKeyed) :
    same v v = true := by
  induction v using induction_on_parts with
  | step v ih =>
      refine same_self_of_parts hkeys ?_ fun part hpart =>
        ih part hpart (h.parts hpart) (hkeys.parts hpart)
      rintro rfl
      obtain ⟨negative, rank, hfinite⟩ := h
      cases hfinite

end Value
end SeriesCatalog
