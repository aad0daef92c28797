import SeriesCatalog.Proofs.Document.Widths
import SeriesCatalog.Proofs.Success
import SeriesCatalog.Service.Envelope

/-!
# Answers as they are written

An answer is written as an object with a member for each of its parts.  If its values can be
written, it is this object that its line holds, and not a complaint; and if they are sound, the
line is read as an object that tells what the answer was.

* `Envelope.keys`: the keys of the parts of an answer, in order.
* `Envelope.Sound`: answers of sound values, with a count of 64 bits.
* `Envelope.Tells`: what the members that were read say about an answer.

Results:
* `Envelope.lineBy_eq`: the line of an answer whose values can be written.
* `Envelope.Sound.legible`: the line of a sound answer can be read.
* `Envelope.Sound.readWith_text`: it is read as an object that tells of the answer.
-/

namespace SeriesCatalog
namespace Envelope

/-- The keys of the parts that an answer has, in order. -/
def keys (e : Envelope) : List String :=
  "success" :: ((if e.documents?.isSome then ["content"] else [])
    ++ (if e.count?.isSome then ["len"] else [])
    ++ (if e.distinct?.isSome then ["distinct"] else [])
    ++ (if e.message?.isSome then ["error"] else []))

/-- The values of an answer are sound, the keys of its lists differ, and its count has 64 bits. -/
structure Sound (e : Envelope) : Prop where
  documents : ∀ l, e.documents? = some l → ∀ d ∈ l, (Value.document d).Sound
  count : ∀ n, e.count? = some n → n ≤ Words.greatest64
  keys : ∀ m, e.distinct? = some m → (Entries.keys m).Nodup
  lists : ∀ m, e.distinct? = some m → ∀ x ∈ m, ∀ v ∈ x.2, v.Sound

/-- Members that have a key for each part of an answer, with what the part is read as. -/
structure Tells (e : Envelope) (m : Entries Json) : Prop where
  keys : Entries.keys m = e.keys
  success : Entries.lookup "success" m = some (.bool e.isSuccess)
  content : Entries.lookup "content" m =
    e.documents?.map fun l => .list (l.map fun d => d.toJson.reread)
  len : Entries.lookup "len" m = e.count?.map fun n : Nat => .whole n
  distinct : Entries.lookup "distinct" m = e.distinct?.map fun lists =>
    .object (lists.map fun x => (x.1, .list (x.2.map fun v => v.toJson.reread)))
  error : Entries.lookup "error" m = e.message?.map .string

variable {e : Envelope} {write : Value → Except String Json}

/-! ## What is written -/

section Written

variable (hwrite : ∀ v : Value, v.Sound → write v = .ok v.toJson)

include hwrite

theorem writeBy_eq {m : DistinctMap} (hm : ∀ x ∈ m, ∀ v ∈ x.2, v.Sound) :
    m.writeBy write = .ok m.toJson := by
  have hlist : ∀ x ∈ m, (fun l => (x.1, Json.list l)) <$> x.2.mapM write =
      .ok (x.1, .list (Value.itemsToJson x.2)) := by
    intro x hx
    rw [mapM_eq_ok fun v hv => hwrite v (hm x hx v hv), Value.itemsToJson_eq_map]
    rfl
  rw [DistinctMap.writeBy, mapM_eq_ok hlist]
  rfl

/-- **An answer of sound values is written**, whatever becomes of other values. -/
theorem Sound.membersBy_eq (h : e.Sound) : e.membersBy write = .ok e.members := by
  cases e with
  | failure message => rfl
  | success result lists? =>
      have hcontent : result.documents?.mapM (fun l => l.mapM fun d => write (.document d)) =
          .ok (result.documents?.map fun l => l.map Document.toJson) :=
        option_mapM_eq_ok fun l hl => mapM_eq_ok fun d hd => hwrite _ (h.documents l hl d hd)
      have hlists : lists?.mapM (DistinctMap.writeBy write) =
          .ok (lists?.map DistinctMap.toJson) :=
        option_mapM_eq_ok fun m hm => writeBy_eq hwrite (h.lists m hm)
      rw [membersBy, hcontent, hlists]
      cases result <;> cases lists? <;> rfl

theorem Sound.lineBy_eq (h : e.Sound) : e.lineBy write = e.toJson.text := by
  rw [lineBy, h.membersBy_eq hwrite, toJson]

end Written

/-! ## What is read -/

theorem keys_members (e : Envelope) : Entries.keys e.members = e.keys := by
  cases e with
  | failure message => rfl
  | success result lists? => cases result <;> cases lists? <;> rfl

theorem nodup_keys (e : Envelope) : e.keys.Nodup := by
  have hall : ∀ content len distinct error : Bool,
      ("success" :: ((if content then ["content"] else []) ++ (if len then ["len"] else [])
        ++ (if distinct then ["distinct"] else [])
        ++ (if error then ["error"] else []))).Nodup := by decide
  exact hall _ _ _ _

theorem legible_lists {m : DistinctMap} (hkeys : (Entries.keys m).Nodup)
    (hm : ∀ x ∈ m, ∀ v ∈ x.2, v.Sound) : m.toJson.Legible := by
  refine Json.legible_object_iff.mpr ⟨?_, fun x hx => ?_⟩
  · simpa [Entries.keys, Function.comp_def] using hkeys
  · obtain ⟨y, hy, rfl⟩ := List.mem_map.mp hx
    exact Json.legible_list_iff.mpr (Value.legible_items (hm y hy))

/-- **The line of a sound answer can be read.** -/
theorem Sound.legible (h : e.Sound) : e.toJson.Legible := by
  refine Json.legible_object_iff.mpr ⟨e.keys_members ▸ e.nodup_keys, ?_⟩
  cases e with
  | failure message => simp [members]
  | success result lists? =>
      intro x hx
      simp only [members, List.mem_cons, List.mem_append, Option.mem_toList,
        Option.map_eq_some_iff] at hx
      rcases hx with rfl | (⟨l, hl, rfl⟩ | ⟨n, hn, rfl⟩) | ⟨m, hm, rfl⟩
      · exact Json.legible_bool true
      · refine Json.legible_list_iff.mpr fun v hv => ?_
        obtain ⟨d, hd, rfl⟩ := List.mem_map.mp hv
        exact (h.documents l hl d hd).legible
      · exact Value.legible_nat (h.count n hn)
      · exact legible_lists (h.keys m hm) (h.lists m hm)

theorem keys_rereadMembers (m : Entries Json) :
    Entries.keys (Json.rereadMembers m) = Entries.keys m := by
  simp [Json.rereadMembers_eq_map, Entries.keys, Function.comp_def]

theorem reread_lists (m : DistinctMap) :
    m.toJson.reread =
      .object (m.map fun x => (x.1, .list (x.2.map fun v => v.toJson.reread))) := by
  simp [DistinctMap.toJson, Json.reread, Json.rereadMembers_eq_map, Json.rereadItems_eq_map,
    Value.itemsToJson_eq_map, Function.comp_def]

/-- The members that the line of an answer has tell of the answer when they are read. -/
theorem tells_rereadMembers (e : Envelope) : e.Tells (Json.rereadMembers e.members) := by
  have hkeys : Entries.keys (Json.rereadMembers e.members) = e.keys :=
    (keys_rereadMembers _).trans e.keys_members
  cases e with
  | failure message =>
      exact ⟨hkeys, rfl, rfl, rfl, rfl, rfl⟩
  | success result lists? =>
      cases result <;> cases lists? <;> refine ⟨hkeys, ?_, ?_, ?_, ?_, ?_⟩ <;>
        simp [members, Json.rereadMembers, Entries.lookup, Json.reread, Json.rereadItems_eq_map,
          reread_lists, isSuccess, documents?, count?, distinct?, message?,
          ResultSet.documents?, ResultSet.count?]

/-- **The line of a sound answer is read as an object that tells of it.** -/
theorem Sound.readWith_text (h : e.Sound) :
    ∃ m, Json.readWith none e.toJson.text = .ok (.object m) ∧ e.Tells m :=
  ⟨Json.rereadMembers e.members, Json.readWith_text h.legible, e.tells_rereadMembers⟩

end Envelope
end SeriesCatalog
