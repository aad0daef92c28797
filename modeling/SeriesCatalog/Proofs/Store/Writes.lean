import SeriesCatalog.Store.Records

/-!
# Writes to a store

A store is written by five operations.  Each of them comes down to edits: an edit has an
identity and says what becomes of the document under it.

* `Store.run`: the store after writes to the empty store.
* `Write.edits`: the edits of a write.  A write that fails has none, and loading has those of
  the records before the first that cannot be stored.
* `Store.write_eq_edits`: a write does what its edits do, one after the other.
-/

namespace SeriesCatalog

/-- A write to a store. -/
inductive Write
  /-- Adds a document, which has a fresh identity if it comes without one. -/
  | insert (fresh : ObjectId) (d : Document)
  /-- Merges fields into a series. -/
  | upsertFields (id : String) (fields : Document)
  /-- Merges a point into a series. -/
  | addPoint (id : String) (point : Store.Point)
  /-- Merges points into a series. -/
  | addPoints (id : String) (points : List Store.Point)
  /-- Loads records, with fresh identities for the lines without one. -/
  | load (fresh : Nat → ObjectId) (octets : List UInt8)

/-- A change of the document under an identity. -/
inductive Edit
  /-- A document takes the place of the old one. -/
  | replace (id : String) (d : Document)
  /-- Entries are merged into the document at a key. -/
  | merge (id key : String) (entries : Document)

namespace Store

/-- The store after a write.  A document that cannot be added leaves it as it is. -/
def write (s : Store) : Write → Store
  | .insert fresh d =>
      match s.insert fresh d with
      | .ok (_, s) => s
      | .error _ => s
  | .upsertFields id fields => s.upsertFields id fields
  | .addPoint id point => s.addPoint id point
  | .addPoints id points => s.addPoints id points
  | .load fresh octets => (s.load fresh octets).store

/-- The store after writes, one after the other. -/
def writeAll (s : Store) (ws : List Write) : Store :=
  ws.foldl write s

/-- The store after writes to the empty store. -/
def run (ws : List Write) : Store :=
  empty.writeAll ws

/-- The records of lines, of which the first has a number, up to the first line that cannot
be stored. -/
def recordsOfLines (fresh : Nat → ObjectId) (number : Nat) :
    List (List UInt8) → List (String × Document)
  | [] => []
  | line :: l =>
      match recordOfLine (fresh number) number line with
      | .error _ => []
      | .ok none => recordsOfLines fresh (number + 1) l
      | .ok (some r) => r :: recordsOfLines fresh (number + 1) l

/-- The document at a key, which is empty if there is another value or none. -/
def subdocument (key : String) (d : Document) : Document :=
  match Entries.lookup key d with
  | some (.document m) => m
  | _ => []

end Store

namespace Edit

def id : Edit → String
  | replace id _ => id
  | merge id _ _ => id

/-- The new document for the old one, if there is one. -/
def change : Edit → Option Document → Document
  | replace _ d, _ => d
  | merge id key entries, old? =>
      let d := old?.getD [(Series.identityKey, .string id)]
      Entries.put key (.document (Entries.merge (Store.subdocument key d) entries)) d

/-- Whether an edit keeps the identity of its document. -/
def Sound : Edit → Prop
  | replace id d => Store.identity d = .ok id
  | merge _ key _ => key ≠ Series.identityKey

end Edit

def Write.edits : Write → List Edit
  | insert fresh d =>
      match Store.named fresh d with
      | .ok (id, d) => [.replace id d]
      | .error _ => []
  | upsertFields id fields => [.merge id Series.fieldsKey fields]
  | addPoint id point => [.merge id Series.pointsKey (Store.entriesOfPoints [point])]
  | addPoints id points => [.merge id Series.pointsKey (Store.entriesOfPoints points)]
  | load fresh octets =>
      (Store.recordsOfLines fresh 1 (Text.lines octets)).map fun r => .replace r.1 r.2

namespace Store

/-- Changes the document under an identity, or adds it. -/
def edit (s : Store) (e : Edit) : Store :=
  match s.places[e.id]? with
  | some place => { s with documents := s.documents.modify place fun d => e.change (some d) }
  | none => s.append e.id (e.change none)

/-- A document is put at a place like any other change of the document there. -/
theorem set_eq_edit (id : String) (d : Document) (s : Store) :
    s.set id d = s.edit (.replace id d) := by
  simp only [set, edit, Edit.id, Edit.change]
  cases s.places[id]? with
  | none => rfl
  | some place =>
      have hdocuments :
          s.documents.setIfInBounds place d = s.documents.modify place fun _ => d := by
        apply Array.ext_getElem?
        intro i
        rw [Array.getElem?_setIfInBounds, Array.getElem?_modify]
        by_cases hi : place = i
        · subst hi
          by_cases hp : place < s.documents.size <;> simp [hp]
        · simp [hi]
      simp only [hdocuments]

theorem subdocument_put (key : String) (m d : Document) :
    subdocument key (Entries.put key (.document m) d) = m := by
  simp [subdocument]

theorem mergeAt_eq_put (key : String) (entries d : Document) :
    mergeAt key entries d =
      Entries.put key (.document (Entries.merge (subdocument key d) entries)) d := by
  simp only [mergeAt, subdocument]
  cases Entries.lookup key d with
  | none => rfl
  | some v => cases v <;> rfl

theorem mergeInto_eq_edit (id key : String) (entries : Document) (s : Store) :
    s.mergeInto id key entries = s.edit (.merge id key entries) := by
  have hmerge : mergeAt key entries = fun d =>
      Entries.put key (.document (Entries.merge (subdocument key d) entries)) d :=
    funext fun d => mergeAt_eq_put key entries d
  cases hplace : s.places[id]? with
  | none =>
      simp only [mergeInto, edit, Edit.id, hplace, hmerge, newSeries, Edit.change,
        Option.getD_none]
  | some place =>
      simp only [mergeInto, edit, Edit.id, hplace, hmerge, Edit.change, Option.getD_some]

/-- Loading stores the records of the lines, one after the other. -/
theorem store_loadLines (fresh : Nat → ObjectId) :
    ∀ (lines : List (List UInt8)) (number inserted : Nat) (s : Store),
      (loadLines fresh number inserted s lines).store =
        (recordsOfLines fresh number lines).foldl (fun s r => s.set r.1 r.2) s
  | [], _, _, _ => rfl
  | line :: l, number, inserted, s => by
      simp only [loadLines, recordsOfLines]
      match recordOfLine (fresh number) number line with
      | .error e => rfl
      | .ok none => exact store_loadLines fresh l (number + 1) inserted s
      | .ok (some (id, d)) => exact store_loadLines fresh l (number + 1) (inserted + 1) _

/-- **A write is its edits.** -/
theorem write_eq_edits (s : Store) (w : Write) : s.write w = w.edits.foldl edit s := by
  cases w with
  | insert fresh d =>
      simp only [write, insert, Write.edits]
      cases named fresh d with
      | error e => rfl
      | ok r => exact set_eq_edit r.1 r.2 s
  | upsertFields id fields => exact mergeInto_eq_edit id _ fields s
  | addPoint id point => exact mergeInto_eq_edit id _ _ s
  | addPoints id points => exact mergeInto_eq_edit id _ _ s
  | load fresh octets =>
      simp only [write, load, Write.edits, store_loadLines, List.foldl_map, set_eq_edit]

/-- Writes are the edits of them all. -/
theorem writeAll_eq_edits (ws : List Write) :
    ∀ s : Store, s.writeAll ws = (ws.flatMap Write.edits).foldl edit s := by
  induction ws with
  | nil => exact fun _ => rfl
  | cons w ws ih =>
      intro s
      rw [List.flatMap_cons, List.foldl_append, ← write_eq_edits]
      exact ih (s.write w)

theorem identity_of_named {fresh : ObjectId} {d : Document} {r : String × Document}
    (h : named fresh d = .ok r) : identity r.2 = .ok r.1 := by
  simp only [named] at h
  split at h
  · cases h
    assumption
  · cases h

theorem identity_of_recordOfLine {fresh : ObjectId} {number : Nat} {line : List UInt8}
    {r : String × Document} (h : recordOfLine fresh number line = .ok (some r)) :
    identity r.2 = .ok r.1 := by
  simp only [recordOfLine] at h
  split at h
  · cases h
  · split at h
    · cases h
    · split at h
      · cases h
      · split at h
        · cases h
        · rename_i hnamed
          cases h
          exact identity_of_named hnamed

theorem identity_of_mem_recordsOfLines (fresh : Nat → ObjectId) :
    ∀ (lines : List (List UInt8)) (number : Nat) (r : String × Document),
      r ∈ recordsOfLines fresh number lines → identity r.2 = .ok r.1
  | [], _, _, h => by cases h
  | line :: l, number, r, h => by
      simp only [recordsOfLines] at h
      split at h
      · cases h
      · exact identity_of_mem_recordsOfLines fresh l _ r h
      · rename_i hline
        rcases List.mem_cons.mp h with rfl | h
        · exact identity_of_recordOfLine hline
        · exact identity_of_mem_recordsOfLines fresh l _ r h

end Store

/-- The edits of a write keep the identities of the documents. -/
theorem Write.sound_of_mem_edits {w : Write} {e : Edit} (h : e ∈ w.edits) : e.Sound := by
  cases w with
  | insert fresh d =>
      simp only [edits] at h
      split at h
      · rename_i hnamed
        rcases List.mem_singleton.mp h with rfl
        exact Store.identity_of_named hnamed
      · cases h
  | upsertFields id fields =>
      rcases List.mem_singleton.mp h with rfl
      exact (by decide : Series.fieldsKey ≠ Series.identityKey)
  | addPoint id point =>
      rcases List.mem_singleton.mp h with rfl
      exact (by decide : Series.pointsKey ≠ Series.identityKey)
  | addPoints id points =>
      rcases List.mem_singleton.mp h with rfl
      exact (by decide : Series.pointsKey ≠ Series.identityKey)
  | load fresh octets =>
      obtain ⟨r, hr, rfl⟩ := List.mem_map.mp h
      exact Store.identity_of_mem_recordsOfLines fresh _ _ r hr

end SeriesCatalog
