import SeriesCatalog.Proofs.Store.Writes
import SeriesCatalog.Proofs.Text.Trimming
import SeriesCatalog.Service.Startup

/-!
# Loading records one after the other

Records are read from lines.  A line is blank, it holds a document that can be stored, or it is
refused.  Loading comes down to inserting the documents of the lines, in order, up to the first
line that is refused.

* `Store.isBlankLine`, `Store.documentOfLine?`: what a line holds, said without the steps of
  loading and without their errors.
* `Store.insertions`: the insertions of the documents of lines.
* `Store.AllRecords`: no line is refused.
* `Store.LoadedFrom`: a store that a whole file gives.

Results:
* `Store.loadLines_append`: lines that are not refused are inserted, and loading goes on behind
  them.
* `Store.exists_first_refused`: the first line that is refused.
* `Store.load_inserts_documents`: the store after loading, and when a file gives a store.
-/

namespace SeriesCatalog
namespace Store

/-- Whether a document can be stored: it has no identity, or a text or an object identifier. -/
def hasUsableIdentity (d : Document) : Bool :=
  match Entries.lookup Series.identityKey d with
  | none => true
  | some (.string _) => true
  | some (.objectId _) => true
  | some _ => false

def isBlankLine (line : List UInt8) : Bool :=
  match Text.Utf8.decode line with
  | .ok text => Text.isBlankText text
  | .error _ => false

/-- The document of a line: the line is a text that is, without the blanks around it, a JSON
object with a document that can be stored. -/
def documentOfLine? (line : List UInt8) : Option Document :=
  match Text.Utf8.decode line with
  | .error _ => none
  | .ok text =>
      match Json.read (Text.trimBlanks text) with
      | .ok (.object m) =>
          match Document.ofMembers m with
          | .ok d => if hasUsableIdentity d then some d else none
          | .error _ => none
      | _ => none

/-- The insertions of the documents of lines, of which the first has a number. -/
def insertions (fresh : Nat → ObjectId) (number : Nat) : List (List UInt8) → List Write
  | [] => []
  | line :: l =>
      match documentOfLine? line with
      | some d => .insert (fresh number) d :: insertions fresh (number + 1) l
      | none => insertions fresh (number + 1) l

/-- Every line that is not blank holds a document that can be stored. -/
def AllRecords (lines : List (List UInt8)) : Prop :=
  ∀ line ∈ lines, isBlankLine line = false → ∃ d, documentOfLine? line = some d

theorem allRecords_cons {line : List UInt8} {l : List (List UInt8)} :
    AllRecords (line :: l) ↔
      (isBlankLine line = false → ∃ d, documentOfLine? line = some d) ∧ AllRecords l :=
  List.forall_mem_cons

/-- A line that is neither blank nor holds a document that can be stored. -/
def Refused (line : List UInt8) : Prop :=
  isBlankLine line = false ∧ documentOfLine? line = none

theorem AllRecords.not_refused {lines : List (List UInt8)} {line : List UInt8}
    (h : AllRecords lines) (hmem : line ∈ lines) : ¬Refused line := by
  rintro ⟨hblank, hnone⟩
  obtain ⟨d, hd⟩ := h line hmem hblank
  rw [hnone] at hd
  cases hd

/-- All lines of a file are records, and a store holds their documents. -/
def LoadedFrom (fresh : Nat → ObjectId) (octets : List UInt8) (s : Store) : Prop :=
  AllRecords (Text.lines octets) ∧
    s = empty.writeAll (insertions fresh 1 (Text.lines octets))

section Lines

variable {line : List UInt8} {text : String}

theorem isBlankLine_of_text (htext : Text.Utf8.decode line = .ok text) :
    isBlankLine line = (Text.trimBlanks text).isEmpty := by
  simp [isBlankLine, htext, Text.isEmpty_trimBlanks]

theorem documentOfLine?_of_text (htext : Text.Utf8.decode line = .ok text) :
    documentOfLine? line =
      (documentOfRecord (Text.trimBlanks text)).toOption.filter hasUsableIdentity := by
  simp only [documentOfLine?, documentOfRecord, htext]
  cases Json.read (Text.trimBlanks text) with
  | error e => rfl
  | ok v =>
      cases v with
      | object m =>
          cases hm : Document.ofMembers m with
          | error refusal => simp [hm, Except.toOption]
          | ok d => simp [hm, Except.toOption, Option.filter]
      | null | bool _ | whole _ | double _ | string _ | list _ => rfl

theorem documentOfRecord_eq_ok_iff {d : Document} :
    documentOfRecord text = .ok d ↔
      ∃ m, Json.read text = .ok (.object m) ∧ Document.ofMembers m = .ok d := by
  unfold documentOfRecord
  cases hread : Json.read text with
  | error e => simp
  | ok v =>
      cases v with
      | object m => cases hm : Document.ofMembers m <;> simp [hm]
      | null | bool _ | whole _ | double _ | string _ | list _ => simp

theorem documentOfLine?_of_record {d : Document} (htext : Text.Utf8.decode line = .ok text)
    (hd : documentOfRecord (Text.trimBlanks text) = .ok d) :
    documentOfLine? line = if hasUsableIdentity d then some d else none := by
  simp [documentOfLine?_of_text htext, hd, Except.toOption, Option.filter]

/-- An empty text is no JSON value, so that a blank line holds no document. -/
theorem documentOfLine?_of_blank (h : isBlankLine line = true) : documentOfLine? line = none := by
  cases htext : Text.Utf8.decode line with
  | error flaw => simp [documentOfLine?, htext]
  | ok text =>
      have hempty : Text.trimBlanks text = "" := by
        rwa [isBlankLine_of_text htext, String.isEmpty_iff] at h
      rw [documentOfLine?_of_text htext, hempty]
      rfl

theorem recordOfLine_of_blank (fresh : ObjectId) (number : Nat) (h : isBlankLine line = true) :
    recordOfLine fresh number line = .ok none := by
  cases htext : Text.Utf8.decode line with
  | error flaw => simp [isBlankLine, htext] at h
  | ok text =>
      rw [isBlankLine_of_text htext] at h
      simp [recordOfLine, htext, h]

theorem exists_named_iff (fresh : ObjectId) {d : Document} :
    (∃ r, named fresh d = .ok r) ↔ hasUsableIdentity d = true := by
  unfold named identity identified hasUsableIdentity
  cases hid : Entries.lookup Series.identityKey d with
  | none => simp [Entries.contains, hid, identityOfValue]
  | some v => cases v <;> simp [Entries.contains, hid, identityOfValue]

theorem recordOfLine_of_document (fresh : ObjectId) (number : Nat) {d : Document}
    (h : documentOfLine? line = some d) :
    ∃ r, named fresh d = .ok r ∧ recordOfLine fresh number line = .ok (some r) := by
  cases htext : Text.Utf8.decode line with
  | error flaw => simp [documentOfLine?, htext] at h
  | ok text =>
      have hblank : (Text.trimBlanks text).isEmpty = false := by
        rw [← isBlankLine_of_text htext, Bool.eq_false_iff]
        intro hblank
        simp [documentOfLine?_of_blank hblank] at h
      rw [documentOfLine?_of_text htext, Option.filter_eq_some_iff] at h
      obtain ⟨hd, hid⟩ := h
      obtain ⟨r, hr⟩ := (exists_named_iff fresh).mpr hid
      have hrecord : documentOfRecord (Text.trimBlanks text) = .ok d := by
        cases hx : documentOfRecord (Text.trimBlanks text) with
        | error e => simp [hx, Except.toOption] at hd
        | ok d' => simpa [hx, Except.toOption] using hd
      exact ⟨r, hr, by simp [recordOfLine, htext, hblank, hrecord, hr]⟩

theorem recordOfLine_of_refused (fresh : ObjectId) (number : Nat) (h : Refused line) :
    ∃ e, recordOfLine fresh number line = .error e := by
  obtain ⟨hblank, hnone⟩ := h
  cases htext : Text.Utf8.decode line with
  | error flaw => exact ⟨.io notText, by simp only [recordOfLine, htext]⟩
  | ok text =>
      rw [isBlankLine_of_text htext] at hblank
      cases hrecord : documentOfRecord (Text.trimBlanks text) with
      | error e => exact ⟨_, by simp only [recordOfLine, htext, hblank, hrecord]; rfl⟩
      | ok d =>
          have hid : ¬∃ r, named fresh d = .ok r := by
            rw [exists_named_iff]
            simpa [documentOfLine?_of_text htext, hrecord, Except.toOption, Option.filter]
              using hnone
          cases hnamed : named fresh d with
          | ok r => exact absurd ⟨r, hnamed⟩ hid
          | error e => exact ⟨e, by simp [recordOfLine, htext, hblank, hrecord, hnamed]⟩

end Lines

theorem write_insert_of_named {fresh : ObjectId} {d : Document} {r : String × Document}
    (h : named fresh d = .ok r) (s : Store) : s.write (.insert fresh d) = s.set r.1 r.2 := by
  simp [write, insert, h]

section Runs

variable (fresh : Nat → ObjectId)

/-- **Lines that are not refused are inserted**, and loading goes on behind them. -/
theorem loadLines_append {before : List (List UInt8)} (h : AllRecords before)
    (rest : List (List UInt8)) (number inserted : Nat) (s : Store) :
    loadLines fresh number inserted s (before ++ rest) =
      loadLines fresh (number + before.length)
        (inserted + (insertions fresh number before).length)
        (s.writeAll (insertions fresh number before)) rest := by
  induction before generalizing number inserted s with
  | nil => rfl
  | cons line before ih =>
      obtain ⟨hline, htail⟩ := allRecords_cons.mp h
      rw [List.cons_append, loadLines, insertions]
      cases hblank : isBlankLine line with
      | true =>
          simp only [recordOfLine_of_blank _ _ hblank, documentOfLine?_of_blank hblank, ih htail,
            List.length_cons, Nat.add_assoc, Nat.add_comm 1]
      | false =>
          obtain ⟨d, hd⟩ := hline hblank
          obtain ⟨r, hnamed, hrecord⟩ := recordOfLine_of_document (fresh number) number hd
          simp only [hrecord, hd, ih htail, List.length_cons, writeAll, List.foldl_cons,
            write_insert_of_named hnamed, Nat.add_assoc, Nat.add_comm 1]

theorem length_insertions {lines : List (List UInt8)} (h : AllRecords lines) (number : Nat) :
    (insertions fresh number lines).length = (lines.filter fun l => !isBlankLine l).length := by
  induction lines generalizing number with
  | nil => rfl
  | cons line l ih =>
      obtain ⟨hline, htail⟩ := allRecords_cons.mp h
      rw [insertions]
      cases hblank : isBlankLine line with
      | true => simp [documentOfLine?_of_blank hblank, hblank, ih htail]
      | false =>
          obtain ⟨d, hd⟩ := hline hblank
          simp [hd, hblank, ih htail]

/-- Lines that are not all records have a first one that is refused. -/
theorem exists_first_refused {lines : List (List UInt8)} (h : ¬AllRecords lines) :
    ∃ before line after, lines = before ++ line :: after ∧ AllRecords before ∧ Refused line := by
  induction lines with
  | nil => exact absurd (List.forall_mem_nil _) h
  | cons line l ih =>
      by_cases hrefused : Refused line
      · exact ⟨[], line, l, rfl, List.forall_mem_nil _, hrefused⟩
      · have hline : isBlankLine line = false → ∃ d, documentOfLine? line = some d := by
          intro hblank
          rw [← Option.ne_none_iff_exists']
          exact fun hnone => hrefused ⟨hblank, hnone⟩
        have htail : ¬AllRecords l := fun hl => h (allRecords_cons.mpr ⟨hline, hl⟩)
        obtain ⟨before, line', after, rfl, hbefore, hrefused'⟩ := ih htail
        exact ⟨line :: before, line', after, rfl, allRecords_cons.mpr ⟨hline, hbefore⟩,
          hrefused'⟩

/-- There is one first line that is refused. -/
theorem before_eq_of_refused {before before' after after' : List (List UInt8)}
    {line line' : List UInt8} (h : before ++ line :: after = before' ++ line' :: after')
    (hbefore : AllRecords before) (hline : Refused line) (hbefore' : AllRecords before')
    (hline' : Refused line') : before = before' := by
  induction before generalizing before' with
  | nil =>
      cases before' with
      | nil => rfl
      | cons l before' =>
          obtain ⟨rfl, -⟩ := List.cons.inj h
          exact absurd hline (hbefore'.not_refused List.mem_cons_self)
  | cons l before ih =>
      cases before' with
      | nil =>
          obtain ⟨rfl, -⟩ := List.cons.inj h
          exact absurd hline' (hbefore.not_refused List.mem_cons_self)
      | cons l' before' =>
          obtain ⟨rfl, hrest⟩ := List.cons.inj h
          rw [ih hrest (allRecords_cons.mp hbefore).2 (allRecords_cons.mp hbefore').2]

theorem load_of_allRecords {octets : List UInt8} (h : AllRecords (Text.lines octets))
    (s : Store) :
    s.load fresh octets =
      ⟨s.writeAll (insertions fresh 1 (Text.lines octets)),
        ((Text.lines octets).filter fun l => !isBlankLine l).length, none⟩ := by
  have hload := loadLines_append fresh h [] 1 0 s
  rw [List.append_nil, Nat.zero_add, length_insertions fresh h] at hload
  exact hload

theorem load_of_refused {octets : List UInt8} {before after : List (List UInt8)}
    {line : List UInt8} (hlines : Text.lines octets = before ++ line :: after)
    (h : AllRecords before) (hrefused : Refused line) (s : Store) :
    (∃ e, (s.load fresh octets).failure? = some e) ∧
      (s.load fresh octets).store = s.writeAll (insertions fresh 1 before) := by
  obtain ⟨e, he⟩ :=
    recordOfLine_of_refused (fresh (1 + before.length)) (1 + before.length) hrefused
  rw [load, hlines, loadLines_append fresh h]
  simp only [loadLines, he]
  exact ⟨⟨e, rfl⟩, trivial⟩

theorem failure?_load_eq_none_iff (octets : List UInt8) (s : Store) :
    (s.load fresh octets).failure? = none ↔ AllRecords (Text.lines octets) := by
  constructor
  · intro hnone
    refine Classical.byContradiction fun hnot => ?_
    obtain ⟨before, line, after, hlines, hbefore, hrefused⟩ := exists_first_refused hnot
    obtain ⟨⟨e, he⟩, -⟩ := load_of_refused fresh hlines hbefore hrefused s
    simp [hnone] at he
  · intro h
    rw [load_of_allRecords fresh h]

theorem size_write_insert {id : ObjectId} {d : Document} {r : String × Document}
    (h : named id d = .ok r) (s : Store) :
    (s.write (.insert id d)).size = if r.1 ∈ s.places then s.size else s.size + 1 := by
  rw [write_insert_of_named h]
  simp only [set, size, Std.HashMap.mem_iff_isSome_getElem?]
  cases s.places[r.1]? with
  | none => simp [append]
  | some place => simp

theorem size_write_insert_le (s : Store) (id : ObjectId) (d : Document) :
    (s.write (.insert id d)).size ≤ s.size + 1 := by
  cases hnamed : named id d with
  | error e => simp [write, insert, hnamed]
  | ok r =>
      rw [size_write_insert hnamed]
      split <;> omega

/-- A store grows by at most one document for each insertion. -/
theorem size_writeAll_insertions_le (lines : List (List UInt8)) (number : Nat) (s : Store) :
    (s.writeAll (insertions fresh number lines)).size ≤
      s.size + (insertions fresh number lines).length := by
  induction lines generalizing number s with
  | nil => exact Nat.le_refl _
  | cons line l ih =>
      rw [insertions]
      cases documentOfLine? line with
      | none => exact ih (number + 1) s
      | some d =>
          have hfirst := size_write_insert_le s (fresh number) d
          have hrest := ih (number + 1) (s.write (.insert (fresh number) d))
          simp only [writeAll, List.foldl_cons, List.length_cons] at hrest ⊢
          omega

end Runs

end Store

namespace Startup

variable (fresh : Nat → ObjectId) (t : FileTree)

/-- A file gives a store exactly if all of its lines are records. -/
theorem openStore_eq_ok_iff {path : String} {s : Store} :
    (openStore fresh t path).1 = .ok s ↔
      ∃ octets, t.contents path = .octets octets ∧ s.LoadedFrom fresh octets := by
  unfold openStore Store.LoadedFrom
  cases hcontents : t.contents path with
  | closed c => simp
  | unreadable c => simp
  | octets l =>
      cases hfailure : (Store.empty.load fresh l).failure? with
      | some e =>
          have hnot : ¬Store.AllRecords (Text.lines l) := by
            rw [← Store.failure?_load_eq_none_iff fresh l Store.empty, hfailure]
            simp
          simp [hfailure, hnot]
      | none =>
          have h := (Store.failure?_load_eq_none_iff fresh l Store.empty).mp hfailure
          simp [h, Store.load_of_allRecords fresh h, eq_comm]

theorem openStore_error {path : String} {e : StoreError}
    (h : (openStore fresh t path).1 = .error e) : ∃ detail, e = .connect detail := by
  have hconnect : ∃ complaint, e = connectError path complaint := by
    unfold openStore at h
    cases hcontents : t.contents path with
    | closed c => exact ⟨c, by simpa [hcontents, eq_comm] using h⟩
    | unreadable c => exact ⟨_, by simpa [hcontents, eq_comm] using h⟩
    | octets l =>
        cases hfailure : (Store.empty.load fresh l).failure? with
        | some e' => exact ⟨e'.message, by simpa [hcontents, hfailure, eq_comm] using h⟩
        | none => simp [hcontents, hfailure] at h
  obtain ⟨complaint, rfl⟩ := hconnect
  exact ⟨_, rfl⟩

/-- At the start a store comes from the file that the settings name, or is empty. -/
theorem store_eq_ok_iff {settings : Settings} {s : Store} :
    (store fresh t settings).1 = .ok s ↔
      (settings.dataPath? = none ∧ s = .empty) ∨
      ∃ path octets, settings.dataPath? = some path ∧ t.contents path = .octets octets ∧
        s.LoadedFrom fresh octets := by
  cases hpath : settings.dataPath? with
  | none => simp [store, hpath, eq_comm]
  | some path => simp [store, hpath, openStore_eq_ok_iff]

theorem store_error {settings : Settings} {e : StoreError}
    (h : (store fresh t settings).1 = .error e) : ∃ detail, e = .connect detail := by
  cases hpath : settings.dataPath? with
  | none => simp [store, hpath] at h
  | some path =>
      simp only [store, hpath] at h
      exact openStore_error fresh t h

end Startup

namespace Store

/-- **Loading inserts records up to the first line that is refused.**  The lines make up the octets
and end at the line feeds in them.  Loading succeeds exactly if every line that is not blank is a
record; the store is then the one after the insertions of all of them, of which there are as many
as lines that are not blank.  An insertion adds a document only if its identity is new.  If a line
is refused, the store is the one after the insertions of the lines before the first such line.  A
file that is opened, at the start of the service or not, gives a store only if all of its lines are
records, and every failure is one to connect. -/
theorem load_inserts_documents (fresh : Nat → ObjectId) (octets : List UInt8) (s : Store) :
    (∀ contents, Text.LinesOf contents (Text.lines contents)) ∧
    ((s.load fresh octets).failure? = none ∧ (s.load fresh octets).inserted =
        ((Text.lines octets).filter fun line => !isBlankLine line).length ↔
      AllRecords (Text.lines octets)) ∧
    (AllRecords (Text.lines octets) →
      (s.load fresh octets).store = s.writeAll (insertions fresh 1 (Text.lines octets)) ∧
      (s.load fresh octets).store.size ≤ s.size + (s.load fresh octets).inserted) ∧
    (∀ (t : Store) id d r, named id d = .ok r →
      (t.write (.insert id d)).size = if r.1 ∈ t.places then t.size else t.size + 1) ∧
    (¬AllRecords (Text.lines octets) →
      ∃ before line after, Text.lines octets = before ++ line :: after ∧ AllRecords before ∧
        Refused line ∧ (∃ e, (s.load fresh octets).failure? = some e) ∧
        (s.load fresh octets).store = s.writeAll (insertions fresh 1 before)) ∧
    ∀ files : FileTree,
      (∀ path opened, (Startup.openStore fresh files path).1 = .ok opened ↔
        ∃ contents, files.contents path = .octets contents ∧ opened.LoadedFrom fresh contents) ∧
      (∀ path e, (Startup.openStore fresh files path).1 = .error e →
        ∃ detail, e = .connect detail) ∧
      ∀ settings : Settings,
        (∀ opened, (Startup.store fresh files settings).1 = .ok opened ↔
          (settings.dataPath? = none ∧ opened = empty) ∨
          ∃ path contents, settings.dataPath? = some path ∧
            files.contents path = .octets contents ∧ opened.LoadedFrom fresh contents) ∧
        ∀ e, (Startup.store fresh files settings).1 = .error e → ∃ detail, e = .connect detail := by
  refine ⟨Text.linesOf_lines, ?_, ?_, fun t id d r hnamed => size_write_insert hnamed t, ?_,
    fun files => ⟨fun path opened => ?_, fun path e he => ?_, fun settings => ?_⟩⟩
  · constructor
    · intro h
      exact (failure?_load_eq_none_iff fresh octets s).mp h.1
    · intro h
      rw [load_of_allRecords fresh h]
      exact ⟨rfl, rfl⟩
  · intro h
    rw [load_of_allRecords fresh h, ← length_insertions fresh h 1]
    exact ⟨rfl, size_writeAll_insertions_le fresh _ 1 s⟩
  · intro h
    obtain ⟨before, line, after, hlines, hbefore, hrefused⟩ := exists_first_refused h
    exact ⟨before, line, after, hlines, hbefore, hrefused,
      load_of_refused fresh hlines hbefore hrefused s⟩
  · exact Startup.openStore_eq_ok_iff fresh files
  · exact Startup.openStore_error fresh files he
  · exact ⟨fun opened => Startup.store_eq_ok_iff fresh files,
      fun e he => Startup.store_error fresh files he⟩

/-- A record. -/
def firstLine : List UInt8 := Text.Utf8.encode "\x7b\"_id\":\"a\",\"n\":1\x7d\n"

/-- A line of blanks, of which one is wide. -/
def wideBlankLine : List UInt8 := Text.Utf8.encode " \u3000\t\r\n"

/-- A record with blanks around it, which has the identity of the first. -/
def replacingLine : List UInt8 := Text.Utf8.encode "\u00a0\x7b\"_id\":\"a\",\"n\":2\x7d \n"

/-- A record with an identity that cannot be used. -/
def unusableLine : List UInt8 := Text.Utf8.encode "\x7b\"_id\":5\x7d\n"

/-- A record without a line feed behind it. -/
def openLine : List UInt8 := Text.Utf8.encode "\x7b\"_id\":\"b\"\x7d"

theorem documentOfLine?_firstLine :
    documentOfLine? firstLine = some [("_id", .string "a"), ("n", .int32 1)] := by
  have htext : Text.Utf8.decode firstLine = .ok "\x7b\"_id\":\"a\",\"n\":1\x7d\n" := by
    decide +kernel
  have hrecord : documentOfRecord "\x7b\"_id\":\"a\",\"n\":1\x7d" =
      .ok [("_id", .string "a"), ("n", .int32 1)] :=
    documentOfRecord_eq_ok_iff.mpr ⟨[("_id", .string "a"), ("n", .whole 1)], rfl, rfl⟩
  exact documentOfLine?_of_record htext hrecord

theorem documentOfLine?_replacingLine :
    documentOfLine? replacingLine = some [("_id", .string "a"), ("n", .int32 2)] := by
  have htext : Text.Utf8.decode replacingLine =
      .ok "\u00a0\x7b\"_id\":\"a\",\"n\":2\x7d \n" := by decide +kernel
  have hrecord : documentOfRecord "\x7b\"_id\":\"a\",\"n\":2\x7d" =
      .ok [("_id", .string "a"), ("n", .int32 2)] :=
    documentOfRecord_eq_ok_iff.mpr ⟨[("_id", .string "a"), ("n", .whole 2)], rfl, rfl⟩
  exact documentOfLine?_of_record htext hrecord

theorem documentOfLine?_openLine :
    documentOfLine? openLine = some [("_id", .string "b")] := by
  have htext : Text.Utf8.decode openLine = .ok "\x7b\"_id\":\"b\"\x7d" := by decide +kernel
  have hrecord : documentOfRecord "\x7b\"_id\":\"b\"\x7d" = .ok [("_id", .string "b")] :=
    documentOfRecord_eq_ok_iff.mpr ⟨[("_id", .string "b")], rfl, rfl⟩
  exact documentOfLine?_of_record htext hrecord

theorem isBlankLine_wideBlankLine : isBlankLine wideBlankLine = true := by decide +kernel

theorem allRecords_firstLine_wideBlankLine {rest : List (List UInt8)} (h : AllRecords rest) :
    AllRecords (firstLine :: wideBlankLine :: rest) := by
  refine allRecords_cons.mpr ⟨fun _ => ⟨_, documentOfLine?_firstLine⟩,
    allRecords_cons.mpr ⟨fun hblank => ?_, h⟩⟩
  rw [isBlankLine_wideBlankLine] at hblank
  cases hblank

theorem load_inserts_documents_replaced :
    (empty.load ObjectId.ofNat
        (firstLine ++ wideBlankLine ++ replacingLine ++ openLine)).failure? = none ∧
      (empty.load ObjectId.ofNat
        (firstLine ++ wideBlankLine ++ replacingLine ++ openLine)).inserted = 3 ∧
      (empty.load ObjectId.ofNat
        (firstLine ++ wideBlankLine ++ replacingLine ++ openLine)).store.documents.toList =
          [[("_id", .string "a"), ("n", .int32 2)], [("_id", .string "b")]] ∧
      (∃ e, (empty.load ObjectId.ofNat
        (firstLine ++ wideBlankLine ++ unusableLine ++ openLine)).failure? = some e) ∧
      (empty.load ObjectId.ofNat
        (firstLine ++ wideBlankLine ++ unusableLine ++ openLine)).store.documents.toList =
          [[("_id", .string "a"), ("n", .int32 1)]] := by
  have hlines : Text.lines (firstLine ++ wideBlankLine ++ replacingLine ++ openLine) =
      [firstLine, wideBlankLine, replacingLine, openLine] := by decide +kernel
  have hall : AllRecords [firstLine, wideBlankLine, replacingLine, openLine] :=
    allRecords_firstLine_wideBlankLine (allRecords_cons.mpr
      ⟨fun _ => ⟨_, documentOfLine?_replacingLine⟩, allRecords_cons.mpr
        ⟨fun _ => ⟨_, documentOfLine?_openLine⟩, List.forall_mem_nil _⟩⟩)
  have hbefore : AllRecords [firstLine, wideBlankLine] :=
    allRecords_firstLine_wideBlankLine (List.forall_mem_nil _)
  have hcutLines : Text.lines (firstLine ++ wideBlankLine ++ unusableLine ++ openLine) =
      [firstLine, wideBlankLine] ++ unusableLine :: [openLine] := by decide +kernel
  have hrefused : Refused unusableLine := ⟨by decide +kernel, by decide +kernel⟩
  have hblank := documentOfLine?_of_blank isBlankLine_wideBlankLine
  obtain ⟨-, hok, hstore, -⟩ := load_inserts_documents ObjectId.ofNat
    (firstLine ++ wideBlankLine ++ replacingLine ++ openLine) empty
  obtain ⟨-, -, -, -, hcut, -⟩ := load_inserts_documents ObjectId.ofNat
    (firstLine ++ wideBlankLine ++ unusableLine ++ openLine) empty
  rw [hlines] at hok hstore
  rw [hcutLines] at hcut
  obtain ⟨before, line, after, hsplit, hrecords, hline, hfailure, hcutStore⟩ :=
    hcut fun h => h.not_refused (by simp) hrefused
  obtain rfl := before_eq_of_refused hsplit hbefore hrefused hrecords hline
  refine ⟨(hok.mpr hall).1, (hok.mpr hall).2.trans (by decide +kernel), ?_, hfailure, ?_⟩
  · rw [(hstore hall).1]
    simp [insertions, documentOfLine?_firstLine, hblank, documentOfLine?_replacingLine,
      documentOfLine?_openLine, writeAll, write, insert, named, identified, identity,
      Entries.contains, Entries.lookup, Series.identityKey, identityOfValue, set, empty, append]
  · rw [hcutStore]
    simp [insertions, documentOfLine?_firstLine, hblank, writeAll, write, insert, named,
      identified, identity, Entries.contains, Entries.lookup, Series.identityKey,
      identityOfValue, set, empty, append]

end Store
end SeriesCatalog
