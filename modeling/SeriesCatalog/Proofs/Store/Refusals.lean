import Mathlib.Data.List.Infix
import SeriesCatalog.Proofs.Store.Loading

/-!
# What is said of a record that is refused

Loading stops at the first line that is refused, and says why.  A record is refused because it
has no document, or because its document has an identity that cannot be used.  The first is
found where the number of the line is known, and the second where a document is added, which
may happen without any lines.

* `Store.Malformed`: a record that has no document, with the cause.
* `Store.Misidentified`: a record with a document whose identity cannot be used.
* `StoreError.NamesLine`: a complaint about a document that names a line.

Results:
* `Store.refused_iff_of_text`: why a line is refused.
* `Store.recordOfLine_of_malformed`, `Store.recordOfLine_of_misidentified`: what is said of it.
* `Store.load_names_line_iff`: for which records the failure of loading names the line.
-/

namespace SeriesCatalog

/-! ## Messages that name a line -/

/-- A complaint about a document whose text contains the number of a line. -/
def StoreError.NamesLine (number : Nat) (e : StoreError) : Prop :=
  ∃ detail, e = .invalidDocument detail ∧ s!"line {number}:".toList <:+: e.message.toList

/-- A word is not found in a text that ends before it could go on, if no end of the text agrees
with the beginning of the word. -/
theorem infix_append_iff {α : Type} {v w : List α} (hw : v <+: w) :
    ∀ {p : List α}, (∀ q ∈ p.tails, q = [] ∨ ¬q <+: v ∧ ¬v <+: q) →
      ∀ t : List α, w <:+: p ++ t ↔ w <:+: t
  | [], _, t => by simp
  | c :: p, h, t => by
      have hp : ∀ q ∈ p.tails, q = [] ∨ ¬q <+: v ∧ ¬v <+: q := by
        intro q hq
        refine h q ?_
        rw [List.tails_cons]
        exact List.mem_cons_of_mem _ hq
      rw [List.cons_append, List.infix_cons_iff, infix_append_iff hw hp]
      refine or_iff_right fun hbegin => ?_
      rcases h (c :: p) (by simp) with hnil | ⟨hpv, hvp⟩
      · cases hnil
      · have hv : v <+: c :: p ++ t := hw.trans hbegin
        have hcp : c :: p <+: c :: p ++ t := List.prefix_append _ _
        exact (List.prefix_or_prefix_of_prefix hv hcp).elim hvp hpv

namespace StoreError

variable {number : Nat} {detail : String}

theorem namesLine_invalidDocument_iff :
    (invalidDocument detail).NamesLine number ↔
      s!"line {number}:".toList <:+: "Invalid document: ".toList ++ detail.toList := by
  rw [← String.toList_append]
  exact ⟨fun ⟨_, _, h⟩ => h, fun h => ⟨detail, rfl, h⟩⟩

theorem namesLine_located (number : Nat) (detail : String) :
    (invalidDocument s!"line {number}: {detail}").NamesLine number := by
  have hsplit : s!"line {number}: {detail}" = s!"line {number}:" ++ (" " ++ detail) := by
    have hcolon : ": " = ":" ++ " " := by decide
    show "line " ++ toString number ++ ": " ++ detail =
      "line " ++ toString number ++ ":" ++ (" " ++ detail)
    rw [hcolon]
    simp only [String.append_assoc]
  rw [namesLine_invalidDocument_iff, hsplit]
  generalize s!"line {number}:" = word
  rw [String.toList_append, ← List.append_assoc]
  exact List.infix_append _ _ _

/-- The words before a value that is shown name no line, and none of them begins to. -/
theorem namesLine_unsupported_iff (number : Nat) (shown : String) :
    (invalidDocument ("unsupported _id: " ++ shown)).NamesLine number ↔
      s!"line {number}:".toList <:+: shown.toList := by
  have hbegin : "lin".toList <+: s!"line {number}:".toList := by
    have hline : "line " = "lin" ++ "e " := by decide
    show "lin".toList <+: ("line " ++ toString number ++ ":").toList
    rw [hline]
    simp only [String.toList_append, List.append_assoc]
    exact List.prefix_append _ _
  have hapart : ∀ q ∈ ("Invalid document: ".toList ++ "unsupported _id: ".toList).tails,
      q = [] ∨ ¬q <+: "lin".toList ∧ ¬"lin".toList <+: q := by
    decide
  rw [namesLine_invalidDocument_iff]
  generalize s!"line {number}:" = word at hbegin ⊢
  rw [String.toList_append, ← List.append_assoc, infix_append_iff hbegin hapart]

end StoreError

namespace Store

/-! ## Records that cannot be stored -/

/-- A record that has no document: it is no JSON text, another value than an object, or an
object without a document. -/
inductive Malformed (record : String) : StoreError → Prop
  | notJson {e : Json.ReadError} (hread : Json.read record = .error e) :
      Malformed record (.json e)
  | notObject {v : Json} (hread : Json.read record = .ok v) (hv : ∀ m, v ≠ .object m) :
      Malformed record (.invalidDocument "expected JSON object")
  | notDocument {m : Entries Json} {r : Refusal} (hread : Json.read record = .ok (.object m))
      (hm : Document.ofMembers m = .error r) : Malformed record (.conversion r.message)

/-- A record with a document in which a value that is neither a text nor an object identifier
stands for the identity. -/
structure Misidentified (record : String) (v : Value) : Prop where
  document : ∃ m d, Json.read record = .ok (.object m) ∧ Document.ofMembers m = .ok d ∧
    Entries.lookup Series.identityKey d = some v
  not_string : ∀ text, v ≠ .string text
  not_objectId : ∀ id, v ≠ .objectId id

section Records

variable {record : String} {d : Document} {v : Value}

theorem documentOfRecord_eq_error_iff {cause : StoreError} :
    documentOfRecord record = .error cause ↔ Malformed record cause := by
  constructor
  · intro h
    unfold documentOfRecord at h
    cases hread : Json.read record with
    | error e =>
        simp only [hread, Except.error.injEq] at h
        exact h ▸ .notJson hread
    | ok v =>
        cases v with
        | object m =>
            cases hm : Document.ofMembers m with
            | error r =>
                simp only [hread, hm, Except.error.injEq] at h
                exact h ▸ .notDocument hread hm
            | ok d => simp [hread, hm] at h
        | null | bool _ | whole _ | double _ | string _ | list _ =>
            simp only [hread, Except.error.injEq] at h
            exact h ▸ .notObject hread (by simp)
  · intro h
    unfold documentOfRecord
    cases h with
    | notJson hread => simp [hread]
    | notDocument hread hm => simp [hread, hm]
    | notObject hread hv =>
        rename_i v
        cases v with
        | object m => exact absurd rfl (hv m)
        | null | bool _ | whole _ | double _ | string _ | list _ => simp [hread]

/-- A document cannot be stored exactly if there is an identity that cannot be used. -/
theorem misidentified_iff (hd : documentOfRecord record = .ok d) :
    Misidentified record v ↔
      Entries.lookup Series.identityKey d = some v ∧ hasUsableIdentity d = false := by
  obtain ⟨m, hread, hm⟩ := documentOfRecord_eq_ok_iff.mp hd
  constructor
  · rintro ⟨⟨m', d', hread', hm', hv⟩, hstring, hobject⟩
    cases hread.symm.trans hread'
    cases hm.symm.trans hm'
    refine ⟨hv, ?_⟩
    unfold hasUsableIdentity
    rw [hv]
    cases v with
    | string text => exact absurd rfl (hstring text)
    | objectId id => exact absurd rfl (hobject id)
    | _ => rfl
  · rintro ⟨hv, husable⟩
    refine ⟨⟨m, d, hread, hm, hv⟩, ?_, ?_⟩
    · rintro text rfl
      simp [hasUsableIdentity, hv] at husable
    · rintro id rfl
      simp [hasUsableIdentity, hv] at husable

theorem named_of_unusable (fresh : ObjectId) (hv : Entries.lookup Series.identityKey d = some v)
    (husable : hasUsableIdentity d = false) :
    named fresh d = .error (.invalidDocument ("unsupported _id: " ++ v.shown)) := by
  have hcontains : Entries.contains Series.identityKey d = true := by
    simp [Entries.contains, hv]
  have hidentity : identityOfValue v =
      .error (.invalidDocument ("unsupported _id: " ++ v.shown)) := by
    cases v with
    | string text => simp [hasUsableIdentity, hv] at husable
    | objectId id => simp [hasUsableIdentity, hv] at husable
    | _ => rfl
  simp only [named, identified, hcontains, if_true, identity, hv, hidentity]

end Records

section Lines

variable {line : List UInt8} {text : String}

/-- **Why a line is refused**: its record is malformed, or its document has an identity that
cannot be used. -/
theorem refused_iff_of_text (htext : Text.Utf8.decode line = .ok text) :
    Refused line ↔ isBlankLine line = false ∧
      ((∃ cause, Malformed (Text.trimBlanks text) cause) ∨
        ∃ v, Misidentified (Text.trimBlanks text) v) := by
  refine and_congr_right fun _ => ?_
  cases hrecord : documentOfRecord (Text.trimBlanks text) with
  | error cause =>
      have hnone : documentOfLine? line = none := by
        simp [documentOfLine?_of_text htext, hrecord, Except.toOption]
      exact iff_of_true hnone (.inl ⟨cause, documentOfRecord_eq_error_iff.mp hrecord⟩)
  | ok d =>
      have hwell : ¬∃ cause, Malformed (Text.trimBlanks text) cause := by
        rintro ⟨cause, hcause⟩
        cases hrecord.symm.trans (documentOfRecord_eq_error_iff.mpr hcause)
      rw [documentOfLine?_of_record htext hrecord, or_iff_right hwell]
      simp only [misidentified_iff hrecord, exists_and_right, ite_eq_right_iff, reduceCtorEq,
        imp_false, Bool.not_eq_true, iff_and_self]
      intro husable
      cases hv : Entries.lookup Series.identityKey d with
      | none => simp [hasUsableIdentity, hv] at husable
      | some v => exact ⟨v, rfl⟩

/-- A malformed record is found where the number of its line is known. -/
theorem recordOfLine_of_malformed (htext : Text.Utf8.decode line = .ok text)
    (hblank : isBlankLine line = false) {cause : StoreError}
    (h : Malformed (Text.trimBlanks text) cause) (fresh : ObjectId) (number : Nat) :
    recordOfLine fresh number line =
      .error (.invalidDocument s!"line {number}: {cause.message}") := by
  rw [isBlankLine_of_text htext] at hblank
  simp only [recordOfLine, htext, hblank, documentOfRecord_eq_error_iff.mpr h]
  rfl

/-- An identity that cannot be used is found where a document is added, as it would be without
a line. -/
theorem recordOfLine_of_misidentified (htext : Text.Utf8.decode line = .ok text)
    (hblank : isBlankLine line = false) {v : Value}
    (h : Misidentified (Text.trimBlanks text) v) (fresh : ObjectId) (number : Nat) :
    recordOfLine fresh number line =
      .error (.invalidDocument ("unsupported _id: " ++ v.shown)) := by
  rw [isBlankLine_of_text htext] at hblank
  obtain ⟨m, d, hread, hm, -⟩ := h.document
  have hrecord := documentOfRecord_eq_ok_iff.mpr ⟨m, hread, hm⟩
  obtain ⟨hv, husable⟩ := (misidentified_iff hrecord).mp h
  simp only [recordOfLine, htext, hblank, hrecord, named_of_unusable fresh hv husable]
  rfl

end Lines

theorem failure?_load_of_refused {fresh : Nat → ObjectId} {octets : List UInt8}
    {before after : List (List UInt8)} {line : List UInt8} {e : StoreError}
    (hlines : Text.lines octets = before ++ line :: after) (hbefore : AllRecords before)
    (hline : recordOfLine (fresh (before.length + 1)) (before.length + 1) line = .error e)
    (s : Store) : (s.load fresh octets).failure? = some e := by
  rw [Nat.add_comm] at hline
  rw [load, hlines, loadLines_append fresh hbefore]
  simp only [loadLines, hline]

theorem Malformed.not_misidentified {record : String} {cause : StoreError} {v : Value}
    (h : Malformed record cause) : ¬Misidentified record v := by
  rintro ⟨⟨m, d, hread, hm, -⟩, -, -⟩
  have hd := documentOfRecord_eq_ok_iff.mpr ⟨m, hread, hm⟩
  cases hd.symm.trans (documentOfRecord_eq_error_iff.mpr h)

theorem Misidentified.unique {record : String} {v w : Value} (hv : Misidentified record v)
    (hw : Misidentified record w) : v = w := by
  obtain ⟨m, d, hread, hm, hlookup⟩ := hv.document
  obtain ⟨m', d', hread', hm', hlookup'⟩ := hw.document
  cases hread.symm.trans hread'
  cases hm.symm.trans hm'
  exact Option.some.inj (hlookup.symm.trans hlookup')

/-- **Which records are reported with their line.**  Lines are read up to the first one that is
refused.  If its record is malformed, the failure is a complaint about a document that begins
with the number of the line and goes on with the cause.  If the identity cannot be used, the
failure shows its value and nothing else, so that the line is named only if this text happens to
do so. -/
theorem load_names_line_iff (fresh : Nat → ObjectId) (s : Store) {octets : List UInt8}
    {before after : List (List UInt8)} {line : List UInt8} {text : String}
    (hlines : Text.lines octets = before ++ line :: after) (hbefore : AllRecords before)
    (htext : Text.Utf8.decode line = .ok text) (hrefused : Refused line) :
    ∃ e, (s.load fresh octets).failure? = some e ∧
      ((∃ cause, Malformed (Text.trimBlanks text) cause ∧
          e = .invalidDocument s!"line {before.length + 1}: {cause.message}") ∨
        ∃ v, Misidentified (Text.trimBlanks text) v ∧
          e = .invalidDocument ("unsupported _id: " ++ v.shown)) ∧
      (e.NamesLine (before.length + 1) ↔
        (∃ cause, Malformed (Text.trimBlanks text) cause) ∨
          ∃ v, Misidentified (Text.trimBlanks text) v ∧
            s!"line {before.length + 1}:".toList <:+: v.shown.toList) := by
  obtain ⟨hblank, hwhy⟩ := (refused_iff_of_text htext).mp hrefused
  rcases hwhy with ⟨cause, hcause⟩ | ⟨v, hv⟩
  · have hline := recordOfLine_of_malformed htext hblank hcause (fresh (before.length + 1))
      (before.length + 1)
    refine ⟨_, failure?_load_of_refused hlines hbefore hline s, .inl ⟨cause, hcause, rfl⟩, ?_⟩
    exact iff_of_true (StoreError.namesLine_located _ _) (.inl ⟨cause, hcause⟩)
  · have hline := recordOfLine_of_misidentified htext hblank hv (fresh (before.length + 1))
      (before.length + 1)
    refine ⟨_, failure?_load_of_refused hlines hbefore hline s, .inr ⟨v, hv, rfl⟩, ?_⟩
    rw [StoreError.namesLine_unsupported_iff]
    constructor
    · intro hshown
      exact .inr ⟨v, hv, hshown⟩
    · rintro (⟨cause, hcause⟩ | ⟨w, hw, hshown⟩)
      · exact absurd hv hcause.not_misidentified
      · exact hv.unique hw ▸ hshown

/-! ### Files with a blank line and a record before the line that is refused -/

/-- A space. -/
def blankLine : List UInt8 := [32, 10]

/-- An object with the text `a` for its identity. -/
def recordLine : List UInt8 :=
  [0x7b, 0x22, 0x5f, 0x69, 0x64, 0x22, 0x3a, 0x22, 0x61, 0x22, 0x7d, 10]

/-- The list of 1 and 2. -/
def listLine : List UInt8 :=
  [0x5b, 0x31, 0x2c, 0x32, 0x5d, 10]

/-- An object with the number 5 for its identity. -/
def numberLine : List UInt8 :=
  [0x7b, 0x22, 0x5f, 0x69, 0x64, 0x22, 0x3a, 0x35, 0x7d, 10]

theorem allRecords_blankLine_recordLine : AllRecords [blankLine, recordLine] := by
  have htext : Text.Utf8.decode recordLine = .ok "\x7b\"_id\":\"a\"\x7d\n" := rfl
  have hrecord : documentOfRecord "\x7b\"_id\":\"a\"\x7d" = .ok [("_id", .string "a")] :=
    documentOfRecord_eq_ok_iff.mpr ⟨[("_id", .string "a")], rfl, rfl⟩
  have hdocument : documentOfLine? recordLine = some [("_id", .string "a")] :=
    documentOfLine?_of_record htext hrecord
  refine allRecords_cons.mpr ⟨fun hblank => ?_, allRecords_cons.mpr ⟨fun _ => ?_, ?_⟩⟩
  · cases hblank
  · exact ⟨_, hdocument⟩
  · exact List.forall_mem_nil _

/-- A list on the third line is reported with the number of the line. -/
theorem load_names_line_of_list :
    Text.lines (blankLine ++ recordLine ++ listLine) = [blankLine, recordLine] ++ [listLine] ∧
      AllRecords [blankLine, recordLine] ∧ Text.Utf8.decode listLine = .ok "[1,2]\n" ∧
      Refused listLine ∧
      ∃ e, (empty.load ObjectId.ofNat (blankLine ++ recordLine ++ listLine)).failure? = some e ∧
        e.NamesLine 3 := by
  have hlines : Text.lines (blankLine ++ recordLine ++ listLine) =
      [blankLine, recordLine] ++ [listLine] := rfl
  have htext : Text.Utf8.decode listLine = .ok "[1,2]\n" := rfl
  have hmalformed : Malformed "[1,2]" (.invalidDocument "expected JSON object") :=
    .notObject (v := .list [.whole 1, .whole 2]) rfl (by simp)
  have hrefused : Refused listLine := (refused_iff_of_text htext).mpr ⟨rfl, .inl ⟨_, hmalformed⟩⟩
  obtain ⟨e, he, -, hnames⟩ := load_names_line_iff ObjectId.ofNat empty hlines
    allRecords_blankLine_recordLine htext hrefused
  exact ⟨hlines, allRecords_blankLine_recordLine, htext, hrefused, e, he,
    hnames.mpr (.inl ⟨_, hmalformed⟩)⟩

/-- An identity on the third line that cannot be used is reported without the number of the
line. -/
theorem load_identity_unlocated :
    Text.lines (blankLine ++ recordLine ++ numberLine) = [blankLine, recordLine] ++ [numberLine] ∧
      AllRecords [blankLine, recordLine] ∧
      Text.Utf8.decode numberLine = .ok "\x7b\"_id\":5\x7d\n" ∧ Refused numberLine ∧
      ∃ e, (empty.load ObjectId.ofNat (blankLine ++ recordLine ++ numberLine)).failure? = some e ∧
        e.message = "Invalid document: unsupported _id: 5" ∧ ¬e.NamesLine 3 := by
  have hlines : Text.lines (blankLine ++ recordLine ++ numberLine) =
      [blankLine, recordLine] ++ [numberLine] := rfl
  have htext : Text.Utf8.decode numberLine = .ok "\x7b\"_id\":5\x7d\n" := rfl
  have hmisidentified : Misidentified "\x7b\"_id\":5\x7d" (.int32 5) :=
    ⟨⟨[("_id", .whole 5)], [("_id", .int32 5)], rfl, rfl, rfl⟩, by simp, by simp⟩
  have hrefused : Refused numberLine :=
    (refused_iff_of_text htext).mpr ⟨rfl, .inr ⟨_, hmisidentified⟩⟩
  have hline := recordOfLine_of_misidentified htext rfl hmisidentified (ObjectId.ofNat 3) 3
  refine ⟨hlines, allRecords_blankLine_recordLine, htext, hrefused, _,
    failure?_load_of_refused hlines allRecords_blankLine_recordLine hline empty, rfl, ?_⟩
  rw [StoreError.namesLine_unsupported_iff]
  decide

end Store
end SeriesCatalog
