import SeriesCatalog.Json.Reader
import SeriesCatalog.Proofs.Json.Injectivity
import SeriesCatalog.Proofs.Json.Keys
import SeriesCatalog.Proofs.Json.Numerals

/-!
# Reading JSON text back

The reader takes the text of a value from the state in which the value begins to the one in which
it is in its place, whatever stands behind it.  Only a number has to be followed by a mark, since
it would go on otherwise.

* `Json.LeadsTo`: the reader gets from one state to another over the first characters.
* `Json.Ends`: what may stand behind a value.
* `Json.Fits`, `Json.Legible`: whole numbers of 64 bits; values whose text can be read.
* `Json.reread`: a value with the doubles that its own are read back as.

Results:
* `Json.leadsTo_quote`, `Json.leadsTo_chars`: strings and numbers.
* `Json.leadsTo_compact`: values at every depth.
* `Json.readWith_text`: the text of a value is read as that value.
-/

namespace SeriesCatalog
namespace Json

open Decimal

/-! ## States -/

/-- Reading from one state comes to the same as reading from another with fewer characters left. -/
def LeadsTo (a b : State × List Char) : Prop :=
  ∀ offset, ∃ offset', run none offset a.1 a.2 = run none offset' b.1 b.2

theorem LeadsTo.refl (a : State × List Char) : LeadsTo a a :=
  fun offset => ⟨offset, rfl⟩

theorem LeadsTo.trans {a b c : State × List Char} (h : LeadsTo a b) (h' : LeadsTo b c) :
    LeadsTo a c := by
  intro offset
  obtain ⟨offset', hfirst⟩ := h offset
  obtain ⟨offset'', hsecond⟩ := h' offset'
  exact ⟨offset'', hfirst.trans hsecond⟩

instance : Trans LeadsTo LeadsTo LeadsTo :=
  ⟨LeadsTo.trans⟩

theorem leadsTo_step {s t : State} {c : Char} (x : List Char)
    (h : ∀ offset, step none offset s c = .ok t) : LeadsTo (s, c :: x) (t, x) :=
  fun offset => ⟨offset + c.utf8Size, by simp [run, h]⟩

/-- Two states that take the same step lead to each other. -/
theorem leadsTo_of_same_step {s t : State} {c : Char} (x : List Char)
    (h : ∀ offset, step none offset s c = step none offset t c) :
    LeadsTo (s, c :: x) (t, c :: x) :=
  fun offset => ⟨offset, by simp only [run, h]⟩

variable {place : Place} {read x : List Char} {role : Role} {c : Char}

/-! ## Strings -/

theorem digitChar_hex {d : Nat} (hd : d < 16) :
    Text.hexValue? (Nat.digitChar d) = some d ∧ (Nat.digitChar d).utf8Size = 1 := by
  have hall : ∀ d < 16, Text.hexValue? (Nat.digitChar d) = some d ∧
      (Nat.digitChar d).utf8Size = 1 := by decide
  exact hall d hd

theorem step_hex {octets n d : Nat} (hd : d < 16) (hoctets : octets < 3) (offset : Nat) :
    step none offset (.string (.hex octets (some n) none) read role) (Nat.digitChar d) =
      .ok (.string (.hex (octets + 1) (some (16 * n + d)) none) read role) := by
  obtain ⟨hvalue, hsize⟩ := digitChar_hex hd
  have hmore : octets + 1 < 4 := by omega
  simp [step, stepString, hvalue, hsize, hexOctets, hmore]

theorem step_hex_last {n d : Nat} (hd : d < 16) (hn : 16 * n + d < 0xD800) (offset : Nat) :
    step none offset (.string (.hex 3 (some n) none) read role) (Nat.digitChar d) =
      .ok (.string .plain (Char.ofNat (16 * n + d) :: read) role) := by
  obtain ⟨hvalue, hsize⟩ := digitChar_hex hd
  have hfirst : isFirstHalf (16 * n + d) = false := by
    simp only [isFirstHalf, Bool.and_eq_false_iff, decide_eq_false_iff_not]
    omega
  have hsecond : isSecondHalf (16 * n + d) = false := by
    simp only [isSecondHalf, Bool.and_eq_false_iff, decide_eq_false_iff_not]
    omega
  simp [step, stepString, hvalue, hsize, hexOctets, finishEscape, hfirst, hsecond]

/-- A control character is written with its code, of which the last two digits count. -/
theorem leadsTo_code (hc : c.toNat < 0x20) :
    LeadsTo (.string .plain read role, '\\' :: 'u' :: Text.hexText 4 c.toNat ++ x)
      (.string .plain (c :: read) role, x) := by
  have hdigits : ∀ n < 0x20,
      Text.hexText 4 n = ['0', '0', Nat.digitChar (n / 16), Nat.digitChar (n % 16)] := by decide
  have hthird (offset : Nat) :
      step none offset (.string (.hex 2 (some 0) none) read role) (Nat.digitChar (c.toNat / 16)) =
        .ok (.string (.hex 3 (some (c.toNat / 16)) none) read role) := by
    rw [step_hex (by omega) (by decide), Nat.mul_zero, Nat.zero_add]
  have hlast (offset : Nat) :
      step none offset (.string (.hex 3 (some (c.toNat / 16)) none) read role)
        (Nat.digitChar (c.toNat % 16)) = .ok (.string .plain (c :: read) role) := by
    rw [step_hex_last (by omega) (by omega), Nat.div_add_mod, Char.ofNat_toNat]
  rw [hdigits _ hc]
  calc LeadsTo (.string .plain read role, '\\' :: 'u' :: ['0', '0', Nat.digitChar (c.toNat / 16),
        Nat.digitChar (c.toNat % 16)] ++ x)
        (.string (.hex 2 (some 0) none) read role,
          Nat.digitChar (c.toNat / 16) :: Nat.digitChar (c.toNat % 16) :: x) :=
        fun _ => ⟨_, rfl⟩
    LeadsTo _ (.string (.hex 3 (some (c.toNat / 16)) none) read role,
        Nat.digitChar (c.toNat % 16) :: x) := leadsTo_step _ hthird
    LeadsTo _ (.string .plain (c :: read) role, x) := leadsTo_step _ hlast

theorem leadsTo_escape (c : Char) :
    LeadsTo (.string .plain read role, escape c ++ x) (.string .plain (c :: read) role, x) := by
  unfold escape
  split
  case h_8 hquote hslash _ _ _ _ _ =>
    split
    · exact leadsTo_code (by assumption)
    · rename_i hprintable
      refine leadsTo_step x fun offset => ?_
      simp [step, stepString, hprintable, show c ≠ '"' from hquote, show c ≠ '\\' from hslash]
  all_goals exact fun _ => ⟨_, rfl⟩

theorem leadsTo_escapes (l : List Char) :
    LeadsTo (.string .plain read role, l.flatMap escape ++ x)
      (.string .plain (l.reverse ++ read) role, x) := by
  induction l generalizing read with
  | nil => exact LeadsTo.refl _
  | cons c l ih =>
      rw [List.flatMap_cons, List.append_assoc, List.reverse_cons, List.append_assoc]
      exact (leadsTo_escape c).trans ih

theorem leadsTo_inside (s : String) :
    LeadsTo (.string .plain [] role, s.toList.flatMap escape ++ '"' :: x)
      (finishString s.toList.reverse role, x) := by
  calc LeadsTo (.string .plain [] role, s.toList.flatMap escape ++ '"' :: x)
        (.string .plain (s.toList.reverse ++ []) role, '"' :: x) := leadsTo_escapes s.toList
    LeadsTo _ (finishString s.toList.reverse role, x) :=
        leadsTo_step x fun _ => by simp [step, stepString]

theorem quote_append (s : String) (x : List Char) :
    quote s ++ x = '"' :: (s.toList.flatMap escape ++ '"' :: x) := by
  simp [quote]

/-- **A string is read as it is.** -/
theorem leadsTo_quote (s : String) :
    LeadsTo (.value place, quote s ++ x) (place.fill (.string s), x) := by
  have hend : finishString s.toList.reverse (.value place) = place.fill (.string s) := by
    simp [finishString]
  rw [quote_append, ← hend]
  exact (leadsTo_step _ fun _ => rfl).trans (leadsTo_inside s)

theorem leadsTo_key (s : String) {before : List (String × Json)} {outer : Place} {t : State}
    (h : ∀ offset, step none offset t '"' = .ok (.string .plain [] (.key before outer))) :
    LeadsTo (t, quote s ++ ':' :: x) (.value (.member before s outer), x) := by
  have hend : finishString s.toList.reverse (.key before outer) = .colon before s outer := by
    simp [finishString]
  rw [quote_append]
  calc LeadsTo (t, '"' :: (s.toList.flatMap escape ++ '"' :: ':' :: x))
        (.string .plain [] (.key before outer), s.toList.flatMap escape ++ '"' :: ':' :: x) :=
        leadsTo_step _ h
    LeadsTo _ (.colon before s outer, ':' :: x) := hend ▸ leadsTo_inside s
    LeadsTo _ (.value (.member before s outer), x) := leadsTo_step x fun _ => rfl

/-! ## Words -/

theorem leadsTo_null : LeadsTo (.value place, "null".toList ++ x) (place.fill .null, x) :=
  fun _ => ⟨_, rfl⟩

theorem leadsTo_bool (b : Bool) :
    LeadsTo (.value place, (if b then "true" else "false").toList ++ x)
      (place.fill (.bool b), x) := by
  cases b <;> exact fun _ => ⟨_, rfl⟩

/-! ## Numbers -/

/-- What may stand behind a value: nothing, a comma or the end of a container. -/
def Ends (x : List Char) : Prop :=
  ∀ c ∈ x.head?, c = ',' ∨ c = ']' ∨ c = '}'

theorem ends_nil : Ends [] :=
  fun _ hc => nomatch hc

theorem ends_cons (hc : c = ',' ∨ c = ']' ∨ c = '}') (x : List Char) : Ends (c :: x) := by
  intro d hd
  cases hd
  exact hc

namespace Numeral

/-- A numeral whose digits are last first. -/
def reversed (n : Numeral) : Numeral :=
  { n with
    whole := n.whole.reverse
    fraction := n.fraction.reverse
    exponent? := n.exponent?.map fun e => { e with digits := e.digits.reverse } }

theorem reversed_reversed (n : Numeral) : n.reversed.reversed = n := by
  obtain ⟨negative, whole, fraction, _ | e⟩ := n
  · simp [reversed]
  · simp [reversed]

end Numeral

theorem finishNumber_of_value {n : Numeral} {v : Json} (h : n.reversed.value = .ok v)
    (offset : Nat) : finishNumber offset n = .ok v := by
  unfold Numeral.reversed at h
  simp only [finishNumber, h]

theorem finishNumber_reversed {n : Numeral} {v : Json} (hv : n.value = .ok v) (offset : Nat) :
    finishNumber offset n.reversed = .ok v :=
  finishNumber_of_value (by rw [n.reversed_reversed, hv]) offset

theorem leadsTo_part {part part' : NumberPart} {n n' : Numeral}
    (h : continueNumber part n c = .ok (some (part', n'))) :
    LeadsTo (.number part n place, c :: x) (.number part' n' place, x) :=
  leadsTo_step x fun offset => by simp [step, h]

/-- Digits are put in front of those read before, where a part of a number takes them. -/
theorem leadsTo_digits {part : NumberPart} (push : List Char → Numeral)
    (hpush : ∀ read c, c.isDigit = true →
      continueNumber part (push read) c = .ok (some (part, push (c :: read))))
    {l : List Char} (hl : ∀ c ∈ l, c.isDigit = true) (read : List Char) :
    LeadsTo (.number part (push read) place, l ++ x)
      (.number part (push (l.reverse ++ read)) place, x) := by
  induction l generalizing read with
  | nil => exact LeadsTo.refl _
  | cons c l ih =>
      obtain ⟨hc, hl⟩ := List.forall_mem_cons.mp hl
      rw [List.reverse_cons, List.append_assoc]
      exact (leadsTo_part (hpush read c hc)).trans (ih hl (c :: read))

theorem beginValue_digit (hc : c.isDigit = true) (hzero : c ≠ '0') (offset : Nat) :
    beginValue none offset place c =
      .ok (.number .whole { Numeral.start false with whole := [c] } place) := by
  unfold beginValue
  split
  case h_8 => exact absurd rfl hzero
  case h_9 => rw [if_pos hc]
  all_goals cases hc

theorem isSpace_of_isDigit (hc : c.isDigit = true) : isSpace c = false := by
  by_contra hspace
  simp only [isSpace, Bool.not_eq_false, Bool.or_eq_true, decide_eq_true_eq] at hspace
  rcases hspace with ((rfl | rfl) | rfl) | rfl <;> cases hc

/-- The digits before the point, with their sign. -/
theorem leadsTo_whole {negative : Bool} {l : List Char}
    (hfirst : l = ['0'] ∨ ∃ c m, l = c :: m ∧ c ≠ '0') (hl : ∀ c ∈ l, c.isDigit = true) :
    ∃ part, (part = .zero ∨ part = .whole) ∧
      LeadsTo (.value place, (if negative then ['-'] else []) ++ l ++ x)
        (.number part ⟨negative, l.reverse, [], none⟩ place, x) := by
  rcases hfirst with rfl | ⟨c, m, rfl, hc⟩
  · refine ⟨.zero, .inl rfl, ?_⟩
    cases negative <;> exact fun _ => ⟨_, rfl⟩
  · obtain ⟨hdigit, hm⟩ := List.forall_mem_cons.mp hl
    refine ⟨.whole, .inr rfl, ?_⟩
    rw [List.reverse_cons]
    refine LeadsTo.trans ?_ (leadsTo_digits (fun read => ⟨negative, read, [], none⟩)
      (fun read c hc => by simp [continueNumber, hc]) hm [c])
    cases negative with
    | true =>
        refine (leadsTo_step _ fun _ => rfl).trans (leadsTo_part ?_)
        simp [continueNumber, hc, hdigit, Numeral.start]
    | false =>
        refine leadsTo_step _ fun offset => ?_
        simp [step, stepBetween, isSpace_of_isDigit hdigit, beginValue_digit hdigit hc,
          Numeral.start]

theorem leadsTo_fraction {part : NumberPart} (hpart : part = .zero ∨ part = .whole)
    {negative : Bool} {whole l : List Char} (hl : ∀ c ∈ l, c.isDigit = true) :
    ∃ part', (part' = .zero ∨ part' = .whole ∨ part' = .fraction) ∧
      LeadsTo (.number part ⟨negative, whole, [], none⟩ place, Numeral.fractionChars l ++ x)
        (.number part' ⟨negative, whole, l.reverse, none⟩ place, x) := by
  cases l with
  | nil => exact ⟨part, hpart.imp_right .inl, LeadsTo.refl _⟩
  | cons c l =>
      obtain ⟨hc, hl⟩ := List.forall_mem_cons.mp hl
      refine ⟨.fraction, .inr (.inr rfl), ?_⟩
      have hpoint : continueNumber part ⟨negative, whole, [], none⟩ '.' =
          .ok (some (.point, ⟨negative, whole, [], none⟩)) := by
        rcases hpart with rfl | rfl <;> rfl
      have hdigit : continueNumber .point ⟨negative, whole, [], none⟩ c =
          .ok (some (.fraction, ⟨negative, whole, [c], none⟩)) := by
        simp [continueNumber, hc]
      rw [List.reverse_cons]
      refine (leadsTo_part hpoint).trans ((leadsTo_part hdigit).trans ?_)
      exact leadsTo_digits (fun read => ⟨negative, whole, read, none⟩)
        (fun read c hc => by simp [continueNumber, hc]) hl [c]

theorem leadsTo_exponent {part : NumberPart}
    (hpart : part = .zero ∨ part = .whole ∨ part = .fraction) {negative : Bool}
    {whole fraction : List Char} {e? : Option Exponent}
    (he : ∀ e, e? = some e → e.digits ≠ [] ∧ ∀ c ∈ e.digits, c.isDigit = true) :
    ∃ part', part'.isEnd = true ∧
      LeadsTo (.number part ⟨negative, whole, fraction, none⟩ place,
          Numeral.exponentChars e? ++ x)
        (.number part' ⟨negative, whole, fraction,
          e?.map fun e => { e with digits := e.digits.reverse }⟩ place, x) := by
  cases e? with
  | none => exact ⟨part, by rcases hpart with rfl | rfl | rfl <;> rfl, LeadsTo.refl _⟩
  | some e =>
      obtain ⟨minus, digits⟩ := e
      obtain ⟨hsome, hdigits⟩ := he _ rfl
      obtain ⟨c, l, rfl⟩ := List.exists_cons_of_ne_nil hsome
      obtain ⟨hc, hl⟩ := List.forall_mem_cons.mp hdigits
      refine ⟨.exponent, rfl, ?_⟩
      have hmark : continueNumber part ⟨negative, whole, fraction, none⟩ 'e' =
          .ok (some (.mark, ⟨negative, whole, fraction, some ⟨false, []⟩⟩)) := by
        rcases hpart with rfl | rfl | rfl <;> rfl
      have hsign : continueNumber .mark ⟨negative, whole, fraction, some ⟨false, []⟩⟩
          (if minus then '-' else '+') =
            .ok (some (.markSign, ⟨negative, whole, fraction, some ⟨minus, []⟩⟩)) := by
        cases minus <;> rfl
      have hdigit : continueNumber .markSign ⟨negative, whole, fraction, some ⟨minus, []⟩⟩ c =
          .ok (some (.exponent, ⟨negative, whole, fraction, some ⟨minus, [c]⟩⟩)) := by
        simp [continueNumber, hc]
      simp only [Option.map_some, List.reverse_cons]
      refine (leadsTo_part hmark).trans
        ((leadsTo_part hsign).trans ((leadsTo_part hdigit).trans ?_))
      exact leadsTo_digits (fun read => ⟨negative, whole, fraction, some ⟨minus, read⟩⟩)
        (fun read c hc => by simp [continueNumber, hc]) hl [c]

/-- **The characters of a numeral are read as its parts.** -/
theorem leadsTo_chars {n : Numeral} (h : n.Proper) :
    ∃ part, part.isEnd = true ∧
      LeadsTo (.value place, n.chars ++ x) (.number part n.reversed place, x) := by
  obtain ⟨negative, whole, fraction, e?⟩ := n
  simp only [Numeral.chars, List.append_assoc]
  obtain ⟨part, hpart, hwhole⟩ := leadsTo_whole h.first h.whole
  obtain ⟨part', hpart', hfraction⟩ := leadsTo_fraction hpart h.fraction
  obtain ⟨part'', hend, hexponent⟩ := leadsTo_exponent hpart' h.exponent
  rw [List.append_assoc] at hwhole
  exact ⟨part'', hend, hwhole.trans (hfraction.trans hexponent)⟩

/-- A number ends where a mark or nothing follows. -/
theorem leadsTo_end {part : NumberPart} (hend : part.isEnd = true) {n : Numeral} {v : Json}
    (hv : n.value = .ok v) (hx : Ends x) :
    LeadsTo (.number part n.reversed place, x) (place.fill v, x) := by
  cases x with
  | nil =>
      refine fun offset => ⟨offset, ?_⟩
      simp only [run, finish, hend, if_true, finishNumber_reversed hv]
      cases place <;> rfl
  | cons c x =>
      have hmark := hx c rfl
      have hended : continueNumber part n.reversed c = .ok none := by
        rcases hmark with rfl | rfl | rfl <;> cases part <;> first | rfl | cases hend
      refine leadsTo_of_same_step x fun offset => ?_
      simp only [step, hended, finishNumber_reversed hv]
      cases place <;> rfl

/-- **A number is read as what its numeral stands for.** -/
theorem leadsTo_numeral {n : Numeral} (h : n.Proper) {v : Json} (hv : n.value = .ok v)
    (hx : Ends x) : LeadsTo (.value place, n.chars ++ x) (place.fill v, x) := by
  obtain ⟨part, hend, hchars⟩ := leadsTo_chars h
  exact hchars.trans (leadsTo_end hend hv hx)

/-! ## Values -/

mutual

/-- All whole numbers of a value have 64 bits, with or without a sign. -/
def Fits : Json → Prop
  | whole n => -(Words.half64 : Int) ≤ n ∧ n ≤ Words.greatest64
  | list l => FitsItems l
  | object m => FitsMembers m
  | _ => True

def FitsItems : List Json → Prop
  | [] => True
  | v :: l => Fits v ∧ FitsItems l

def FitsMembers : List (String × Json) → Prop
  | [] => True
  | (_, v) :: l => Fits v ∧ FitsMembers l

end

/-- The text of a value can be read: its numbers are in range, and the keys of its objects
differ. -/
structure Legible (v : Json) : Prop where
  finite : v.Finite
  wellKeyed : v.WellKeyed
  fits : v.Fits

mutual

/-- A value with the doubles that its own are read back as. -/
def reread : Json → Json
  | double d => double d.reread
  | list l => list (rereadItems l)
  | object m => object (rereadMembers m)
  | v => v

def rereadItems : List Json → List Json
  | [] => []
  | v :: l => reread v :: rereadItems l

def rereadMembers : List (String × Json) → List (String × Json)
  | [] => []
  | (k, v) :: l => (k, reread v) :: rereadMembers l

end

theorem rereadItems_eq_map (l : List Json) : rereadItems l = l.map reread := by
  induction l with
  | nil => rfl
  | cons v l ih => rw [rereadItems, ih, List.map_cons]

theorem rereadMembers_eq_map (m : Entries Json) :
    rereadMembers m = m.map fun e => (e.1, e.2.reread) := by
  induction m with
  | nil => rfl
  | cons e m ih => rw [rereadMembers, ih, List.map_cons]

theorem legible_cons {v : Json} {l : List Json} :
    (list (v :: l)).Legible ↔ v.Legible ∧ (list l).Legible :=
  ⟨fun h => ⟨⟨h.finite.1, h.wellKeyed.1, h.fits.1⟩, ⟨h.finite.2, h.wellKeyed.2, h.fits.2⟩⟩,
    fun ⟨hv, hl⟩ => ⟨⟨hv.finite, hl.finite⟩, ⟨hv.wellKeyed, hl.wellKeyed⟩, ⟨hv.fits, hl.fits⟩⟩⟩

theorem legible_member {k : String} {v : Json} {m : Entries Json} :
    (object ((k, v) :: m)).Legible ↔ k ∉ Entries.keys m ∧ v.Legible ∧ (object m).Legible := by
  constructor
  · rintro ⟨hfinite, ⟨hkeys, hvalues⟩, hfits⟩
    obtain ⟨hnew, hkeys⟩ := List.nodup_cons.mp hkeys
    exact ⟨hnew, ⟨hfinite.1, hvalues.1, hfits.1⟩, ⟨hfinite.2, ⟨hkeys, hvalues.2⟩, hfits.2⟩⟩
  · rintro ⟨hnew, hv, hm⟩
    exact ⟨⟨hv.finite, hm.finite⟩,
      ⟨List.nodup_cons.mpr ⟨hnew, hm.wellKeyed.1⟩, ⟨hv.wellKeyed, hm.wellKeyed.2⟩⟩,
      ⟨hv.fits, hm.fits⟩⟩

theorem legible_list_iff {l : List Json} : (list l).Legible ↔ ∀ v ∈ l, v.Legible := by
  induction l with
  | nil => simpa using (⟨trivial, trivial, trivial⟩ : (list []).Legible)
  | cons v l ih => rw [legible_cons, ih, List.forall_mem_cons]

theorem legible_object_iff {m : Entries Json} :
    (object m).Legible ↔ (Entries.keys m).Nodup ∧ ∀ e ∈ m, e.2.Legible := by
  induction m with
  | nil =>
      have hnil : (object []).Legible := ⟨trivial, ⟨List.nodup_nil, trivial⟩, trivial⟩
      simpa [Entries.keys] using hnil
  | cons e m ih =>
      have hkeys : (Entries.keys (e :: m)).Nodup ↔
          e.1 ∉ Entries.keys m ∧ (Entries.keys m).Nodup := List.nodup_cons
      rw [legible_member, ih, hkeys, List.forall_mem_cons]
      tauto

@[simp] theorem legible_string (s : String) : (string s).Legible :=
  ⟨trivial, trivial, trivial⟩

@[simp] theorem legible_bool (b : Bool) : (bool b).Legible :=
  ⟨trivial, trivial, trivial⟩

theorem legible_whole {n : Int} (hleast : -(Words.half64 : Int) ≤ n)
    (hgreatest : n ≤ Words.greatest64) : (whole n).Legible :=
  ⟨trivial, trivial, hleast, hgreatest⟩

/-- No value begins with a space or with the end of a list. -/
theorem begins_of_shape {s : Shape} (h : Shape.ofChar? c = some s) :
    isSpace c = false ∧ c ≠ ']' := by
  refine ⟨?_, ?_⟩
  · by_contra hspace
    simp only [isSpace, Bool.not_eq_false, Bool.or_eq_true, decide_eq_true_eq] at hspace
    rcases hspace with ((rfl | rfl) | rfl) | rfl <;> cases h
  · rintro rfl
    cases h

/-- Where an item has to begin, a value is read as an item. -/
theorem leadsTo_item {v : Json} (hv : v.Legible) {before : List Json} {outer : Place} {t : State}
    (ht : t = .nextItem before outer ∨ t = .firstItem outer ∧ before = []) :
    LeadsTo (t, compact v ++ x) (.value (.item before outer), compact v ++ x) := by
  obtain ⟨c, l, hchars, hshape⟩ := exists_compact_eq_cons hv.finite
  obtain ⟨hspace, hbracket⟩ := begins_of_shape hshape
  rw [hchars, List.cons_append]
  refine leadsTo_of_same_step _ fun offset => ?_
  rcases ht with rfl | ⟨rfl, rfl⟩ <;> simp [step, stepBetween, hspace, hbracket]

theorem ends_compactItems (l : List Json) (x : List Char) : Ends (compactItems l ++ ']' :: x) := by
  cases l with
  | nil => exact ends_cons (.inr (.inl rfl)) x
  | cons v l => exact ends_cons (.inl rfl) _

theorem ends_compactMembers (m : Entries Json) (x : List Char) :
    Ends (compactMembers m ++ '}' :: x) := by
  cases m with
  | nil => exact ends_cons (.inr (.inr rfl)) x
  | cons e m => exact ends_cons (.inl rfl) _

/-- A member with a new key goes to the end. -/
theorem fill_member {before : Entries Json} {key : String} (h : key ∉ Entries.keys before)
    (v : Json) (outer : Place) :
    (Place.member before key outer).fill v = .afterMember (before ++ [(key, v)]) outer := by
  have hput : Entries.put key v before = before ++ [(key, v)] := by
    induction before with
    | nil => rfl
    | cons e before ih =>
        obtain ⟨k, w⟩ := e
        obtain ⟨hne, hrest⟩ := not_or.mp (mt List.mem_cons.mpr h)
        rw [Entries.put, if_neg (Ne.symm hne), ih hrest, List.cons_append]
  rw [Place.fill, hput]

mutual

/-- **The text of a value is read as that value**, at any depth. -/
theorem leadsTo_compact : ∀ {v : Json}, v.Legible → ∀ (place : Place) {x : List Char}, Ends x →
    LeadsTo (.value place, compact v ++ x) (place.fill v.reread, x)
  | .null, _, _, _, _ => leadsTo_null
  | .bool b, _, _, _, _ => leadsTo_bool b
  | .whole n, h, _, _, hx => by
      rw [compact, ← Numeral.chars_ofInt]
      exact leadsTo_numeral (Numeral.proper_ofInt n) (Numeral.value_ofInt h.fits.1 h.fits.2) hx
  | .double d, h, _, _, hx => by
      obtain ⟨negative, rank, rfl⟩ := h.finite
      obtain ⟨r, hr, hvalue⟩ := Double.exists_reread_finite negative rank
      rw [compact, ← Numeral.chars_ofMagnitude, reread, hr]
      exact leadsTo_numeral (Numeral.proper_ofMagnitude negative rank) hvalue hx
  | .string s, _, _, _, _ => leadsTo_quote s
  | .list [], _, _, _, _ => fun _ => ⟨_, rfl⟩
  | .list (v :: l), h, place, x, hx => by
      obtain ⟨hv, hl⟩ := legible_cons.mp h
      have hfirst := leadsTo_compact hv (.item [] place) (ends_compactItems l x)
      have hrest := leadsTo_items hl [v.reread] place x
      simp only [compact, List.cons_append, List.append_assoc, List.nil_append]
      calc LeadsTo (.value place, '[' :: (compact v ++ (compactItems l ++ ']' :: x)))
            (.firstItem place, compact v ++ (compactItems l ++ ']' :: x)) :=
            leadsTo_step _ fun _ => rfl
        LeadsTo _ (.value (.item [] place), compact v ++ (compactItems l ++ ']' :: x)) :=
            leadsTo_item hv (.inr ⟨rfl, rfl⟩)
        LeadsTo _ (.afterItem [v.reread] place, compactItems l ++ ']' :: x) := hfirst
        LeadsTo _ (.afterItem ((rereadItems l).reverse ++ [v.reread]) place, ']' :: x) := hrest
        LeadsTo _ (place.fill (reread (.list (v :: l))), x) :=
            leadsTo_step x fun _ => by
              simp [step, stepBetween, isSpace, reread, rereadItems]
  | .object [], _, _, _, _ => fun _ => ⟨_, rfl⟩
  | .object ((k, v) :: m), h, place, x, hx => by
      obtain ⟨-, hv, hm⟩ := legible_member.mp h
      have hfirst := leadsTo_compact hv (.member [] k place) (ends_compactMembers m x)
      have hrest := leadsTo_members hm [(k, v.reread)] place x h.wellKeyed.1
      simp only [compact, List.cons_append, List.append_assoc, List.nil_append]
      calc LeadsTo (.value place, '{' :: (quote k ++ ':' :: (compact v ++
              (compactMembers m ++ '}' :: x))))
            (.firstKey place, quote k ++ ':' :: (compact v ++ (compactMembers m ++ '}' :: x))) :=
            leadsTo_step _ fun _ => rfl
        LeadsTo _ (.value (.member [] k place), compact v ++ (compactMembers m ++ '}' :: x)) :=
            leadsTo_key k fun _ => rfl
        LeadsTo _ (.afterMember [(k, v.reread)] place, compactMembers m ++ '}' :: x) := hfirst
        LeadsTo _ (.afterMember ([(k, v.reread)] ++ rereadMembers m) place, '}' :: x) := hrest
        LeadsTo _ (place.fill (reread (.object ((k, v) :: m))), x) :=
            leadsTo_step x fun _ => rfl

theorem leadsTo_items : ∀ {l : List Json}, (list l).Legible →
    ∀ (before : List Json) (outer : Place) (x : List Char),
      LeadsTo (.afterItem before outer, compactItems l ++ ']' :: x)
        (.afterItem ((rereadItems l).reverse ++ before) outer, ']' :: x)
  | [], _, _, _, _ => LeadsTo.refl _
  | v :: l, h, before, outer, x => by
      obtain ⟨hv, hl⟩ := legible_cons.mp h
      have hfirst := leadsTo_compact hv (.item before outer) (ends_compactItems l x)
      have hrest := leadsTo_items hl (v.reread :: before) outer x
      simp only [compactItems, rereadItems, List.cons_append, List.append_assoc,
        List.reverse_cons, List.nil_append]
      calc LeadsTo (.afterItem before outer, ',' :: (compact v ++ (compactItems l ++ ']' :: x)))
            (.nextItem before outer, compact v ++ (compactItems l ++ ']' :: x)) :=
            leadsTo_step _ fun _ => rfl
        LeadsTo _ (.value (.item before outer), compact v ++ (compactItems l ++ ']' :: x)) :=
            leadsTo_item hv (.inl rfl)
        LeadsTo _ (.afterItem (v.reread :: before) outer, compactItems l ++ ']' :: x) := hfirst
        LeadsTo _ (.afterItem ((rereadItems l).reverse ++ v.reread :: before) outer, ']' :: x) :=
            hrest

theorem leadsTo_members : ∀ {m : List (String × Json)}, (object m).Legible →
    ∀ (before : Entries Json) (outer : Place) (x : List Char),
      (Entries.keys before ++ Entries.keys m).Nodup →
      LeadsTo (.afterMember before outer, compactMembers m ++ '}' :: x)
        (.afterMember (before ++ rereadMembers m) outer, '}' :: x)
  | [], _, before, _, _, _ => by
      rw [rereadMembers, List.append_nil]
      exact LeadsTo.refl _
  | (k, v) :: m, h, before, outer, x, hkeys => by
      obtain ⟨-, hv, hm⟩ := legible_member.mp h
      have hnew : k ∉ Entries.keys before := fun hk =>
        List.disjoint_of_nodup_append hkeys hk List.mem_cons_self
      have hfirst := leadsTo_compact hv (.member before k outer) (ends_compactMembers m x)
      rw [fill_member hnew] at hfirst
      have hkeys' : (Entries.keys (before ++ [(k, v.reread)]) ++ Entries.keys m).Nodup := by
        simpa [Entries.keys] using hkeys
      have hrest := leadsTo_members hm (before ++ [(k, v.reread)]) outer x hkeys'
      simp only [compactMembers, List.cons_append, List.append_assoc]
      simp only [List.append_assoc, List.singleton_append] at hrest
      calc LeadsTo (.afterMember before outer, ',' :: (quote k ++ ':' :: (compact v ++
              (compactMembers m ++ '}' :: x))))
            (.nextKey before outer, quote k ++ ':' :: (compact v ++
              (compactMembers m ++ '}' :: x))) :=
            leadsTo_step _ fun _ => rfl
        LeadsTo _ (.value (.member before k outer), compact v ++ (compactMembers m ++ '}' :: x)) :=
            leadsTo_key k fun _ => rfl
        LeadsTo _ (.afterMember (before ++ [(k, v.reread)]) outer, compactMembers m ++ '}' :: x) :=
            hfirst
        LeadsTo _ (.afterMember (before ++ rereadMembers ((k, v) :: m)) outer, '}' :: x) := hrest

end

/-- **The text of a value is read as that value**, up to the rounding of its doubles. -/
theorem readWith_text {v : Json} (hv : v.Legible) : readWith none v.text = .ok v.reread := by
  obtain ⟨offset, hrun⟩ := leadsTo_compact hv .whole ends_nil 0
  have hdone : run none 0 (.value .whole) v.text.toList = .ok v.reread := by
    rw [List.append_nil] at hrun
    rw [text, String.toList_ofList, hrun]
    rfl
  rw [readWith, hdone]

end Json
end SeriesCatalog
