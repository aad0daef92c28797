import SeriesCatalog.Json.Writer
import SeriesCatalog.Proofs.Decimal.Notation
import Std.Data.String.ToInt

/-!
# Different values have different JSON texts

The first character tells the shape of a value, and from there on each part ends where it says: a
string with its quote, a container with its bracket, a number where its characters end.  So a text
with anything behind it can only be read in one way.  The numbers that JSON does not have are
left out, since they are all written as null.

* `Json.Finite`: values in which all numbers are finite.
* `Json.Shape`: the shapes that the first character tells apart.
* `Json.Stops`: what may stand behind a number.

Results:
* `Json.quote_append_inj`, `Json.compact_append_inj`: strings and values with anything behind them.
* `Json.text_inj`: the text of a value tells which it is.
-/

namespace SeriesCatalog
namespace Json

open Decimal

/-! ## Strings -/

/-- The characters that are escaped. -/
def escapedChars : List Char :=
  '"' :: '\\' :: (List.range 0x20).map Char.ofNat

theorem mem_escapedChars {c : Char} (hc : c.toNat < 0x20) : c ∈ escapedChars := by
  rw [escapedChars, List.mem_cons, List.mem_cons, List.mem_map]
  exact .inr (.inr ⟨c.toNat, List.mem_range.mpr hc, Char.ofNat_toNat c⟩)

theorem escape_of_not_mem {c : Char} (h : c ∉ escapedChars) : escape c = [c] := by
  unfold escape
  split
  case h_8 => exact if_neg fun hc => h (mem_escapedChars hc)
  all_goals exact absurd (by decide) h

/-- An escape begins with a backslash, any other character with itself. -/
theorem exists_escape_eq_cons (c : Char) :
    ∃ l, escape c = (if c ∈ escapedChars then '\\' else c) :: l := by
  have hescapes : escapedChars.all (fun c => (escape c).head? = some '\\') = true := by
    decide +kernel
  split
  · rename_i hc
    exact List.head?_eq_some_iff.mp (of_decide_eq_true (List.all_eq_true.mp hescapes c hc))
  · rename_i hc
    exact ⟨[], escape_of_not_mem hc⟩

/-- No escape is the beginning of another. -/
theorem eq_of_escape_isPrefix {c d : Char} (h : escape c <+: escape d) : c = d := by
  have hescapes : escapedChars.all (fun c => escapedChars.all fun d =>
      (escape c).isPrefixOf (escape d) = true → c = d) = true := by decide +kernel
  have hbackslash : '\\' ∈ escapedChars := by decide
  obtain ⟨l, hl⟩ := exists_escape_eq_cons c
  obtain ⟨m, hm⟩ := exists_escape_eq_cons d
  have hfirst : (if c ∈ escapedChars then '\\' else c) =
      if d ∈ escapedChars then '\\' else d := by
    rw [hl, hm] at h
    exact (List.cons_prefix_cons.mp h).1
  split at hfirst <;> split at hfirst
  · rename_i hc hd
    have hcd := List.all_eq_true.mp (List.all_eq_true.mp hescapes c hc) d hd
    exact of_decide_eq_true hcd (List.isPrefixOf_iff_prefix.mpr h)
  · rename_i hd
    exact absurd (hfirst ▸ hbackslash) hd
  · rename_i hc _
    exact absurd (hfirst ▸ hbackslash) hc
  · exact hfirst

theorem escape_append_inj {c d : Char} {x y : List Char} (h : escape c ++ x = escape d ++ y) :
    c = d ∧ x = y := by
  have hsame : c = d := by
    rcases List.append_eq_append_iff.mp h with ⟨z, hd, -⟩ | ⟨z, hc, -⟩
    · exact eq_of_escape_isPrefix ⟨z, hd.symm⟩
    · exact (eq_of_escape_isPrefix ⟨z, hc.symm⟩).symm
  subst hsame
  exact ⟨rfl, List.append_cancel_left h⟩

theorem escape_ne_quote (c : Char) (x y : List Char) : escape c ++ x ≠ '"' :: y := by
  intro h
  have hquote : '"' ∈ escapedChars := by decide
  obtain ⟨l, hl⟩ := exists_escape_eq_cons c
  rw [hl, List.cons_append, List.cons_eq_cons] at h
  obtain ⟨hfirst, -⟩ := h
  split at hfirst
  · cases hfirst
  · rename_i hc
    exact hc (hfirst ▸ hquote)

theorem flatMap_escape_inj {l m x y : List Char}
    (h : l.flatMap escape ++ '"' :: x = m.flatMap escape ++ '"' :: y) : l = m ∧ x = y := by
  induction l generalizing m with
  | nil =>
      cases m with
      | nil => exact ⟨rfl, (List.cons_eq_cons.mp h).2⟩
      | cons d m =>
          rw [List.flatMap_cons, List.append_assoc] at h
          exact absurd h.symm (escape_ne_quote d _ x)
  | cons c l ih =>
      rw [List.flatMap_cons, List.append_assoc] at h
      cases m with
      | nil => exact absurd h (escape_ne_quote c _ y)
      | cons d m =>
          rw [List.flatMap_cons, List.append_assoc] at h
          obtain ⟨rfl, hrest⟩ := escape_append_inj h
          obtain ⟨rfl, hbehind⟩ := ih hrest
          exact ⟨rfl, hbehind⟩

/-- A string ends with its quote. -/
theorem quote_append_inj {s t : String} {x y : List Char} (h : quote s ++ x = quote t ++ y) :
    s = t ∧ x = y := by
  simp only [quote, List.cons_append, List.append_assoc, List.cons_eq_cons, List.nil_append,
    true_and] at h
  obtain ⟨hchars, hbehind⟩ := flatMap_escape_inj h
  exact ⟨String.toList_inj.mp hchars, hbehind⟩

/-! ## Numbers -/

/-- What may stand behind a number: no character that would belong to it. -/
def Stops (l : List Char) : Prop :=
  ∀ c ∈ l.head?, isNumeric c = false

theorem stops_cons {c : Char} (hc : isNumeric c = false) (l : List Char) : Stops (c :: l) := by
  intro d hd
  cases hd
  exact hc

/-- A number ends where its characters do. -/
theorem numeric_append_inj {a b x y : List Char} (ha : ∀ c ∈ a, isNumeric c = true)
    (hb : ∀ c ∈ b, isNumeric c = true) (hx : Stops x) (hy : Stops y) (h : a ++ x = b ++ y) :
    a = b ∧ x = y := by
  induction a generalizing b with
  | nil =>
      cases b with
      | nil => exact ⟨rfl, h⟩
      | cons d b =>
          have hstop := hx d (by simp [show x = d :: (b ++ y) from h])
          simp [hb d List.mem_cons_self] at hstop
  | cons c a ih =>
      obtain ⟨hc, ha⟩ := List.forall_mem_cons.mp ha
      cases b with
      | nil =>
          have hstop := hy c (by simp [show y = c :: (a ++ x) from h.symm])
          simp [hc] at hstop
      | cons d b =>
          obtain ⟨hfirst, hrest⟩ := List.cons_eq_cons.mp h
          obtain ⟨hsame, hbehind⟩ := ih ha (List.forall_mem_cons.mp hb).2 hrest
          exact ⟨by rw [hfirst, hsame], hbehind⟩

theorem isNumeric_toString (n : Int) : ∀ c ∈ (toString n).toList, isNumeric c = true := by
  intro c hc
  rcases Text.isDigit_or_minus_of_mem hc with hdigit | rfl
  · exact isNumeric_of_isDigit hdigit
  · decide

theorem toString_inj {n m : Int} (h : toString n = toString m) : n = m := by
  rw [Int.toString_eq_repr, Int.toString_eq_repr] at h
  exact Int.repr_inj.mp h

/-- A whole number has neither a point nor an exponent. -/
theorem toString_ne_jsonText (n : Int) (negative : Bool) (rank : Fin rankCount) :
    (toString n).toList ≠ (Double.finite negative rank).jsonText.toList := by
  intro h
  rcases @Double.point_or_e_mem_jsonText_finite negative rank with hmem | hmem
  all_goals
    rw [← h] at hmem
    rcases Text.isDigit_or_minus_of_mem hmem with hdigit | hminus
    · cases hdigit
    · cases hminus

/-! ## Values -/

mutual

/-- All numbers of a value are finite. -/
def Finite : Json → Prop
  | double d => ∃ negative rank, d = .finite negative rank
  | list l => FiniteItems l
  | object m => FiniteMembers m
  | _ => True

def FiniteItems : List Json → Prop
  | [] => True
  | v :: l => Finite v ∧ FiniteItems l

def FiniteMembers : List (String × Json) → Prop
  | [] => True
  | (_, v) :: l => Finite v ∧ FiniteMembers l

end

/-- The shapes of values that the first character tells apart. -/
inductive Shape
  | null
  | bool
  | number
  | string
  | list
  | object
deriving DecidableEq

def shape : Json → Shape
  | null => .null
  | bool _ => .bool
  | whole _ => .number
  | double _ => .number
  | string _ => .string
  | list _ => .list
  | object _ => .object

/-- The shape of the values that begin with a character. -/
def Shape.ofChar? (c : Char) : Option Shape :=
  if c.isDigit || c = '-' then some .number
  else if c = 'n' then some .null
  else if c = 't' || c = 'f' then some .bool
  else if c = '"' then some .string
  else if c = '[' then some .list
  else if c = '{' then some .object
  else none

theorem Shape.ofChar?_of_digit_or_minus {c : Char} (h : c.isDigit = true ∨ c = '-') :
    ofChar? c = some .number :=
  if_pos (by simpa using h)

theorem exists_toString_eq_cons (n : Int) :
    ∃ c l, (c.isDigit = true ∨ c = '-') ∧ (toString n).toList = c :: l := by
  cases hchars : (toString n).toList with
  | nil => exact absurd (String.toList_eq_nil_iff.mp hchars) (Text.toString_ne_empty n)
  | cons c l =>
      have hc := Text.isDigit_or_minus_of_mem (hchars ▸ List.mem_cons_self)
      exact ⟨c, l, hc, rfl⟩

/-- The first character of the text of a value tells its shape. -/
theorem exists_compact_eq_cons {v : Json} (hv : v.Finite) :
    ∃ c l, compact v = c :: l ∧ Shape.ofChar? c = some v.shape := by
  cases v with
  | null => exact ⟨'n', _, rfl, rfl⟩
  | bool b => cases b <;> exact ⟨_, _, rfl, rfl⟩
  | whole n =>
      obtain ⟨c, l, hc, htext⟩ := exists_toString_eq_cons n
      exact ⟨c, l, htext, Shape.ofChar?_of_digit_or_minus hc⟩
  | double d =>
      obtain ⟨negative, rank, rfl⟩ := hv
      obtain ⟨c, l, hc, htext⟩ :=
        @Double.exists_jsonText_finite_eq_cons negative rank
      exact ⟨c, l, htext, Shape.ofChar?_of_digit_or_minus hc⟩
  | string s => exact ⟨'"', _, rfl, rfl⟩
  | list l => cases l <;> exact ⟨'[', _, rfl, rfl⟩
  | object m => rcases m with _ | ⟨⟨k, v⟩, m⟩ <;> exact ⟨'{', _, rfl, rfl⟩

theorem shape_eq_of_compact_append_eq {v w : Json} (hv : v.Finite) (hw : w.Finite)
    {x y : List Char} (h : compact v ++ x = compact w ++ y) : v.shape = w.shape := by
  obtain ⟨c, l, htext, hshape⟩ := exists_compact_eq_cons hv
  obtain ⟨d, m, htext', hshape'⟩ := exists_compact_eq_cons hw
  rw [htext, htext', List.cons_append, List.cons_append, List.cons_eq_cons] at h
  rw [h.1, hshape'] at hshape
  exact (Option.some.inj hshape).symm

theorem compact_append_ne_cons {v : Json} (hv : v.Finite) {c : Char}
    (hc : Shape.ofChar? c = none) (x y : List Char) : compact v ++ x ≠ c :: y := by
  intro h
  obtain ⟨d, l, htext, hshape⟩ := exists_compact_eq_cons hv
  rw [htext, List.cons_append, List.cons_eq_cons] at h
  rw [h.1, hc] at hshape
  cases hshape

theorem isNumeric_compact {v : Json} (hv : v.Finite) (hshape : v.shape = .number) :
    ∀ c ∈ compact v, isNumeric c = true := by
  cases v with
  | whole n => exact isNumeric_toString n
  | double d =>
      obtain ⟨negative, rank, rfl⟩ := hv
      exact Double.isNumeric_jsonText_finite
  | _ => cases hshape

theorem number_eq_of_compact_eq {v w : Json} (hv : v.Finite) (hw : w.Finite)
    (hvshape : v.shape = .number) (hwshape : w.shape = .number) (h : compact v = compact w) :
    v = w := by
  cases v with
  | whole n =>
      cases w with
      | whole m => rw [toString_inj (String.toList_inj.mp h)]
      | double e =>
          obtain ⟨negative, rank, rfl⟩ := hw
          exact absurd h (toString_ne_jsonText n negative rank)
      | _ => cases hwshape
  | double d =>
      obtain ⟨negative, rank, rfl⟩ := hv
      cases w with
      | whole m => exact absurd h.symm (toString_ne_jsonText m negative rank)
      | double e =>
          obtain ⟨negative', rank', rfl⟩ := hw
          rw [Double.jsonText_finite_inj (String.toList_inj.mp h)]
      | _ => cases hwshape
  | _ => cases hvshape

theorem number_append_inj {v w : Json} (hv : v.Finite) (hw : w.Finite)
    (hvshape : v.shape = .number) (hwshape : w.shape = .number) {x y : List Char}
    (hx : Stops x) (hy : Stops y) (h : compact v ++ x = compact w ++ y) : v = w ∧ x = y := by
  obtain ⟨htext, hbehind⟩ :=
    numeric_append_inj (isNumeric_compact hv hvshape) (isNumeric_compact hw hwshape) hx hy h
  exact ⟨number_eq_of_compact_eq hv hw hvshape hwshape htext, hbehind⟩

theorem bool_append_inj {b c : Bool} {x y : List Char}
    (h : compact (bool b) ++ x = compact (bool c) ++ y) : b = c ∧ x = y := by
  cases b <;> cases c
  case false.false | true.true => exact ⟨rfl, List.append_cancel_left h⟩
  -- The words begin with different characters.
  all_goals cases (List.cons_eq_cons.mp h).1

theorem stops_compactItems (l : List Json) (x : List Char) :
    Stops (compactItems l ++ ']' :: x) := by
  cases l <;> exact stops_cons (by decide) _

theorem stops_compactMembers (l : List (String × Json)) (x : List Char) :
    Stops (compactMembers l ++ '}' :: x) := by
  rcases l with _ | ⟨⟨k, v⟩, l⟩ <;> exact stops_cons (by decide) _

mutual

/-- **A value ends where its text says**: the values are the same, and what stands behind them. -/
theorem compact_append_inj (v w : Json) (hv : v.Finite) (hw : w.Finite) {x y : List Char}
    (hx : Stops x) (hy : Stops y) (h : compact v ++ x = compact w ++ y) : v = w ∧ x = y := by
  have hshape := shape_eq_of_compact_append_eq hv hw h
  match v with
  | .null =>
      cases w with
      | null => exact ⟨rfl, List.append_cancel_left h⟩
      | _ => cases hshape
  | .bool b =>
      cases w with
      | bool c =>
          obtain ⟨rfl, hbehind⟩ := bool_append_inj h
          exact ⟨rfl, hbehind⟩
      | _ => cases hshape
  | .whole n => exact number_append_inj hv hw rfl hshape.symm hx hy h
  | .double d => exact number_append_inj hv hw rfl hshape.symm hx hy h
  | .string s =>
      cases w with
      | string t =>
          obtain ⟨rfl, hbehind⟩ := quote_append_inj h
          exact ⟨rfl, hbehind⟩
      | _ => cases hshape
  | .list l =>
      cases w with
      | list m =>
          obtain ⟨rfl, hbehind⟩ := list_append_inj l m hv hw h
          exact ⟨rfl, hbehind⟩
      | _ => cases hshape
  | .object l =>
      cases w with
      | object m =>
          obtain ⟨rfl, hbehind⟩ := object_append_inj l m hv hw h
          exact ⟨rfl, hbehind⟩
      | _ => cases hshape

/-- A list ends with the bracket behind its last item. -/
theorem list_append_inj (l m : List Json) (hl : FiniteItems l) (hm : FiniteItems m)
    {x y : List Char} (h : compact (list l) ++ x = compact (list m) ++ y) : l = m ∧ x = y := by
  match l, m with
  | [], [] => exact ⟨rfl, List.append_cancel_left h⟩
  | [], w :: m =>
      simp only [compact, List.cons_append, List.append_assoc, List.cons_eq_cons, true_and] at h
      exact absurd h.symm (compact_append_ne_cons hm.1 (by decide) _ _)
  | v :: l, [] =>
      simp only [compact, List.cons_append, List.append_assoc, List.cons_eq_cons, true_and] at h
      exact absurd h (compact_append_ne_cons hl.1 (by decide) _ _)
  | v :: l, w :: m =>
      simp only [compact, List.cons_append, List.append_assoc, List.cons_eq_cons, true_and,
        List.nil_append] at h
      obtain ⟨rfl, hrest⟩ :=
        compact_append_inj v w hl.1 hm.1 (stops_compactItems l x) (stops_compactItems m y) h
      obtain ⟨rfl, hbehind⟩ := compactItems_append_inj l m hl.2 hm.2 hrest
      exact ⟨rfl, hbehind⟩

/-- An object ends with the brace behind its last member. -/
theorem object_append_inj (l m : List (String × Json)) (hl : FiniteMembers l)
    (hm : FiniteMembers m) {x y : List Char}
    (h : compact (object l) ++ x = compact (object m) ++ y) : l = m ∧ x = y := by
  match l, m with
  | [], [] => exact ⟨rfl, List.append_cancel_left h⟩
  | [], (k, w) :: m =>
      simp only [compact, quote, List.cons_append, List.cons_eq_cons, true_and] at h
      cases h.1
  | (k, v) :: l, [] =>
      simp only [compact, quote, List.cons_append, List.cons_eq_cons, true_and] at h
      cases h.1
  | (k, v) :: l, (k', w) :: m =>
      simp only [compact, List.cons_append, List.append_assoc, List.cons_eq_cons, true_and,
        List.nil_append] at h
      obtain ⟨rfl, hvalue⟩ := quote_append_inj h
      obtain ⟨rfl, hrest⟩ :=
        compact_append_inj v w hl.1 hm.1 (stops_compactMembers l x) (stops_compactMembers m y)
          (List.cons_eq_cons.mp hvalue).2
      obtain ⟨rfl, hbehind⟩ := compactMembers_append_inj l m hl.2 hm.2 hrest
      exact ⟨rfl, hbehind⟩

theorem compactItems_append_inj (l m : List Json) (hl : FiniteItems l) (hm : FiniteItems m)
    {x y : List Char} (h : compactItems l ++ ']' :: x = compactItems m ++ ']' :: y) :
    l = m ∧ x = y := by
  match l, m with
  | [], [] => exact ⟨rfl, (List.cons_eq_cons.mp h).2⟩
  | [], w :: m => cases (List.cons_eq_cons.mp h).1
  | v :: l, [] => cases (List.cons_eq_cons.mp h).1
  | v :: l, w :: m =>
      simp only [compactItems, List.cons_append, List.append_assoc, List.cons_eq_cons,
        true_and] at h
      obtain ⟨rfl, hrest⟩ :=
        compact_append_inj v w hl.1 hm.1 (stops_compactItems l x) (stops_compactItems m y) h
      obtain ⟨rfl, hbehind⟩ := compactItems_append_inj l m hl.2 hm.2 hrest
      exact ⟨rfl, hbehind⟩

theorem compactMembers_append_inj (l m : List (String × Json)) (hl : FiniteMembers l)
    (hm : FiniteMembers m) {x y : List Char}
    (h : compactMembers l ++ '}' :: x = compactMembers m ++ '}' :: y) : l = m ∧ x = y := by
  match l, m with
  | [], [] => exact ⟨rfl, (List.cons_eq_cons.mp h).2⟩
  | [], (k, w) :: m => cases (List.cons_eq_cons.mp h).1
  | (k, v) :: l, [] => cases (List.cons_eq_cons.mp h).1
  | (k, v) :: l, (k', w) :: m =>
      simp only [compactMembers, List.cons_append, List.append_assoc, List.cons_eq_cons,
        true_and] at h
      obtain ⟨rfl, hvalue⟩ := quote_append_inj h
      obtain ⟨rfl, hrest⟩ :=
        compact_append_inj v w hl.1 hm.1 (stops_compactMembers l x) (stops_compactMembers m y)
          (List.cons_eq_cons.mp hvalue).2
      obtain ⟨rfl, hbehind⟩ := compactMembers_append_inj l m hl.2 hm.2 hrest
      exact ⟨rfl, hbehind⟩

end

/-- **The text of a value tells which it is**, if all its numbers are finite. -/
theorem text_inj {v w : Json} (hv : v.Finite) (hw : w.Finite) : v.text = w.text ↔ v = w := by
  have hnothing : Stops [] := fun _ hc => nomatch hc
  constructor
  · intro h
    have hchars : compact v ++ [] = compact w ++ [] := by
      rw [String.ofList_injective h]
    exact (compact_append_inj v w hv hw hnothing hnothing hchars).1
  · rintro rfl
    rfl

end Json
end SeriesCatalog
