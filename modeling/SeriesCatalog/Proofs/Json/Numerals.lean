import SeriesCatalog.Proofs.Decimal.Notation
import SeriesCatalog.Proofs.Decimal.Range

/-!
# Numbers as they are written and read

A number is written as digits, with a point, an exponent or neither.  Its digits are read one after
the other: a whole number comes back if it fits 64 bits, and a double is scaled with its power of
ten, which rounds it a few times but neither leaves the range nor changes the sign.

* `Numeral.chars`, `Numeral.Proper`: the characters of a numeral; the numerals of JSON.
* `Numeral.ofInt`, `Numeral.ofMagnitude`: the numerals of whole numbers and doubles.
* `Decimal.Double.reread`: the number that a double is read back as.

Results:
* `Numeral.chars_ofInt`, `Numeral.chars_ofMagnitude`: numbers are written as their numerals.
* `Numeral.value_ofInt`, `Numeral.value_ofMagnitude`: what these numerals stand for.
* `Decimal.Double.exists_reread_finite`: a finite double is read back as one with its sign.
-/

namespace SeriesCatalog
namespace Json

open Decimal

/-! ## Digits -/

theorem takeDigits_of_digits {n : Nat} {l : List Char} (hl : ∀ c ∈ l, c.isDigit = true)
    (h : Nat.ofDigitChars 10 l n ≤ greatestSignificand) :
    takeDigits n l = (Nat.ofDigitChars 10 l n, 0) := by
  induction l generalizing n with
  | nil => rfl
  | cons c l ih =>
      obtain ⟨hc, hl⟩ := List.forall_mem_cons.mp hl
      have hdigit : Text.digit? c = some (c.toNat - '0'.toNat) := by simp [Text.digit?, hc]
      rw [Nat.ofDigitChars_cons] at h ⊢
      have hfits := (Text.le_ofDigitChars l _).trans h
      simp only [takeDigits, hdigit, Option.getD_some]
      rw [if_neg (Nat.not_lt.mpr hfits), ih hl h]

theorem readExponent_of_digits {n : Nat} {l : List Char} (hl : ∀ c ∈ l, c.isDigit = true)
    (h : Nat.ofDigitChars 10 l n ≤ greatestExponent) :
    readExponent n l = .ok (Nat.ofDigitChars 10 l n) := by
  induction l generalizing n with
  | nil => rfl
  | cons c l ih =>
      obtain ⟨hc, hl⟩ := List.forall_mem_cons.mp hl
      have hdigit : Text.digit? c = some (c.toNat - '0'.toNat) := by simp [Text.digit?, hc]
      rw [Nat.ofDigitChars_cons] at h ⊢
      have hfits := (Text.le_ofDigitChars l _).trans h
      simp only [readExponent, hdigit, Option.getD_some]
      rw [if_neg (Nat.not_lt.mpr hfits), ih hl h]

/-- Whatever the digits are, the significand fits, and only they raise the power. -/
theorem takeDigits_le {n : Nat} (hn : n ≤ greatestSignificand) (l : List Char) :
    (takeDigits n l).1 ≤ greatestSignificand ∧ (takeDigits n l).2 ≤ l.length := by
  induction l generalizing n with
  | nil => exact ⟨hn, Nat.le_refl 0⟩
  | cons c l ih =>
      simp only [takeDigits]
      split
      · exact ⟨hn, Nat.le_refl _⟩
      · rename_i hfits
        obtain ⟨hfirst, hsecond⟩ := ih (Nat.not_lt.mp hfits)
        exact ⟨hfirst, hsecond.trans (Nat.le_succ _)⟩

/-- Only zero begins with the digit zero. -/
theorem exists_toDigits_eq_cons {n : Nat} (hn : 0 < n) :
    ∃ c l, Nat.toDigits 10 n = c :: l ∧ c ≠ '0' := by
  have hdigit : ∀ d < 10, 0 < d → Nat.digitChar d ≠ '0' := by decide
  induction n using Nat.strong_induction_on with
  | _ n ih =>
      rcases Nat.lt_or_ge n 10 with hless | hmore
      · exact ⟨_, [], Nat.toDigits_of_lt_base hless, hdigit n hless hn⟩
      · obtain ⟨c, l, hdigits, hc⟩ := ih (n / 10) (by omega) (by omega)
        exact ⟨c, l ++ [(n % 10).digitChar],
          by rw [Nat.toDigits_of_base_le (by decide) hmore, hdigits, List.cons_append], hc⟩

namespace Numeral

/-! ## Numerals -/

def exponentChars : Option Exponent → List Char
  | none => []
  | some e => 'e' :: (if e.negative then '-' else '+') :: e.digits

def fractionChars : List Char → List Char
  | [] => []
  | c :: l => '.' :: c :: l

/-- The characters of a numeral, in which an exponent has a sign. -/
def chars (n : Numeral) : List Char :=
  (if n.negative then ['-'] else []) ++ n.whole ++ fractionChars n.fraction
    ++ exponentChars n.exponent?

/-- A numeral begins with a digit, which is not zero if there are others before the point, and has
digits in its exponent. -/
structure Proper (n : Numeral) : Prop where
  first : n.whole = ['0'] ∨ ∃ c l, n.whole = c :: l ∧ c ≠ '0'
  whole : ∀ c ∈ n.whole, c.isDigit = true
  fraction : ∀ c ∈ n.fraction, c.isDigit = true
  exponent : ∀ e, n.exponent? = some e → e.digits ≠ [] ∧ ∀ c ∈ e.digits, c.isDigit = true

variable {n : Numeral}

/-- Digits that fit the significand leave the power to the places behind the point. -/
theorem significand_of_digits (h : n.Proper)
    (hfits : Nat.ofDigitChars 10 (n.whole ++ n.fraction) 0 ≤ greatestSignificand) :
    n.significand =
      (Nat.ofDigitChars 10 (n.whole ++ n.fraction) 0, -(n.fraction.length : Int)) := by
  rw [Nat.ofDigitChars_append] at hfits ⊢
  have hwhole := takeDigits_of_digits h.whole ((Text.le_ofDigitChars _ _).trans hfits)
  have hfraction := takeDigits_of_digits h.fraction hfits
  simp [significand, hwhole, hfraction]

theorem significand_le (n : Numeral) :
    n.significand.1 ≤ greatestSignificand ∧ n.significand.2 ≤ n.whole.length := by
  obtain ⟨hwhole, hraised⟩ := takeDigits_le (Nat.zero_le greatestSignificand) n.whole
  obtain ⟨hfraction, hdropped⟩ := takeDigits_le hwhole n.fraction
  refine ⟨hfraction, ?_⟩
  simp only [significand]
  omega

/-! ## Whole numbers -/

/-- The numeral of a whole number. -/
def ofInt (n : Int) : Numeral :=
  ⟨decide (n < 0), Nat.toDigits 10 n.natAbs, [], none⟩

theorem chars_ofInt (n : Int) : (ofInt n).chars = (toString n).toList := by
  rcases lt_or_ge n 0 with hneg | hnonneg
  · have habs : n.natAbs = (-n).toNat := by omega
    rw [Text.toList_toString_of_neg hneg]
    simp [chars, ofInt, fractionChars, exponentChars, hneg, habs]
  · have habs : n.natAbs = n.toNat := by omega
    have hnot : ¬ n < 0 := by omega
    rw [Text.toList_toString_of_nonneg hnonneg]
    simp [chars, ofInt, fractionChars, exponentChars, hnot, habs]

theorem first_toDigits (n : Nat) :
    Nat.toDigits 10 n = ['0'] ∨ ∃ c l, Nat.toDigits 10 n = c :: l ∧ c ≠ '0' := by
  rcases Nat.eq_zero_or_pos n with rfl | hn
  · exact .inl rfl
  · exact .inr (exists_toDigits_eq_cons hn)

theorem proper_ofInt (n : Int) : (ofInt n).Proper where
  first := first_toDigits n.natAbs
  whole := fun _ hc => Text.isDigit_of_mem_toDigits hc
  fraction := fun _ hc => nomatch hc
  exponent := fun _ he => nomatch he

/-- **The numeral of a whole number stands for it**, if it fits 64 bits. -/
theorem value_ofInt {n : Int} (hleast : -(Words.half64 : Int) ≤ n)
    (hgreatest : n ≤ Words.greatest64) : (ofInt n).value = .ok (.whole n) := by
  have hhalf : Words.half64 ≤ Words.greatest64 := by decide
  have hfits : n.natAbs ≤ greatestSignificand := by
    rw [greatestSignificand]
    omega
  have hdigits : takeDigits 0 (Nat.toDigits 10 n.natAbs) = (n.natAbs, 0) := by
    have htake := takeDigits_of_digits (n := 0)
      (fun c (hc : c ∈ Nat.toDigits 10 n.natAbs) => Text.isDigit_of_mem_toDigits hc)
      (by rwa [Nat.ofDigitChars_ten_toDigits])
    rwa [Nat.ofDigitChars_ten_toDigits] at htake
  simp only [value, ofInt, hdigits]
  rcases lt_or_ge n 0 with hneg | hnonneg
  · have hpos : 0 < n.natAbs := by omega
    have hle : n.natAbs ≤ Words.half64 := by omega
    have habs : -|n| = n := by rw [abs_of_neg hneg, neg_neg]
    simp [hneg, hpos, hle, habs]
  · have hnot : ¬ n < 0 := by omega
    have habs : |n| = n := abs_of_nonneg hnonneg
    simp [hnot, habs]

/-! ## Doubles -/

/-- The numeral of a positive decimal. -/
def ofExpansion (negative : Bool) (d : Expansion) : Numeral :=
  if isPositionalPower d.power then ⟨negative, d.aroundPoint.1, d.aroundPoint.2, none⟩
  else
    ⟨negative, (digitsOf d.coefficient).take 1, (digitsOf d.coefficient).drop 1,
      some ⟨decide (d.power < 0), Nat.toDigits 10 d.power.natAbs⟩⟩

/-- The numeral of a magnitude with a sign. -/
def ofMagnitude (negative : Bool) (rank : Nat) : Numeral :=
  if rank = 0 then ⟨negative, ['0'], ['0'], none⟩
  else ofExpansion negative (shortest .even rank)

variable {negative : Bool} {d : Expansion} {rank : Nat}

theorem aroundPoint_snd_ne_nil (d : Expansion) : d.aroundPoint.2 ≠ [] := by
  simp only [Expansion.aroundPoint]
  split
  · exact List.cons_ne_nil _ _
  · rename_i hsome
    exact fun hnil => hsome (List.isEmpty_iff.mpr hnil)

theorem fractionChars_of_ne_nil {l : List Char} (h : l ≠ []) : fractionChars l = '.' :: l := by
  cases l with
  | nil => exact absurd rfl h
  | cons c l => rfl

theorem chars_ofExpansion (negative : Bool) (d : Expansion) :
    (ofExpansion negative d).chars = (if negative then ['-'] else []) ++ d.written := by
  unfold ofExpansion Expansion.written
  split
  · simp [chars, exponentChars, fractionChars_of_ne_nil (aroundPoint_snd_ne_nil d)]
  · have hmantissa (l : List Char) : mantissa l = l.take 1 ++ fractionChars (l.drop 1) := by
      rcases l with _ | ⟨c, _ | ⟨c', l⟩⟩ <;> rfl
    simp [chars, exponentChars, hmantissa]

/-- **A finite double is written as its numeral.** -/
theorem chars_ofMagnitude (negative : Bool) (rank : Fin rankCount) :
    (ofMagnitude negative rank).chars = (Double.finite negative rank).jsonText.toList := by
  rw [Double.toList_jsonText_finite, ofMagnitude]
  split
  · rename_i hzero
    rw [hzero]
    cases negative <;> rfl
  · rename_i hrank
    rw [chars_ofExpansion, toList_jsonMagnitude (Nat.pos_of_ne_zero hrank)]

theorem first_aroundPoint (h : d.coefficient ≠ 0) :
    d.aroundPoint.1 = ['0'] ∨ ∃ c l, d.aroundPoint.1 = c :: l ∧ c ≠ '0' := by
  obtain ⟨c, l, hdigits, hc⟩ := exists_toDigits_eq_cons (Nat.pos_of_ne_zero h)
  simp only [Expansion.aroundPoint, positional]
  split
  · exact .inl rfl
  · rename_i hleading
    obtain ⟨m, hm⟩ : ∃ m, (d.power + 1).toNat = m + 1 := ⟨(d.power + 1).toNat - 1, by omega⟩
    rw [digitsOf, hdigits, hm, List.take_succ_cons]
    exact .inr ⟨c, _, rfl, hc⟩

theorem proper_ofExpansion (negative : Bool) (h : d.coefficient ≠ 0) :
    (ofExpansion negative d).Proper := by
  obtain ⟨c, l, hdigits, hc⟩ := exists_toDigits_eq_cons (Nat.pos_of_ne_zero h)
  have hall := isDigit_digitsOf d.coefficient
  unfold ofExpansion
  split
  · obtain ⟨hwhole, hfraction⟩ := isDigit_aroundPoint d
    exact ⟨first_aroundPoint h, hwhole, hfraction, fun e he => nomatch he⟩
  · refine ⟨.inr ⟨c, [], by simp [digitsOf, hdigits], hc⟩,
      fun c hc => hall c (List.mem_of_mem_take hc),
      fun c hc => hall c (List.mem_of_mem_drop hc), fun e he => ?_⟩
    cases he
    exact ⟨Nat.toDigits_ne_nil, fun c hc => Text.isDigit_of_mem_toDigits hc⟩

theorem proper_ofMagnitude (negative : Bool) (rank : Nat) : (ofMagnitude negative rank).Proper := by
  unfold ofMagnitude
  split
  · have hzero : ∀ c ∈ ['0'], c.isDigit = true := List.forall_mem_singleton.mpr rfl
    exact ⟨.inl rfl, hzero, hzero, fun e he => nomatch he⟩
  · rename_i hrank
    have hpos := Nat.pos_of_ne_zero hrank
    exact proper_ofExpansion _ (coefficient_ne_zero hpos (shortest_spec .even hpos).1)

/-! ### Reading doubles -/

theorem double_of_significand {significand : Nat} {power : Int} (hexponent : n.exponent? = none)
    (hn : n.significand = (significand, power))
    (hrange : ∃ r < rankCount, scale? significand power = some r) :
    ∃ r : Fin rankCount, n.double = .ok (.finite n.negative r) := by
  obtain ⟨r, hr, hscale⟩ := hrange
  exact ⟨⟨r, hr⟩, by simp [double, hn, hexponent, hscale, Double.ofRank, hr]⟩

theorem double_of_exponent {significand : Nat} {power : Int} {e : Exponent} {k : Nat}
    (hexponent : n.exponent? = some e) (hk : readExponent 0 e.digits = .ok k)
    (hn : n.significand = (significand, power))
    (hrange : ∃ r < rankCount,
      scale? significand (if e.negative then power - k else power + k) = some r) :
    ∃ r : Fin rankCount, n.double = .ok (.finite n.negative r) := by
  obtain ⟨r, hr, hscale⟩ := hrange
  exact ⟨⟨r, hr⟩, by simp [double, hn, hexponent, hk, hscale, Double.ofRank, hr]⟩

theorem length_aroundPoint_fst_le (h : isPositionalPower d.power = true) :
    d.aroundPoint.1.length ≤ 16 := by
  simp only [isPositionalPower, Bool.and_eq_true, decide_eq_true_eq] at h
  simp only [Expansion.aroundPoint, positional]
  split
  · simp
  · simp only [List.length_append, List.length_take, List.length_replicate]
    omega

/-- Few digits before the point are read as a magnitude in range, whatever stands behind it. -/
theorem double_of_positional (hexponent : n.exponent? = none) (h : n.whole.length ≤ 16) :
    ∃ r : Fin rankCount, n.double = .ok (.finite n.negative r) := by
  have hgreatest : greatestSignificand ≤ 2 ^ 64 := by decide
  obtain ⟨hsignificand, hpower⟩ := significand_le n
  have hrange := exists_scale?_of_small (hsignificand.trans hgreatest)
    (show n.significand.2 ≤ 288 by omega)
  exact double_of_significand hexponent rfl hrange

theorem readExponent_toDigits {n : Nat} (h : n ≤ greatestExponent) :
    readExponent 0 (Nat.toDigits 10 n) = .ok n := by
  have hread := readExponent_of_digits (n := 0)
    (fun c (hc : c ∈ Nat.toDigits 10 n) => Text.isDigit_of_mem_toDigits hc)
    (by rwa [Nat.ofDigitChars_ten_toDigits])
  rwa [Nat.ofDigitChars_ten_toDigits] at hread

/-- The places behind the point are taken off the exponent. -/
theorem places_off_power {power exponent : Int} {places : Nat} (h : power = exponent + places) :
    (if decide (power < 0) = true then -(places : Int) - (power.natAbs : Int)
      else -(places : Int) + (power.natAbs : Int)) = exponent := by
  split
  · rename_i hneg
    have hneg := of_decide_eq_true hneg
    omega
  · rename_i hnonneg
    have hnonneg : ¬ power < 0 := fun hneg => hnonneg (decide_eq_true hneg)
    omega

/-- Digits behind the first one with an exponent are read as the decimal that they write. -/
theorem double_of_scientific (h : (ofExpansion negative d).Proper)
    (hform : isPositionalPower d.power = false) (hcoefficient : d.coefficient ≤ 10 ^ 17)
    (hleast : -420 < d.exponent) (hgreatest : d.exponent < 309)
    (hrange : ∃ r < rankCount, scale? d.coefficient d.exponent = some r) :
    ∃ r : Fin rankCount, (ofExpansion negative d).double = .ok (.finite negative r) := by
  simp only [ofExpansion, hform, Bool.false_eq_true, if_false] at h ⊢
  have hvalue : Nat.ofDigitChars 10
      ((digitsOf d.coefficient).take 1 ++ (digitsOf d.coefficient).drop 1) 0 = d.coefficient := by
    rw [List.take_append_drop]
    exact Nat.ofDigitChars_ten_toDigits
  have hfits : d.coefficient ≤ greatestSignificand := hcoefficient.trans (by decide)
  have hsignificand := significand_of_digits h (by rw [hvalue]; exact hfits)
  have hlength : (digitsOf d.coefficient).length ≤ 18 :=
    (Nat.length_toDigits_le_iff (by decide) (by decide)).mpr (by omega)
  have hpos : 0 < (digitsOf d.coefficient).length := Nat.length_toDigits_pos
  have hplaces : d.power = d.exponent + ((digitsOf d.coefficient).drop 1).length := by
    rw [List.length_drop, Expansion.power]
    omega
  have hsmall : d.power.natAbs ≤ greatestExponent := by
    have hlarge : 1000 ≤ greatestExponent := by decide
    rw [List.length_drop] at hplaces
    omega
  refine double_of_exponent rfl (readExponent_toDigits hsmall) hsignificand ?_
  rw [hvalue, places_off_power hplaces]
  exact hrange

/-- **A magnitude is read back as one in range.** -/
theorem exists_double_ofMagnitude (negative : Bool) (hlt : rank < rankCount) :
    ∃ r : Fin rankCount, (ofMagnitude negative rank).double = .ok (.finite negative r) := by
  unfold ofMagnitude
  split
  · exact double_of_positional rfl (show 1 ≤ 16 by decide)
  · rename_i hrank
    have hpos := Nat.pos_of_ne_zero hrank
    have hcoefficient := coefficient_shortest_le .even rank
    obtain ⟨hrounds, -⟩ := shortest_spec .even hpos
    cases hform : isPositionalPower (shortest .even rank).power with
    | true =>
        rw [ofExpansion, if_pos hform]
        exact double_of_positional rfl (length_aroundPoint_fst_le hform)
    | false =>
        exact double_of_scientific
          (proper_ofExpansion negative (coefficient_ne_zero hpos hrounds)) hform hcoefficient
          (neg_lt_exponent hpos hrounds hcoefficient) (exponent_lt hpos hlt hrounds)
          (exists_scale?_shortest hpos hlt)

/-- A double is no whole number: it has a point or an exponent. -/
theorem value_ofMagnitude (negative : Bool) (rank : Nat) :
    (ofMagnitude negative rank).value = Json.double <$> (ofMagnitude negative rank).double := by
  have hparts : (ofMagnitude negative rank).fraction ≠ [] ∨
      (ofMagnitude negative rank).exponent? ≠ none := by
    unfold ofMagnitude ofExpansion
    split
    · exact .inl (List.cons_ne_nil _ _)
    · split
      · exact .inl (aroundPoint_snd_ne_nil _)
      · exact .inr (Option.some_ne_none _)
  rcases hparts with hfraction | hexponent
  · simp [value, hfraction]
  · obtain ⟨e, he⟩ := Option.ne_none_iff_exists'.mp hexponent
    simp [value, he]

end Numeral
end Json

namespace Decimal.Double

/-- The number that a double is read back as from its text. -/
def reread : Double → Double
  | finite negative rank =>
      ((Json.Numeral.ofMagnitude negative rank).double.toOption).getD (finite negative rank)
  | d => d

/-- **A finite double is read back as one with its sign.** -/
theorem exists_reread_finite (negative : Bool) (rank : Fin rankCount) :
    ∃ r, (finite negative rank).reread = finite negative r ∧
      (Json.Numeral.ofMagnitude negative rank).value = .ok (.double (finite negative r)) := by
  obtain ⟨r, hr⟩ := Json.Numeral.exists_double_ofMagnitude negative rank.isLt
  refine ⟨r, ?_, ?_⟩
  · rw [reread, hr]
    rfl
  · rw [Json.Numeral.value_ofMagnitude, hr]
    rfl

end Decimal.Double
end SeriesCatalog
