import Mathlib.Data.List.Basic
import SeriesCatalog.Decimal.Notation
import SeriesCatalog.Proofs.Decimal.Magnitudes
import SeriesCatalog.Proofs.Text.Numerals

/-!
# Numbers in JSON notation are told apart

The digits around the point, or those before the exponent together with it, give back the decimal
that was written.  It rounds to one rank only, so that different finite numbers have different
texts.  These consist of digits, a point, a sign and the letter of an exponent.

* `isNumeric`: the characters of numbers in JSON notation.
* `mantissa`, `Expansion.written`: how a positive decimal is written.

Results:
* `toList_jsonMagnitude`: a magnitude is written as its shortest decimal.
* `Expansion.written_injective`: the text of a decimal tells which it is.
* `Double.jsonText_finite_inj`: the text of a finite number tells which it is.
-/

namespace SeriesCatalog
namespace Decimal

/-- The characters of numbers in JSON notation. -/
def isNumeric (c : Char) : Bool :=
  c.isDigit || c = '.' || c = 'e' || c = '+' || c = '-'

theorem isNumeric_of_isDigit {c : Char} (h : c.isDigit = true) : isNumeric c = true := by
  simp [isNumeric, h]

/-! ## How a decimal is written -/

/-- Digits with a point behind the first one, unless it is the only one. -/
def mantissa : List Char → List Char
  | [] => []
  | [c] => [c]
  | c :: l => c :: '.' :: l

/-- The power of ten of the first digit. -/
def Expansion.power (d : Expansion) : Int :=
  d.exponent + ((digitsOf d.coefficient).length : Int) - 1

/-- The digits before and behind the point, of which there is at least one. -/
def Expansion.aroundPoint (d : Expansion) : List Char × List Char :=
  let (whole, fraction) := positional (digitsOf d.coefficient) (d.power + 1)
  (whole, if fraction.isEmpty then ['0'] else fraction)

/-- A positive decimal in JSON notation. -/
def Expansion.written (d : Expansion) : List Char :=
  if isPositionalPower d.power then d.aroundPoint.1 ++ '.' :: d.aroundPoint.2
  else
    mantissa (digitsOf d.coefficient) ++
      'e' :: (if d.power < 0 then '-' else '+') :: Nat.toDigits 10 d.power.natAbs

/-- A magnitude is written as its shortest decimal. -/
theorem toList_jsonMagnitude {rank : Nat} (hrank : 0 < rank) :
    (jsonMagnitude rank).toList = (shortest .even rank).written := by
  simp only [jsonMagnitude, Nat.pos_iff_ne_zero.mp hrank, if_false]
  generalize shortest .even rank = d
  have hpower : d.exponent + ((digitsOf d.coefficient).length : Int) - 1 = d.power := rfl
  have hdigits (n : Nat) : (toString n).toList = Nat.toDigits 10 n := by
    rw [Nat.toString_eq_ofList_toDigits, String.toList_ofList]
  simp only [hpower, Expansion.written, apply_ite String.toList, String.toList_append]
  congr 1
  · simp only [Expansion.aroundPoint, String.toList_ofList, List.append_assoc]
    rfl
  · rw [List.append_assoc]
    congr 1
    · rcases digitsOf d.coefficient with _ | ⟨c, _ | ⟨c', l⟩⟩ <;> simp [mantissa]
    · rw [hdigits]
      split <;> rfl

/-! ## Reading it back -/

section Characters

variable {digits : List Char} {d d' : Expansion}

theorem isDigit_positional (h : ∀ c ∈ digits, c.isDigit = true) (leading : Int) :
    (∀ c ∈ (positional digits leading).1, c.isDigit = true) ∧
      ∀ c ∈ (positional digits leading).2, c.isDigit = true := by
  have hzeros (n : Nat) : ∀ c ∈ List.replicate n '0', c.isDigit = true := by
    intro c hc
    rw [List.eq_of_mem_replicate hc]
    rfl
  unfold positional
  split
  · exact ⟨hzeros 1, List.forall_mem_append.mpr ⟨hzeros _, h⟩⟩
  · exact ⟨List.forall_mem_append.mpr ⟨fun c hc => h c (List.mem_of_mem_take hc), hzeros _⟩,
      fun c hc => h c (List.mem_of_mem_drop hc)⟩

theorem isDigit_digitsOf (n : Nat) : ∀ c ∈ digitsOf n, c.isDigit = true :=
  fun _ hc => Text.isDigit_of_mem_toDigits hc

theorem isDigit_aroundPoint (d : Expansion) :
    (∀ c ∈ d.aroundPoint.1, c.isDigit = true) ∧ ∀ c ∈ d.aroundPoint.2, c.isDigit = true := by
  obtain ⟨hwhole, hfraction⟩ := isDigit_positional (isDigit_digitsOf d.coefficient) (d.power + 1)
  refine ⟨hwhole, ?_⟩
  simp only [Expansion.aroundPoint]
  split
  · exact List.forall_mem_singleton.mpr rfl
  · exact hfraction

theorem isNumeric_mantissa (h : ∀ c ∈ digits, c.isDigit = true) :
    ∀ c ∈ mantissa digits, c.isDigit = true ∨ c = '.' := by
  rcases digits with _ | ⟨c, _ | ⟨c', l⟩⟩
  · simp [mantissa]
  · simpa [mantissa] using Or.inl h
  · intro x hx
    simp only [mantissa, List.mem_cons] at hx
    rcases hx with rfl | rfl | hx
    · exact .inl (h _ List.mem_cons_self)
    · exact .inr rfl
    · exact .inl (h _ (List.mem_cons_of_mem _ (List.mem_cons.mpr hx)))

theorem isNumeric_written (d : Expansion) : ∀ c ∈ d.written, isNumeric c = true := by
  unfold Expansion.written
  split
  · obtain ⟨hwhole, hfraction⟩ := isDigit_aroundPoint d
    refine List.forall_mem_append.mpr ⟨fun c hc => isNumeric_of_isDigit (hwhole c hc),
      List.forall_mem_cons.mpr ⟨by decide, fun c hc => isNumeric_of_isDigit (hfraction c hc)⟩⟩
  · refine List.forall_mem_append.mpr ⟨fun c hc => ?_, List.forall_mem_cons.mpr ⟨by decide,
      List.forall_mem_cons.mpr ⟨by split <;> decide, fun c hc => ?_⟩⟩⟩
    · rcases isNumeric_mantissa (isDigit_digitsOf _) c hc with hdigit | rfl
      · exact isNumeric_of_isDigit hdigit
      · decide
    · exact isNumeric_of_isDigit (Text.isDigit_of_mem_toDigits hc)

/-- Zeros behind a number move its digits up. -/
theorem ofDigitChars_zeros (k n : Nat) :
    Nat.ofDigitChars 10 (List.replicate k '0') n = n * 10 ^ k := by
  induction k generalizing n with
  | zero => simp
  | succ k ih =>
      rw [List.replicate_succ, Nat.ofDigitChars_cons, ih, Nat.sub_self, pow_succ]
      ring

/-- The digits around the point are those written, with zeros behind them up to the point. -/
theorem ofDigitChars_positional (digits : List Char) (leading : Int) :
    Nat.ofDigitChars 10 ((positional digits leading).1 ++ (positional digits leading).2) 0 =
      Nat.ofDigitChars 10 digits 0 * 10 ^ (leading.toNat - digits.length) := by
  unfold positional
  split
  · -- Only zeros stand before the first digit.
    rename_i hleading
    have hnone : leading.toNat - digits.length = 0 := by omega
    have hzero : Nat.ofDigitChars 10 ['0'] 0 = 0 := rfl
    rw [Nat.ofDigitChars_append, Nat.ofDigitChars_append, hzero, ofDigitChars_zeros, Nat.zero_mul,
      hnone, pow_zero, Nat.mul_one]
  · dsimp only
    rcases Nat.le_total digits.length leading.toNat with hlong | hshort
    · rw [List.take_of_length_le hlong, List.drop_of_length_le hlong, List.append_nil,
        Nat.ofDigitChars_append, ofDigitChars_zeros]
    · have hnone : leading.toNat - digits.length = 0 := by omega
      rw [hnone, List.replicate_zero, List.append_nil, List.take_append_drop, pow_zero,
        Nat.mul_one]

theorem length_positional (digits : List Char) (leading : Int) :
    ((positional digits leading).2.length : Int) =
      digits.length + ((leading.toNat - digits.length : Nat) : Int) - leading := by
  unfold positional
  split
  · rw [List.length_append, List.length_replicate]
    omega
  · rw [List.length_drop]
    omega

/-- The digits around the point are those of the decimal, with as many zeros behind them as the
places behind the point are too many. -/
theorem aroundPoint_value (d : Expansion) :
    ∃ k : Nat, Nat.ofDigitChars 10 (d.aroundPoint.1 ++ d.aroundPoint.2) 0 = d.coefficient * 10 ^ k ∧
      (d.aroundPoint.2.length : Int) = k - d.exponent := by
  have hdigits : Nat.ofDigitChars 10 (digitsOf d.coefficient) 0 = d.coefficient :=
    Nat.ofDigitChars_ten_toDigits
  have hvalue := ofDigitChars_positional (digitsOf d.coefficient) (d.power + 1)
  have hplaces := length_positional (digitsOf d.coefficient) (d.power + 1)
  have hpower : d.power + 1 = d.exponent + ((digitsOf d.coefficient).length : Int) :=
    Int.sub_add_cancel _ 1
  rw [hdigits] at hvalue
  simp only [Expansion.aroundPoint]
  generalize (d.power + 1).toNat - (digitsOf d.coefficient).length = k at hvalue hplaces
  split
  · -- The zero behind the point is one more.
    rename_i hempty
    have hnone := List.isEmpty_iff.mp hempty
    have hzero : Nat.ofDigitChars 10 ['0'] (d.coefficient * 10 ^ k) =
        d.coefficient * 10 ^ k * 10 ^ 1 := ofDigitChars_zeros 1 _
    rw [hnone, List.append_nil] at hvalue
    rw [hnone, List.length_nil] at hplaces
    refine ⟨k + 1, ?_, ?_⟩
    · rw [Nat.ofDigitChars_append, hvalue, hzero, Nat.mul_assoc, ← pow_add]
    · rw [List.length_singleton]
      omega
  · exact ⟨k, hvalue, by omega⟩

theorem eq_of_stripped {n n' k k' : Nat} (hn : n % 10 ≠ 0) (hn' : n' % 10 ≠ 0)
    (h : n * 10 ^ k = n' * 10 ^ k') : n = n' ∧ k = k' := by
  wlog hle : k ≤ k'
  · exact (this hn' hn h.symm (by omega)).imp Eq.symm Eq.symm
  obtain ⟨m, rfl⟩ := Nat.exists_eq_add_of_le hle
  have hsame : n = n' * 10 ^ m := by
    refine Nat.eq_of_mul_eq_mul_right (Nat.pow_pos (n := k) (show 0 < 10 by decide)) ?_
    rw [h, pow_add]
    ring
  cases m with
  | zero => exact ⟨by simpa using hsame, rfl⟩
  | succ m =>
      rw [pow_succ, ← Nat.mul_assoc] at hsame
      omega

theorem eq_of_digitsOf {n n' : Nat} (h : digitsOf n = digitsOf n') : n = n' := by
  have hvalue := congrArg (fun l => Nat.ofDigitChars 10 l 0) h
  simpa only [digitsOf, Nat.ofDigitChars_ten_toDigits] using hvalue

theorem filter_mantissa (h : ∀ c ∈ digits, c.isDigit = true) :
    (mantissa digits).filter Char.isDigit = digits := by
  have hall : digits.filter Char.isDigit = digits := List.filter_eq_self.mpr h
  rcases digits with _ | ⟨c, _ | ⟨c', l⟩⟩
  · rfl
  · exact hall
  · have hpoint : mantissa (c :: c' :: l) = c :: '.' :: c' :: l := rfl
    rw [hpoint, List.filter_cons, List.filter_cons]
    rw [List.filter_cons] at hall
    simpa using hall

theorem not_mem_of_isDigit {l : List Char} (h : ∀ c ∈ l, c.isDigit = true) {c : Char}
    (hc : c.isDigit = false) : c ∉ l :=
  fun hmem => by simp [h c hmem] at hc

theorem e_not_mem_mantissa (n : Nat) : 'e' ∉ mantissa (digitsOf n) := by
  intro hmem
  rcases isNumeric_mantissa (isDigit_digitsOf n) 'e' hmem with h | h
  · cases h
  · cases h

/-- The exponent stands behind its own letter, which no positional notation has. -/
theorem e_mem_written_iff (d : Expansion) :
    'e' ∈ d.written ↔ isPositionalPower d.power = false := by
  obtain ⟨hwhole, hfraction⟩ := isDigit_aroundPoint d
  unfold Expansion.written
  split
  · rename_i hpower
    have hnot : 'e' ∉ d.aroundPoint.1 ++ '.' :: d.aroundPoint.2 := by
      simp [not_mem_of_isDigit hwhole (c := 'e') rfl, not_mem_of_isDigit hfraction (c := 'e') rfl]
    simp [hnot, hpower]
  · rename_i hpower
    simp [hpower]

theorem eq_of_exponent_text {p p' : Int}
    (h : (if p < 0 then '-' else '+') :: Nat.toDigits 10 p.natAbs =
      (if p' < 0 then '-' else '+') :: Nat.toDigits 10 p'.natAbs) : p = p' := by
  obtain ⟨hsign, hdigits⟩ := List.cons_eq_cons.mp h
  have hmagnitude : p.natAbs = p'.natAbs := eq_of_digitsOf hdigits
  split at hsign <;> split at hsign
  · omega
  · cases hsign
  · cases hsign
  · omega

theorem Expansion.eq_of_parts (hcoefficient : d.coefficient = d'.coefficient)
    (hexponent : d.exponent = d'.exponent) : d = d' := by
  cases d
  cases d'
  cases hcoefficient
  cases hexponent
  rfl

/-- **The text of a decimal tells which it is**, if it ends with no zero. -/
theorem Expansion.written_injective (hd : d.coefficient % 10 ≠ 0) (hd' : d'.coefficient % 10 ≠ 0)
    (h : d.written = d'.written) : d = d' := by
  have hform : isPositionalPower d.power = isPositionalPower d'.power := by
    rw [Bool.eq_iff_iff, ← not_iff_not, Bool.not_eq_true, Bool.not_eq_true, ← e_mem_written_iff,
      ← e_mem_written_iff, h]
  rw [Expansion.written, Expansion.written, hform] at h
  split at h
  · obtain ⟨hwhole, hfraction⟩ := isDigit_aroundPoint d
    obtain ⟨k, hvalue, hplaces⟩ := aroundPoint_value d
    obtain ⟨k', hvalue', hplaces'⟩ := aroundPoint_value d'
    obtain ⟨hbefore, -, hbehind⟩ := (List.append_cons_inj_of_notMem
      (not_mem_of_isDigit hwhole rfl) (not_mem_of_isDigit hfraction rfl)).mp h
    rw [hbefore, hbehind] at hvalue
    obtain ⟨hcoefficient, hzeros⟩ := eq_of_stripped hd hd' (hvalue.symm.trans hvalue')
    rw [hbehind] at hplaces
    exact eq_of_parts hcoefficient (by omega)
  · have hexponent :
        'e' ∉ (if d.power < 0 then '-' else '+') :: Nat.toDigits 10 d.power.natAbs := by
      rw [List.mem_cons, not_or]
      exact ⟨by split <;> decide, not_mem_of_isDigit (isDigit_digitsOf d.power.natAbs) rfl⟩
    obtain ⟨hmantissa, -, hbehind⟩ := (List.append_cons_inj_of_notMem
      (e_not_mem_mantissa d.coefficient) hexponent).mp h
    have hdigits : digitsOf d.coefficient = digitsOf d'.coefficient := by
      rw [← filter_mantissa (isDigit_digitsOf d.coefficient), hmantissa,
        filter_mantissa (isDigit_digitsOf d'.coefficient)]
    have hpower := eq_of_exponent_text hbehind
    simp only [power, hdigits] at hpower
    exact eq_of_parts (eq_of_digitsOf hdigits) (by omega)

/-- A written decimal begins with a digit. -/
theorem exists_written_eq_cons (d : Expansion) :
    ∃ c l, c.isDigit = true ∧ d.written = c :: l := by
  have hsome : digitsOf d.coefficient ≠ [] := Nat.toDigits_ne_nil
  obtain ⟨c, digits, hdigits⟩ := List.exists_cons_of_ne_nil hsome
  have hc : c.isDigit = true := isDigit_digitsOf d.coefficient c (hdigits ▸ List.mem_cons_self)
  unfold Expansion.written
  split
  · simp only [Expansion.aroundPoint, positional]
    split
    · exact ⟨'0', _, rfl, rfl⟩
    · rename_i hleading
      obtain ⟨m, hm⟩ : ∃ m, (d.power + 1).toNat = m + 1 := ⟨(d.power + 1).toNat - 1, by omega⟩
      rw [hm, hdigits, List.take_succ_cons]
      exact ⟨c, _, hc, rfl⟩
  · rw [hdigits]
    cases digits with
    | nil => exact ⟨c, _, hc, rfl⟩
    | cons c' l => exact ⟨c, _, hc, rfl⟩

/-- A written decimal has a point or the letter of an exponent. -/
theorem point_or_e_mem_written (d : Expansion) : '.' ∈ d.written ∨ 'e' ∈ d.written := by
  unfold Expansion.written
  split <;> simp

/-- Only zero is written with no other digit than zeros. -/
theorem written_ne_zero (hd : d.coefficient % 10 ≠ 0) : d.written ≠ ['0', '.', '0'] := by
  intro h
  obtain ⟨hwhole, hfraction⟩ := isDigit_aroundPoint d
  obtain ⟨k, hvalue, -⟩ := aroundPoint_value d
  have hform : isPositionalPower d.power = true := by
    rw [← Bool.not_eq_false, ← e_mem_written_iff, h]
    decide
  rw [Expansion.written, if_pos hform] at h
  change d.aroundPoint.1 ++ '.' :: d.aroundPoint.2 = ['0'] ++ '.' :: ['0'] at h
  obtain ⟨hbefore, -, hbehind⟩ := (List.append_cons_inj_of_notMem
    (not_mem_of_isDigit hwhole rfl) (not_mem_of_isDigit hfraction rfl)).mp h
  rw [hbefore, hbehind] at hvalue
  have hzero : d.coefficient * 10 ^ k = 0 := hvalue.symm
  rcases Nat.mul_eq_zero.mp hzero with hcoefficient | hpower
  · exact hd (by rw [hcoefficient])
  · exact absurd hpower (Nat.pos_iff_ne_zero.mp (Nat.pow_pos (by decide)))

end Characters

/-! ## Finite numbers -/

variable {rank rank' : Nat}

theorem isNumeric_jsonMagnitude (rank : Nat) :
    ∀ c ∈ (jsonMagnitude rank).toList, isNumeric c = true := by
  rcases Nat.eq_zero_or_pos rank with rfl | hrank
  · exact List.all_eq_true.mp (by decide)
  · rw [toList_jsonMagnitude hrank]
    exact isNumeric_written _

theorem exists_jsonMagnitude_eq_cons (rank : Nat) :
    ∃ c l, c.isDigit = true ∧ (jsonMagnitude rank).toList = c :: l := by
  rcases Nat.eq_zero_or_pos rank with rfl | hrank
  · exact ⟨'0', _, rfl, rfl⟩
  · rw [toList_jsonMagnitude hrank]
    exact exists_written_eq_cons _

theorem point_or_e_mem_jsonMagnitude (rank : Nat) :
    '.' ∈ (jsonMagnitude rank).toList ∨ 'e' ∈ (jsonMagnitude rank).toList := by
  rcases Nat.eq_zero_or_pos rank with rfl | hrank
  · exact .inl (by decide)
  · rw [toList_jsonMagnitude hrank]
    exact point_or_e_mem_written _

theorem jsonMagnitude_ne_zero (hrank : 0 < rank) : jsonMagnitude rank ≠ jsonMagnitude 0 := by
  intro h
  refine written_ne_zero (shortest_spec .even hrank).2 ?_
  rw [← toList_jsonMagnitude hrank, h]
  rfl

/-- **Different magnitudes have different texts.** -/
theorem jsonMagnitude_injective (h : jsonMagnitude rank = jsonMagnitude rank') :
    rank = rank' := by
  rcases Nat.eq_zero_or_pos rank with rfl | hrank
  · rcases Nat.eq_zero_or_pos rank' with rfl | hrank'
    · rfl
    · exact absurd h.symm (jsonMagnitude_ne_zero hrank')
  rcases Nat.eq_zero_or_pos rank' with rfl | hrank'
  · exact absurd h (jsonMagnitude_ne_zero hrank)
  obtain ⟨hrounds, hstripped⟩ := shortest_spec .even hrank
  obtain ⟨hrounds', hstripped'⟩ := shortest_spec .even hrank'
  have hwritten : (shortest .even rank).written = (shortest .even rank').written := by
    rw [← toList_jsonMagnitude hrank, ← toList_jsonMagnitude hrank', h]
  have hsame := Expansion.written_injective hstripped hstripped' hwritten
  exact rank_unique hrounds (hsame ▸ hrounds')

namespace Double

variable {negative negative' : Bool} {r r' : Fin rankCount}

theorem toList_jsonText_finite :
    (finite negative r).jsonText.toList =
      (if negative then ['-'] else []) ++ (jsonMagnitude r).toList := by
  cases negative <;> simp [jsonText, signText]

theorem isNumeric_jsonText_finite :
    ∀ c ∈ (finite negative r).jsonText.toList, isNumeric c = true := by
  rw [toList_jsonText_finite]
  refine List.forall_mem_append.mpr ⟨?_, isNumeric_jsonMagnitude _⟩
  cases negative <;> exact List.all_eq_true.mp (by decide)

theorem point_or_e_mem_jsonText_finite :
    '.' ∈ (finite negative r).jsonText.toList ∨ 'e' ∈ (finite negative r).jsonText.toList := by
  rw [toList_jsonText_finite]
  exact (point_or_e_mem_jsonMagnitude r).imp (List.mem_append_right _) (List.mem_append_right _)

/-- The text of a finite number begins with a digit or, if it is negative, with a sign. -/
theorem exists_jsonText_finite_eq_cons :
    ∃ c l, (c.isDigit = true ∨ c = '-') ∧ (finite negative r).jsonText.toList = c :: l := by
  obtain ⟨c, l, hc, hmagnitude⟩ := exists_jsonMagnitude_eq_cons r
  rw [toList_jsonText_finite, hmagnitude]
  cases negative with
  | true => exact ⟨'-', _, .inr rfl, rfl⟩
  | false => exact ⟨c, l, .inl hc, rfl⟩

/-- **The text of a finite number tells which it is.** -/
theorem jsonText_finite_inj (h : (finite negative r).jsonText = (finite negative' r').jsonText) :
    finite negative r = finite negative' r' := by
  obtain ⟨c, l, hc, hmagnitude⟩ := exists_jsonMagnitude_eq_cons r
  obtain ⟨c', l', hc', hmagnitude'⟩ := exists_jsonMagnitude_eq_cons r'
  have htext := congrArg String.toList h
  rw [toList_jsonText_finite, toList_jsonText_finite, hmagnitude, hmagnitude'] at htext
  have hsign : negative = negative' := by
    cases negative <;> cases negative'
    · rfl
    · cases (List.cons_eq_cons.mp htext).1
      cases hc
    · cases (List.cons_eq_cons.mp htext).1
      cases hc'
    · rfl
  subst hsign
  have hsame := List.append_cancel_left htext
  rw [← hmagnitude, ← hmagnitude'] at hsame
  rw [Fin.ext (jsonMagnitude_injective (String.toList_inj.mp hsame))]

end Double

end Decimal
end SeriesCatalog
