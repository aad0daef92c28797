import SeriesCatalog.Proofs.Success
import SeriesCatalog.Proofs.Text.Trimming
import SeriesCatalog.Text.Numeral

/-!
# Reading back what a number is written as

The text of a whole number is its digits, behind a minus sign if it is negative.  Reading takes
the digits one after the other against a bound, and the number so far never gets smaller: it
exceeds the bound at the end if it does so anywhere.

* `Writes`: the numbers that texts write, with or without a sign.

Results:
* `readDigits_of_digits`: what digits come to.
* `readSigned_eq_ok_iff`: a text is read exactly if it writes a number within the bounds.
* `readSigned_toString`: the text of a number within the bounds is read as that number.
* `trimBlanks_toString`: the text of a number has no blanks to take off.
-/

namespace SeriesCatalog
namespace Text

theorem le_ofDigitChars (l : List Char) (n : Nat) : n ≤ Nat.ofDigitChars 10 l n := by
  induction l generalizing n with
  | nil => exact Nat.le_refl n
  | cons c l ih =>
      have hrest := ih (10 * n + (c.toNat - '0'.toNat))
      rw [Nat.ofDigitChars_cons]
      omega

/-- **Digits are read as the number that they write**, unless it exceeds the bound. -/
theorem readDigits_of_digits {greatest n : Nat} {l : List Char} (overflow : NumeralError)
    (h : ∀ c ∈ l, c.isDigit = true) (hn : n ≤ greatest) :
    readDigits greatest overflow n l =
      if Nat.ofDigitChars 10 l n ≤ greatest then .ok (Nat.ofDigitChars 10 l n)
      else .error overflow := by
  induction l generalizing n with
  | nil => simp [readDigits, hn]
  | cons c l ih =>
      obtain ⟨hc, hl⟩ := List.forall_mem_cons.mp h
      have hdigit : digit? c = some (c.toNat - '0'.toNat) := by simp [digit?, hc]
      simp only [readDigits, hdigit, Nat.ofDigitChars_cons]
      by_cases hfits : 10 * n + (c.toNat - '0'.toNat) ≤ greatest
      · rw [if_neg (Nat.not_lt.mpr hfits), ih hl hfits]
      · -- The bound is exceeded for good.
        have hgrows := le_ofDigitChars l (10 * n + (c.toNat - '0'.toNat))
        rw [if_pos (Nat.not_le.mp hfits), if_neg (by omega)]

theorem isDigit_of_readDigits {greatest n m : Nat} {l : List Char} {overflow : NumeralError}
    (h : readDigits greatest overflow n l = .ok m) : ∀ c ∈ l, c.isDigit = true := by
  induction l generalizing n with
  | nil => simp
  | cons c l ih =>
      by_cases hc : c.isDigit = true
      · simp only [readDigits, digit?, hc, if_true] at h
        split at h
        · cases h
        · exact List.forall_mem_cons.mpr ⟨hc, ih h⟩
      · simp [readDigits, digit?, hc] at h

theorem readDigits_eq_ok_iff {greatest m : Nat} {l : List Char} {overflow : NumeralError} :
    readDigits greatest overflow 0 l = .ok m ↔
      (∀ c ∈ l, c.isDigit = true) ∧ Nat.ofDigitChars 10 l 0 = m ∧ m ≤ greatest := by
  constructor
  · intro h
    have hdigits := isDigit_of_readDigits h
    rw [readDigits_of_digits overflow hdigits (Nat.zero_le _)] at h
    split at h
    · rename_i hle
      cases h
      exact ⟨hdigits, rfl, hle⟩
    · cases h
  · rintro ⟨hdigits, rfl, hle⟩
    rw [readDigits_of_digits overflow hdigits (Nat.zero_le _), if_pos hle]

theorem isDigit_of_mem_toDigits {m : Nat} {c : Char} (hc : c ∈ Nat.toDigits 10 m) :
    c.isDigit = true :=
  Nat.isDigit_of_mem_toDigits (by decide) (by decide) hc

/-! ### The text of a number -/

theorem toList_toString_of_nonneg {n : Int} (h : 0 ≤ n) :
    (toString n).toList = Nat.toDigits 10 n.toNat := by
  rw [Int.toString_eq_repr, Int.repr_eq_if, if_pos h, Nat.toList_repr]

theorem toList_toString_of_neg {n : Int} (h : n < 0) :
    (toString n).toList = '-' :: Nat.toDigits 10 (-n).toNat := by
  rw [Int.toString_eq_repr, Int.repr_eq_if, if_neg (by omega), String.toList_append,
    Nat.toList_repr]
  rfl

theorem isDigit_or_minus_of_mem {n : Int} {c : Char} (hc : c ∈ (toString n).toList) :
    c.isDigit = true ∨ c = '-' := by
  by_cases hn : 0 ≤ n
  · rw [toList_toString_of_nonneg hn] at hc
    exact .inl (isDigit_of_mem_toDigits hc)
  · rw [toList_toString_of_neg (by omega)] at hc
    rcases List.mem_cons.mp hc with rfl | hc
    · exact .inr rfl
    · exact .inl (isDigit_of_mem_toDigits hc)

theorem toString_ne_empty (n : Int) : toString n ≠ "" := by
  intro hempty
  have hnil : (toString n).toList = [] := by rw [hempty]; rfl
  by_cases hn : 0 ≤ n
  · rw [toList_toString_of_nonneg hn] at hnil
    exact Nat.toDigits_ne_nil hnil
  · rw [toList_toString_of_neg (by omega)] at hnil
    cases hnil

theorem readSigned_digits {half : Nat} {s : String} (hne : s.toList ≠ [])
    (h : ∀ c ∈ s.toList, c.isDigit = true) :
    readSigned half s = Int.ofNat <$> readDigits (half - 1) .tooLarge 0 s.toList := by
  unfold readSigned
  split
  case h_1 hnil => exact absurd hnil hne
  -- A sign is no digit.
  case h_2 hs | h_3 hs | h_4 hs | h_5 hs => simp [hs] at h
  case h_6 => rfl

theorem readSigned_minus {half : Nat} {s : String} {l : List Char} (hs : s.toList = '-' :: l)
    (hne : l ≠ []) :
    readSigned half s = (fun n : Nat => -(n : Int)) <$> readDigits half .tooSmall 0 l := by
  cases l with
  | nil => exact absurd rfl hne
  | cons c l => simp [readSigned, hs]

theorem readSigned_plus {half : Nat} {s : String} {l : List Char} (hs : s.toList = '+' :: l)
    (hne : l ≠ []) :
    readSigned half s = Int.ofNat <$> readDigits (half - 1) .tooLarge 0 l := by
  cases l with
  | nil => exact absurd rfl hne
  | cons c l => simp [readSigned, hs]

/-- The number that digits write, behind a sign or without one. -/
inductive Writes : List Char → Int → Prop
  | plain {l : List Char} (hne : l ≠ []) (hl : ∀ c ∈ l, c.isDigit = true) :
      Writes l (Nat.ofDigitChars 10 l 0)
  | plus {l : List Char} (hne : l ≠ []) (hl : ∀ c ∈ l, c.isDigit = true) :
      Writes ('+' :: l) (Nat.ofDigitChars 10 l 0)
  | minus {l : List Char} (hne : l ≠ []) (hl : ∀ c ∈ l, c.isDigit = true) :
      Writes ('-' :: l) (-(Nat.ofDigitChars 10 l 0 : Int))

theorem writes_of_readSigned {half : Nat} {s : String} {n : Int} (hhalf : 0 < half)
    (h : readSigned half s = .ok n) :
    Writes s.toList n ∧ -(half : Int) ≤ n ∧ n < half := by
  unfold readSigned at h
  split at h
  case h_1 | h_2 | h_3 => cases h
  case h_4 l hlone hs =>
    obtain ⟨m, hm, rfl⟩ := ok_of_map_eq_ok h
    obtain ⟨hl, rfl, hle⟩ := readDigits_eq_ok_iff.mp hm
    rw [hs]
    refine ⟨.plus hlone hl, ?_⟩
    simp only [Int.ofNat_eq_natCast]
    omega
  case h_5 l hlone hs =>
    obtain ⟨m, hm, rfl⟩ := ok_of_map_eq_ok h
    obtain ⟨hl, rfl, hle⟩ := readDigits_eq_ok_iff.mp hm
    rw [hs]
    refine ⟨.minus hlone hl, ?_⟩
    omega
  case h_6 l hnil _ _ _ _ =>
    obtain ⟨m, hm, rfl⟩ := ok_of_map_eq_ok h
    obtain ⟨hl, rfl, hle⟩ := readDigits_eq_ok_iff.mp hm
    refine ⟨.plain hnil hl, ?_⟩
    simp only [Int.ofNat_eq_natCast]
    omega

/-- **A text is read as a number exactly if it writes that number**, and the number is within the
bounds. -/
theorem readSigned_eq_ok_iff {half : Nat} {s : String} {n : Int} (hhalf : 0 < half) :
    readSigned half s = .ok n ↔ Writes s.toList n ∧ -(half : Int) ≤ n ∧ n < half := by
  refine ⟨writes_of_readSigned hhalf, ?_⟩
  rintro ⟨hwrites, hleast, hless⟩
  generalize hs : s.toList = l at hwrites
  cases hwrites with
  | plain hne hl =>
      rw [readSigned_digits (hs ▸ hne) (hs ▸ hl), hs,
        readDigits_eq_ok_iff.mpr ⟨hl, rfl, by omega⟩]
      rfl
  | plus hne hl =>
      rw [readSigned_plus hs hne, readDigits_eq_ok_iff.mpr ⟨hl, rfl, by omega⟩]
      rfl
  | minus hne hl =>
      rw [readSigned_minus hs hne, readDigits_eq_ok_iff.mpr ⟨hl, rfl, by omega⟩]
      rfl

theorem writes_toString (n : Int) : Writes (toString n).toList n := by
  by_cases hn : 0 ≤ n
  · have hwrites := Writes.plain (Nat.toDigits_ne_nil (n := n.toNat) (b := 10))
      fun c hc => isDigit_of_mem_toDigits hc
    rwa [Nat.ofDigitChars_ten_toDigits, Int.toNat_of_nonneg hn,
      ← toList_toString_of_nonneg hn] at hwrites
  · have hneg : n < 0 := Int.not_le.mp hn
    have hwrites := Writes.minus (Nat.toDigits_ne_nil (n := (-n).toNat) (b := 10))
      fun c hc => isDigit_of_mem_toDigits hc
    rwa [Nat.ofDigitChars_ten_toDigits, Int.toNat_of_nonneg (by omega), Int.neg_neg,
      ← toList_toString_of_neg hneg] at hwrites

/-- **The text of a number is read as that number**, if it is within the bounds. -/
theorem readSigned_toString {half : Nat} {n : Int} (hleast : -(half : Int) ≤ n) (hless : n < half) :
    readSigned half (toString n) = .ok n :=
  (readSigned_eq_ok_iff (by omega)).mpr ⟨writes_toString n, hleast, hless⟩

/-- A digit is not blank, and neither is a minus sign. -/
theorem isBlank_of_mem_toString {n : Int} {c : Char} (hc : c ∈ (toString n).toList) :
    isBlank c = false := by
  rcases isDigit_or_minus_of_mem hc with hdigit | rfl
  · have hrange : 48 ≤ c.toNat ∧ c.toNat ≤ 57 := by
      simpa [Char.isDigit, UInt32.le_iff_toNat_le] using hdigit
    simp only [isBlank, blankRanges, List.any_cons, List.any_nil, Bool.or_false,
      Bool.or_eq_false_iff, Bool.and_eq_false_iff, decide_eq_false_iff_not]
    omega
  · decide

theorem trimBlanks_toString {before after : String} (hbefore : isBlankText before = true)
    (hafter : isBlankText after = true) (n : Int) :
    trimBlanks (before ++ toString n ++ after) = toString n :=
  trimBlanks_surrounded hbefore hafter (toString_ne_empty n)
    (fun _ hc => isBlank_of_mem_toString (List.mem_of_mem_head? hc))
    (fun _ hc => isBlank_of_mem_toString (List.mem_of_mem_getLast? hc))

end Text
end SeriesCatalog
