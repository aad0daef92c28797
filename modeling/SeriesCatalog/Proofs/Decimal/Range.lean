import SeriesCatalog.Json.Numeral
import SeriesCatalog.Proofs.Decimal.Magnitudes

/-!
# Written magnitudes stay in range

Rounding keeps the order: a fraction that does not exceed a magnitude is not rounded to a greater
one, and one that reaches it is not rounded to a smaller one.  So a number can be scaled with
bounds instead of values.

Results:
* `nearestRank_le`, `le_nearestRank`: rounding keeps the order.
* `Json.exists_scale?_of_small`: numbers of 64 bits with a small power of ten.
* `Json.exists_scale?_shortest`: the shortest decimals of magnitudes.
-/

namespace SeriesCatalog
namespace Decimal

/-! ## Rounding keeps the order -/

/-- A magnitude has at most 53 binary digits in front of its power of two, and all of them unless
this power is the least one. -/
theorem exists_units_eq (rank : Nat) : ∃ k c, rank = k * binade + c ∧ c < 2 * binade ∧
    (k = 0 ∨ binade ≤ c) ∧ units rank = c * 2 ^ k := by
  obtain ⟨q, m, hm, rfl⟩ : ∃ q m, m < binade ∧ rank = q * binade + m :=
    ⟨rank / binade, rank % binade, Nat.mod_lt _ binade_pos, (Nat.div_add_mod' _ _).symm⟩
  rw [units_parts hm]
  cases q with
  | zero => exact ⟨0, m, rfl, by omega, .inl rfl, by simp⟩
  | succ q =>
      refine ⟨q, binade + m, ?_, by omega, .inr (by omega), by simp⟩
      rw [Nat.add_mul]
      omega

variable {num den rank : Nat}

theorem roundHalfEven_le {n : Nat} (hden : 0 < den) (h : num ≤ n * den) :
    roundHalfEven num den ≤ n := by
  have hparts := Nat.div_add_mod num den
  have hfloor : num / den ≤ n := by
    rw [Nat.mul_comm] at h
    exact Nat.div_le_of_le_mul h
  rcases Nat.lt_or_eq_of_le hfloor with hless | hsame
  · unfold roundHalfEven
    dsimp only
    split
    · omega
    · split <;> omega
  · -- There is nothing to round.
    have hrest : num % den = 0 := by
      rw [hsame, Nat.mul_comm] at hparts
      omega
    simp [roundHalfEven, hrest, hden, hsame]

theorem le_roundHalfEven {n : Nat} (hden : 0 < den) (h : n * den ≤ num) :
    n ≤ roundHalfEven num den := by
  have hfloor : n ≤ num / den := (Nat.le_div_iff_mul_le hden).mpr h
  unfold roundHalfEven
  dsimp only
  split
  · exact hfloor
  · split <;> omega

/-- The power of two that a fraction is rounded to a multiple of. -/
theorem exists_nearestRank_eq (num : Nat) (hden : 0 < den) : ∃ shift : Nat,
    nearestRank num den =
      shift * binade + roundHalfEven (num * unitsPerOne) (den * 2 ^ shift) ∧
    num * unitsPerOne < 2 * binade * (den * 2 ^ shift) ∧
    (shift = 0 ∨ binade * (den * 2 ^ shift) ≤ num * unitsPerOne) := by
  have hfloor := Nat.div_mul_le_self (num * unitsPerOne) den
  have hnext := Nat.lt_div_mul_add (a := num * unitsPerOne) hden
  unfold nearestRank
  dsimp only
  generalize num * unitsPerOne / den = q at *
  split
  · rename_i hq
    refine ⟨0, rfl, ?_, .inl rfl⟩
    calc num * unitsPerOne < (q + 1) * den := by rw [Nat.add_mul]; omega
      _ ≤ 2 * binade * den := Nat.mul_le_mul_right _ hq
      _ = 2 * binade * (den * 2 ^ 0) := by simp
  · rename_i hq
    have hbinade : binade = 2 ^ 52 := by decide
    have hq0 : q ≠ 0 := by
      rintro rfl
      exact hq (by decide)
    have hlog : 52 ≤ q.log2 := (Nat.le_log2 hq0).mpr (by omega)
    obtain ⟨shift, hshift⟩ := Nat.exists_eq_add_of_le hlog
    have hle := Nat.log2_self_le hq0
    have hlt := Nat.lt_log2_self (n := q)
    rw [hshift] at hle hlt
    have hsub : q.log2 - 52 = shift := by omega
    refine ⟨shift, by rw [hsub]; rfl, ?_, .inr ?_⟩
    · calc num * unitsPerOne < (q + 1) * den := by rw [Nat.add_mul]; omega
        _ ≤ 2 ^ (52 + shift + 1) * den := Nat.mul_le_mul_right _ hlt
        _ = 2 * binade * (den * 2 ^ shift) := by rw [hbinade]; ring
    · calc binade * (den * 2 ^ shift) = 2 ^ (52 + shift) * den := by rw [hbinade]; ring
        _ ≤ q * den := Nat.mul_le_mul_right _ hle
        _ ≤ num * unitsPerOne := hfloor

/-- Twice as much fits below the next power of two. -/
theorem two_mul_grid_le (den n : Nat) {shift k : Nat} (h : shift < k) :
    2 * n * (den * 2 ^ shift) ≤ n * (den * 2 ^ k) := by
  calc 2 * n * (den * 2 ^ shift) = n * (den * 2 ^ (shift + 1)) := by ring
    _ ≤ n * (den * 2 ^ k) :=
        Nat.mul_le_mul_left _ (Nat.mul_le_mul_left _ (Nat.pow_le_pow_right (by decide) h))

/-- **A fraction that does not exceed a magnitude is not rounded to a greater one.** -/
theorem nearestRank_le (hden : 0 < den) (h : num * unitsPerOne ≤ units rank * den) :
    nearestRank num den ≤ rank := by
  obtain ⟨shift, hnearest, hless, hlarge⟩ := exists_nearestRank_eq num hden
  obtain ⟨k, c, rfl, hc, hfull, hunits⟩ := exists_units_eq rank
  have hgrid (n : Nat) : 0 < den * 2 ^ n := Nat.mul_pos hden (Nat.two_pow_pos _)
  have hbelow : num * unitsPerOne ≤ c * (den * 2 ^ k) := by
    rw [hunits] at h
    linarith
  have hshift : shift ≤ k := by
    by_contra hnot
    have hdouble := two_mul_grid_le den binade (Nat.not_le.mp hnot)
    have hgreater := Nat.mul_lt_mul_of_pos_right hc (hgrid k)
    omega
  rw [hnearest]
  rcases Nat.lt_or_eq_of_le hshift with hsmaller | rfl
  · have hround : roundHalfEven (num * unitsPerOne) (den * 2 ^ shift) ≤ 2 * binade :=
      roundHalfEven_le (hgrid shift) hless.le
    have hpowers : (shift + 1) * binade ≤ k * binade := Nat.mul_le_mul_right _ hsmaller
    rw [Nat.add_mul] at hpowers
    omega
  · have hround := roundHalfEven_le (hgrid shift) hbelow
    omega

/-- **A fraction that reaches a magnitude is not rounded to a smaller one.** -/
theorem le_nearestRank (hden : 0 < den) (h : units rank * den ≤ num * unitsPerOne) :
    rank ≤ nearestRank num den := by
  obtain ⟨shift, hnearest, hless, hlarge⟩ := exists_nearestRank_eq num hden
  obtain ⟨k, c, rfl, hc, hfull, hunits⟩ := exists_units_eq rank
  have hgrid (n : Nat) : 0 < den * 2 ^ n := Nat.mul_pos hden (Nat.two_pow_pos _)
  have habove : c * (den * 2 ^ k) ≤ num * unitsPerOne := by
    rw [hunits] at h
    linarith
  have hshift : k ≤ shift := by
    by_contra hnot
    have hdouble := two_mul_grid_le den binade (Nat.not_le.mp hnot)
    have hsmaller : binade * (den * 2 ^ k) ≤ c * (den * 2 ^ k) :=
      Nat.mul_le_mul_right _ (by omega)
    omega
  rw [hnearest]
  rcases Nat.lt_or_eq_of_le hshift with hgreater | rfl
  · have hround := le_roundHalfEven (hgrid shift) (hlarge.resolve_left (by omega))
    have hpowers : (k + 1) * binade ≤ shift * binade := Nat.mul_le_mul_right _ hgreater
    rw [Nat.add_mul] at hpowers
    omega
  · have hround := le_roundHalfEven (hgrid k) habove
    omega

/-! ## Whole numbers

The fraction of a whole number has the binary digits of the number in front of those of one, which
need not be counted again. -/

/-- The rank nearest to a whole number above zero. -/
def wholeRank (n : Nat) : Nat :=
  (1022 + n.log2) * binade + roundHalfEven (n * unitsPerOne) (Nat.pow 2 (1022 + n.log2))

theorem log2_mul_unitsPerOne {n : Nat} (hn : 0 < n) :
    (n * unitsPerOne).log2 = 1074 + n.log2 := by
  obtain ⟨k, hk⟩ : ∃ k, k = 1074 := ⟨_, rfl⟩
  have hone : unitsPerOne = 2 ^ k := by
    delta unitsPerOne
    rw [← hk]
    rfl
  obtain ⟨hle, hlt⟩ := (Nat.log2_eq_iff hn.ne').mp rfl
  have hpos : 0 < 2 ^ k := Nat.two_pow_pos k
  rw [← hk, hone, Nat.log2_eq_iff (Nat.mul_pos hn hpos).ne']
  constructor
  · calc 2 ^ (k + n.log2) = 2 ^ n.log2 * 2 ^ k := by ring
      _ ≤ n * 2 ^ k := Nat.mul_le_mul_right _ hle
  · calc n * 2 ^ k < 2 ^ (n.log2 + 1) * 2 ^ k := Nat.mul_lt_mul_of_pos_right hlt hpos
      _ = 2 ^ (k + n.log2 + 1) := by ring

theorem nearestRank_one_eq {n : Nat} (hn : 0 < n) : nearestRank n 1 = wholeRank n := by
  have hlog := log2_mul_unitsPerOne hn
  have hlarge : ¬ n * unitsPerOne < 2 * binade := by
    intro hless
    have hbinade : 2 * binade = 2 ^ 53 := by decide
    rw [hbinade] at hless
    have hdigits := (Nat.log2_lt (Nat.mul_pos hn unitsPerOne_pos).ne').mpr hless
    omega
  have hshift : 1074 + n.log2 - 52 = 1022 + n.log2 := by omega
  simp only [nearestRank, wholeRank, Nat.div_one, Nat.one_mul, if_neg hlarge, hlog, hshift]

/-! ## The size of shortest decimals -/

/-- A grid with at most sixteen places behind the leading digit has no point with more than
seventeen digits below a fraction `m / u`, where `n` is the number of digits of the fraction with
`10 ^ k` above. -/
theorem coarse_of_digits {k n u m i : Nat} (hi : i ≤ 16) (h : 10 ^ k * m < 10 ^ n * u) :
    m * tenTo (-((n : Int) - (k + 1) - i)) < u * tenTo ((n : Int) - (k + 1) - i) * 10 ^ 17 := by
  have hplaces : 10 ^ (1 + i) ≤ 10 ^ 17 := Nat.pow_le_pow_right (by decide) (by omega)
  refine Nat.lt_of_mul_lt_mul_left (a := 10 ^ k) ?_
  simp only [tenTo, Nat.pow_eq]
  rcases Nat.lt_or_ge n (k + 1 + i) with hshort | hlong
  · have hup : ((n : Int) - (k + 1) - i).toNat = 0 := by omega
    have hdown : (-((n : Int) - (k + 1) - i)).toNat = k + 1 + i - n := by omega
    have hpowers : 10 ^ n * 10 ^ (k + 1 + i - n) = 10 ^ k * 10 ^ (1 + i) := by
      rw [← pow_add, ← pow_add]
      congr 1
      omega
    rw [hup, hdown]
    calc 10 ^ k * (m * 10 ^ (k + 1 + i - n))
        = 10 ^ k * m * 10 ^ (k + 1 + i - n) := by ring
      _ < 10 ^ n * u * 10 ^ (k + 1 + i - n) :=
          Nat.mul_lt_mul_of_pos_right h (Nat.pow_pos (by decide))
      _ = u * 10 ^ k * 10 ^ (1 + i) := by rw [Nat.mul_right_comm, hpowers]; ring
      _ ≤ u * 10 ^ k * 10 ^ 17 := Nat.mul_le_mul_left _ hplaces
      _ = 10 ^ k * (u * 10 ^ 0 * 10 ^ 17) := by ring
  · have hup : ((n : Int) - (k + 1) - i).toNat = n - (k + 1 + i) := by omega
    have hdown : (-((n : Int) - (k + 1) - i)).toNat = 0 := by omega
    have hpowers : 10 ^ n = 10 ^ k * 10 ^ (n - (k + 1 + i)) * 10 ^ (1 + i) := by
      rw [← pow_add, ← pow_add]
      congr 1
      omega
    rw [hup, hdown]
    calc 10 ^ k * (m * 10 ^ 0) = 10 ^ k * m := by ring
      _ < 10 ^ n * u := h
      _ = u * 10 ^ k * 10 ^ (n - (k + 1 + i)) * 10 ^ (1 + i) := by rw [hpowers]; ring
      _ ≤ u * 10 ^ k * 10 ^ (n - (k + 1 + i)) * 10 ^ 17 := Nat.mul_le_mul_left _ hplaces
      _ = 10 ^ k * (u * 10 ^ (n - (k + 1 + i)) * 10 ^ 17) := by ring

theorem lt_pow_length_digitsOf (n : Nat) : n < 10 ^ (digitsOf n).length :=
  (Nat.length_toDigits_le_iff (by decide) Nat.length_toDigits_pos).mp (Nat.le_refl _)

theorem leadingPower_coarse (rank : Nat) {i : Nat} (hi : i ≤ 16) :
    units rank * tenTo (-(leadingPower rank - i)) <
      unitsPerOne * tenTo (leadingPower rank - i) * 10 ^ 17 := by
  obtain ⟨k, hk⟩ : ∃ k : Nat, k = 400 := ⟨_, rfl⟩
  have hdigits := lt_pow_length_digitsOf (Nat.pow 10 k * units rank / unitsPerOne)
  rw [leadingPower_eq rank hk]
  exact coarse_of_digits hi ((Nat.div_lt_iff_lt_mul unitsPerOne_pos).mp hdigits)

theorem coefficient_of_onGrid {tie : Tie} {exponent : Int} {d : Expansion}
    (h : onGrid? tie rank exponent = some d) :
    d.coefficient ≤ units rank * tenTo (-exponent) / (unitsPerOne * tenTo exponent) + 1 := by
  simp only [onGrid?] at h
  split at h
  · cases h
  · cases h
    exact Nat.le_succ _
  · cases h
    exact Nat.le_refl _
  · split at h
    · cases h
      exact Nat.le_succ _
    · cases h
      exact Nat.le_refl _

theorem coefficient_stripZeros_le (d : Expansion) :
    (stripZeros d).coefficient ≤ d.coefficient := by
  fun_induction stripZeros d with
  | case1 d h ih => exact ih.trans (Nat.div_le_self _ _)
  | case2 d h => exact Nat.le_refl _

/-- A shortest decimal has no more than seventeen digits. -/
theorem coefficient_shortest_le (tie : Tie) (rank : Nat) :
    (shortest tie rank).coefficient ≤ 10 ^ 17 := by
  unfold shortest
  split
  · exact Nat.zero_le _
  · refine (coefficient_stripZeros_le _).trans ?_
    cases hgrid : ((List.range mostDigits).map fun i : Nat =>
        leadingPower rank - (i : Int)).findSome? (onGrid? tie rank) with
    | none => exact Nat.zero_le _
    | some d =>
        obtain ⟨exponent, hexponent, hd⟩ := List.exists_of_findSome?_eq_some hgrid
        obtain ⟨i, hi, rfl⟩ := List.mem_map.mp hexponent
        have hplaces : i ≤ 16 := Nat.le_of_lt_succ (List.mem_range.mp hi)
        have hfloor := Nat.div_lt_of_lt_mul (leadingPower_coarse rank hplaces)
        exact (coefficient_of_onGrid hd).trans hfloor

end Decimal

namespace Json

open Decimal

/-! ## Scaling -/

theorem divRank_le {a b : Nat} (hb : unitsPerOne ≤ units b) : divRank a b ≤ a :=
  nearestRank_le (Nat.lt_of_lt_of_le unitsPerOne_pos hb) (Nat.mul_le_mul_left _ hb)

/-- The magnitude of a power of two. -/
theorem units_twoPow (n : Nat) : units ((1023 + n) * binade) = 2 ^ n * unitsPerOne := by
  -- The power is kept apart from its value, which has too many digits to be computed.
  obtain ⟨k, hk⟩ : ∃ k, 1074 = 52 + k := ⟨1022, rfl⟩
  have hone : unitsPerOne = binade * 2 ^ k := by
    delta unitsPerOne
    rw [hk]
    exact Nat.pow_add 2 52 k
  have hunits := units_parts binade_pos (1023 + n)
  have hpower : 1023 + n - 1 = n + k := by omega
  rw [if_neg (by omega), Nat.add_zero, Nat.add_zero, hpower] at hunits
  rw [hunits, hone, pow_add]
  ring

theorem powerRank_eq (n : Nat) : powerRank n = wholeRank (Nat.pow 10 n) :=
  nearestRank_one_eq (Nat.pow_pos (by decide))

/-- A power of ten is no less than one. -/
theorem unitsPerOne_le_powerRank (n : Nat) : unitsPerOne ≤ units (powerRank n) := by
  have hone : units (1023 * binade) = unitsPerOne := by simpa using units_twoPow 0
  rw [← hone]
  refine units_strictMono.monotone (le_nearestRank Nat.one_pos ?_)
  rw [hone, Nat.mul_one]
  exact Nat.le_mul_of_pos_left _ (Nat.pow_pos (by decide))

theorem scaleDown_le (rank n : Nat) : scaleDown rank n ≤ rank := by
  fun_induction scaleDown rank n with
  | case1 rank n h => exact divRank_le (unitsPerOne_le_powerRank n)
  | case2 n h => exact Nat.le_refl 0
  | case3 rank n h hrank ih => exact ih.trans (divRank_le (unitsPerOne_le_powerRank _))

/-- A product is in range if bounds of its factors have one that is. -/
theorem mulRank_lt {a b a' b' : Nat} (ha : a ≤ a') (hb : b ≤ b')
    (h : units a' * units b' ≤ units (rankCount - 1) * unitsPerOne) :
    mulRank a b < rankCount := by
  have hfactors : units a * units b ≤ units a' * units b' :=
    Nat.mul_le_mul (units_strictMono.monotone ha) (units_strictMono.monotone hb)
  have hle : mulRank a b ≤ rankCount - 1 := by
    refine nearestRank_le (Nat.mul_pos unitsPerOne_pos unitsPerOne_pos) ?_
    rw [← Nat.mul_assoc]
    exact Nat.mul_le_mul_right _ (hfactors.trans h)
  have hpos : 0 < rankCount := by decide
  omega

theorem tenPow_le_twoPow {k : Nat} (hk : k ≤ 31 * 9 + 9) : 10 ^ k ≤ 2 ^ 957 := by
  have hsmall : 10 ^ 9 ≤ 2 ^ 30 := by decide
  have hlarge : 10 ^ 31 ≤ 2 ^ 103 := by decide
  calc 10 ^ k ≤ 10 ^ (31 * 9 + 9) := pow_le_pow_right₀ (by decide) hk
    _ = (10 ^ 31) ^ 9 * 10 ^ 9 := by rw [pow_add, pow_mul]
    _ ≤ (2 ^ 103) ^ 9 * 2 ^ 30 := Nat.mul_le_mul (Nat.pow_le_pow_left hlarge 9) hsmall
    _ = 2 ^ 957 := by rw [← pow_mul, ← pow_add]

theorem twoPow_lt_tenPow {k : Nat} (hk : k = 309) : 2 ^ 1024 < 10 ^ k := by
  have hlarge : 2 ^ 93 ≤ 10 ^ 28 := by decide
  calc 2 ^ 1024 = (2 ^ 93) ^ 11 * 2 := by rw [← pow_mul, ← pow_succ]
    _ ≤ (10 ^ 28) ^ 11 * 2 := Nat.mul_le_mul_right _ (Nat.pow_le_pow_left hlarge 11)
    _ < (10 ^ 28) ^ 11 * 10 := Nat.mul_lt_mul_of_pos_left (by decide) (Nat.pow_pos (by decide))
    _ = 10 ^ k := by rw [← pow_mul, ← pow_succ, hk]

theorem nearestRank_le_twoPow {n k : Nat} (h : n ≤ 2 ^ k) :
    nearestRank n 1 ≤ (1023 + k) * binade := by
  refine nearestRank_le Nat.one_pos ?_
  rw [units_twoPow, Nat.mul_one]
  exact Nat.mul_le_mul_right _ h

theorem exists_scaleUp?_of_lt {rank n : Nat} (hn : n ≤ greatestPower)
    (h : mulRank rank (powerRank n) < rankCount) :
    ∃ r < rankCount, scaleUp? rank n = some r :=
  ⟨_, h, by simp [scaleUp?, hn, h]⟩

theorem exists_scale?_of_neg {significand : Nat} {power : Int} (hs : significand ≤ 2 ^ 64)
    (hp : power < 0) : ∃ r < rankCount, scale? significand power = some r := by
  refine ⟨scaleDown (nearestRank significand 1) power.natAbs, ?_, by simp [scale?, hp]⟩
  have hfirst := nearestRank_le_twoPow hs
  have hdown := scaleDown_le (nearestRank significand 1) power.natAbs
  have hrange : (1023 + 64) * binade < rankCount := by decide
  omega

/-- **A number of 64 bits with a small power of ten is in range.** -/
theorem exists_scale?_of_small {significand : Nat} {power : Int} (hs : significand ≤ 2 ^ 64)
    (hp : power ≤ 288) : ∃ r < rankCount, scale? significand power = some r := by
  rcases lt_or_ge power 0 with hneg | hpos
  · exact exists_scale?_of_neg hs hneg
  · have hpower : 10 ^ power.toNat ≤ 2 ^ 957 := tenPow_le_twoPow (by omega)
    have hbound : units ((1023 + 64) * binade) * units ((1023 + 957) * binade) ≤
        units (rankCount - 1) * unitsPerOne := by
      have hlast : units ((1023 + (64 + 957)) * binade) ≤ units (rankCount - 1) :=
        units_strictMono.monotone (by decide)
      rw [units_twoPow, units_twoPow, Nat.mul_mul_mul_comm, ← pow_add, ← Nat.mul_assoc,
        ← units_twoPow]
      exact Nat.mul_le_mul_right _ hlast
    have hproduct := mulRank_lt (nearestRank_le_twoPow hs) (nearestRank_le_twoPow hpower) hbound
    have hsmall : power.toNat ≤ greatestPower := by
      rw [greatestPower]
      omega
    have hnot : ¬ power < 0 := by omega
    simpa [scale?, hnot] using exists_scaleUp?_of_lt hsmall hproduct

/-! ## Shortest decimals -/

/-- The point half-way between the greatest magnitude and the one before it. -/
def lastMiddle : Nat := 2 ^ 1024 - 3 * 2 ^ 970

/-- The greatest coefficient that a shortest decimal can have with a power of ten, unless it is that
of the greatest magnitude. -/
def greatestCoefficient (e : Nat) : Nat :=
  min (10 ^ 17) (lastMiddle / 10 ^ e)

theorem greatestCoefficient_in_range : ((List.range' 289 20).all fun e =>
    greatestCoefficient e * unitsPerOne ≤ units (wholeRank (greatestCoefficient e)) &&
      units (wholeRank (greatestCoefficient e)) * units (wholeRank (Nat.pow 10 e)) ≤
        units (rankCount - 1) * unitsPerOne) = true := by
  decide +kernel

variable {rank : Nat} {d : Expansion}

theorem neg_lt_exponent (hrank : 0 < rank) (h : roundsTo rank d = true)
    (hcoefficient : d.coefficient ≤ 10 ^ 17) : -420 < d.exponent := by
  by_contra hnot
  obtain ⟨k, hk⟩ : ∃ k : Nat, k = 400 := ⟨_, rfl⟩
  have hsmall : 2 * 10 ^ 17 * unitsPerOne < 10 ^ (18 + k) := by
    rw [pow_add]
    calc 2 * 10 ^ 17 * unitsPerOne ≤ 2 * 10 ^ 17 * 10 ^ k :=
          Nat.mul_le_mul_left _ (unitsPerOne_le hk)
      _ < 10 ^ 18 * 10 ^ k :=
          Nat.mul_lt_mul_of_pos_right (by decide) (Nat.pow_pos (by decide))
  have hup : tenTo d.exponent = 1 := tenTo_of_nonpos (by omega)
  have hdown : 10 ^ (18 + k) ≤ tenTo (-d.exponent) :=
    Nat.pow_le_pow_right (by decide) (by omega)
  obtain ⟨hlow, -⟩ := bounds_of_roundsTo h
  rw [hup, Nat.mul_one] at hlow
  have hpoint : 2 * d.coefficient * unitsPerOne ≤ 2 * 10 ^ 17 * unitsPerOne :=
    Nat.mul_le_mul_right _ (Nat.mul_le_mul_left _ hcoefficient)
  have hinterval : tenTo (-d.exponent) ≤ (units (rank - 1) + units rank) * tenTo (-d.exponent) :=
    Nat.le_mul_of_pos_left _ (Nat.add_pos_right _ (units_pos hrank))
  generalize 10 ^ (18 + k) = large at *
  omega

theorem exponent_lt (hrank : 0 < rank) (hlt : rank < rankCount) (h : roundsTo rank d = true) :
    d.exponent < 309 := by
  by_contra hnot
  obtain ⟨k, hk⟩ : ∃ k : Nat, k = 309 := ⟨_, rfl⟩
  have hlarge : units rankCount < 10 ^ k * unitsPerOne := by
    have hcount : rankCount = (1023 + 1024) * binade := rfl
    rw [hcount, units_twoPow]
    exact Nat.mul_lt_mul_of_pos_right (twoPow_lt_tenPow hk) unitsPerOne_pos
  have hdown : tenTo (-d.exponent) = 1 := tenTo_of_nonpos (by omega)
  have hup : 10 ^ k ≤ tenTo d.exponent := Nat.pow_le_pow_right (by decide) (by omega)
  obtain ⟨-, hhigh⟩ := bounds_of_roundsTo h
  rw [hdown, Nat.mul_one] at hhigh
  have hfirst : units rank ≤ units rankCount := units_strictMono.monotone hlt.le
  have hsecond : units (rank + 1) ≤ units rankCount := units_strictMono.monotone hlt
  have hpoint : 10 ^ k ≤ d.coefficient * tenTo d.exponent :=
    hup.trans (Nat.le_mul_of_pos_left _ (Nat.pos_of_ne_zero (coefficient_ne_zero hrank h)))
  have hunits := Nat.mul_le_mul_right unitsPerOne hpoint
  have hdouble : 2 * d.coefficient * tenTo d.exponent * unitsPerOne =
      2 * (d.coefficient * tenTo d.exponent * unitsPerOne) := by ring
  generalize 10 ^ k = large at *
  omega

theorem coefficient_le_greatest (hlt : rank + 1 < rankCount) (h : roundsTo rank d = true)
    (hcoefficient : d.coefficient ≤ 10 ^ 17) (hexponent : 0 ≤ d.exponent) :
    d.coefficient ≤ greatestCoefficient d.exponent.toNat := by
  have hmiddle : units (rankCount - 2) + units (rankCount - 1) =
      2 * (lastMiddle * unitsPerOne) := by decide +kernel
  have hdown : tenTo (-d.exponent) = 1 := tenTo_of_nonpos (by omega)
  obtain ⟨-, hhigh⟩ := bounds_of_roundsTo h
  rw [hdown, Nat.mul_one] at hhigh
  have hfirst : units rank ≤ units (rankCount - 2) := units_strictMono.monotone (by omega)
  have hsecond : units (rank + 1) ≤ units (rankCount - 1) :=
    units_strictMono.monotone (by omega)
  have hdouble : 2 * d.coefficient * tenTo d.exponent * unitsPerOne =
      2 * (d.coefficient * tenTo d.exponent * unitsPerOne) := by ring
  have hbelow : d.coefficient * tenTo d.exponent * unitsPerOne ≤ lastMiddle * unitsPerOne := by
    generalize lastMiddle * unitsPerOne = middle at *
    omega
  exact Nat.le_min.mpr ⟨hcoefficient, (Nat.le_div_iff_mul_le (tenTo_pos d.exponent)).mpr
    (Nat.le_of_mul_le_mul_right hbelow unitsPerOne_pos)⟩

/-- The shortest decimal of the greatest magnitude is the nearest one, which is less than the point
half-way to the next, and is in range. -/
theorem shortest_last : shortest .even (rankCount - 1) = ⟨17976931348623157, 292⟩ ∧
    mulRank (nearestRank 17976931348623157 1) (powerRank 292) < rankCount := by
  decide +kernel

/-- **The shortest decimal of a magnitude is in range.** -/
theorem exists_scale?_shortest (hrank : 0 < rank) (hlt : rank < rankCount) :
    ∃ r < rankCount,
      scale? (shortest .even rank).coefficient (shortest .even rank).exponent = some r := by
  have hcoefficient := coefficient_shortest_le .even rank
  obtain ⟨hrounds, -⟩ := shortest_spec .even hrank
  have hless := exponent_lt hrank hlt hrounds
  rcases le_or_gt (shortest .even rank).exponent 288 with hsmall | hlarge
  · exact exists_scale?_of_small (hcoefficient.trans (by decide)) hsmall
  have hnonneg : ¬ (shortest .even rank).exponent < 0 := by omega
  have hsmall : (shortest .even rank).exponent.toNat ≤ greatestPower := by
    rw [greatestPower]
    omega
  simp only [scale?, hnonneg, if_false]
  refine exists_scaleUp?_of_lt hsmall ?_
  rcases (by omega : rank = rankCount - 1 ∨ rank + 1 < rankCount) with rfl | hbefore
  · rw [shortest_last.1]
    exact shortest_last.2
  · obtain ⟨e, he⟩ : ∃ e, e = (shortest .even rank).exponent.toNat := ⟨_, rfl⟩
    have hle := coefficient_le_greatest hbefore hrounds hcoefficient (by omega)
    have hpos := Nat.pos_of_ne_zero (coefficient_ne_zero hrank hrounds)
    rw [← he] at hle ⊢
    have hrange := List.all_eq_true.mp greatestCoefficient_in_range e
      (List.mem_range'_1.mpr (by omega))
    simp only [Bool.and_eq_true, decide_eq_true_eq] at hrange
    rw [← nearestRank_one_eq (Nat.lt_of_lt_of_le hpos hle), ← powerRank_eq] at hrange
    refine mulRank_lt (nearestRank_le Nat.one_pos ?_) (Nat.le_refl _) hrange.2
    rw [Nat.mul_one]
    exact (Nat.mul_le_mul_right _ hle).trans hrange.1

end Json
end SeriesCatalog
