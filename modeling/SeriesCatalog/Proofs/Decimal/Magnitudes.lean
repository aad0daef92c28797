import Mathlib.Tactic.Linarith
import Mathlib.Tactic.Ring
import SeriesCatalog.Decimal.Shortest

/-!
# Magnitudes and the decimals that round to them

Magnitudes ascend with their ranks by steps that are powers of two.  So the rounding intervals of
different ranks have no decimal in common, and since a step is never small against the magnitude,
seventeen digits are enough to hit the interval of any rank.

Results:
* `units_succ`: the step from a rank to the next.
* `rank_unique`: a decimal rounds to one rank at most.
* `shortest_spec`: the shortest decimal of a rank rounds to it, and ends with no zero.
-/

namespace SeriesCatalog
namespace Decimal

/-! ## Steps -/

theorem binade_pos : 0 < binade := by decide

theorem unitsPerOne_pos : 0 < unitsPerOne := by decide +kernel

theorem units_parts {m : Nat} (hm : m < binade) (q : Nat) :
    units (q * binade + m) = if q = 0 then m else (binade + m) * 2 ^ (q - 1) := by
  have hdiv : (q * binade + m) / binade = q := by
    rw [Nat.add_comm, Nat.add_mul_div_right _ _ binade_pos, Nat.div_eq_of_lt hm, Nat.zero_add]
  have hmod : (q * binade + m) % binade = m := by
    rw [Nat.add_comm, Nat.add_mul_mod_self_right, Nat.mod_eq_of_lt hm]
  have hfirst : q * binade + m < binade ↔ q = 0 := by
    rw [← Nat.div_eq_zero_iff_lt binade_pos, hdiv]
  simp only [units, hfirst, hdiv, hmod]
  split
  · rename_i hq
    simp [hq]
  · rfl

/-- The step from a rank to the next is a power of two. -/
theorem units_succ (rank : Nat) : units (rank + 1) = units rank + 2 ^ (rank / binade - 1) := by
  obtain ⟨q, m, hm, rfl⟩ : ∃ q m, m < binade ∧ rank = q * binade + m :=
    ⟨rank / binade, rank % binade, Nat.mod_lt _ binade_pos, (Nat.div_add_mod' _ _).symm⟩
  have hdiv : (q * binade + m) / binade = q := by
    rw [Nat.add_comm, Nat.add_mul_div_right _ _ binade_pos, Nat.div_eq_of_lt hm, Nat.zero_add]
  rw [hdiv, units_parts hm]
  rcases Nat.lt_or_ge (m + 1) binade with hnext | hnext
  · rw [Nat.add_assoc, units_parts hnext]
    split
    · rename_i hq
      simp [hq]
    · ring
  · -- The rank is the last one before a power of two.
    have hlast : q * binade + m + 1 = (q + 1) * binade + 0 := by
      rw [Nat.add_mul]
      omega
    rw [hlast, units_parts binade_pos]
    cases q with
    | zero =>
        simp only [Nat.zero_add, if_true]
        norm_num
        omega
    | succ q =>
        have hbinade : binade = m + 1 := by omega
        simp only [Nat.add_sub_cancel, Nat.add_eq_zero_iff, one_ne_zero, and_false, if_false,
          hbinade, pow_succ]
        ring

theorem units_lt_succ (rank : Nat) : units rank < units (rank + 1) := by
  rw [units_succ]
  exact Nat.lt_add_of_pos_right (Nat.two_pow_pos _)

theorem units_strictMono : StrictMono units :=
  strictMono_nat_of_lt_succ units_lt_succ

theorem units_pos {rank : Nat} (h : 0 < rank) : 0 < units rank :=
  Nat.lt_of_le_of_lt (Nat.zero_le _) (units_strictMono h)

/-- At a power of two the lower step is only half of the upper one, but there the digits are at
their lowest. -/
theorem two_mul_units_lt_of_power {q : Nat} (h : 0 < q * binade) :
    2 * units (q * binade) < 10 ^ 16 * (units (q * binade + 1) - units (q * binade - 1)) := by
  have hbinade : 2 * binade < 10 ^ 16 := by decide
  have hstep : 0 < 2 ^ (q - 1) := Nat.two_pow_pos _
  have hq : q ≠ 0 := by
    rintro rfl
    omega
  have hunits := units_parts binade_pos q
  rw [if_neg hq, Nat.add_zero, Nat.add_zero] at hunits
  have hup := units_succ (q * binade)
  rw [Nat.mul_div_cancel _ binade_pos] at hup
  have hdown := units_strictMono (Nat.sub_lt h Nat.one_pos)
  calc 2 * units (q * binade) = 2 * binade * 2 ^ (q - 1) := by
        rw [hunits, Nat.mul_assoc]
    _ < 10 ^ 16 * 2 ^ (q - 1) := Nat.mul_lt_mul_of_pos_right hbinade hstep
    _ ≤ _ := Nat.mul_le_mul_left _ (by omega)

/-- Above a power of two both steps are the same. -/
theorem two_mul_units_lt_of_inside {q m : Nat} (hm : m + 1 < binade) :
    2 * units (q * binade + (m + 1)) <
      10 ^ 16 * (units (q * binade + (m + 1) + 1) - units (q * binade + m)) := by
  have hbinade : 2 * binade < 10 ^ 16 := by decide
  have hstep : 0 < 2 ^ (q - 1) := Nat.two_pow_pos _
  have hdiv : ∀ {n}, n < binade → (q * binade + n) / binade = q := by
    intro n hn
    rw [Nat.add_comm, Nat.add_mul_div_right _ _ binade_pos, Nat.div_eq_of_lt hn, Nat.zero_add]
  have hup := units_succ (q * binade + (m + 1))
  rw [hdiv hm] at hup
  have hdown := units_succ (q * binade + m)
  rw [hdiv (by omega), Nat.add_assoc] at hdown
  have hunits : units (q * binade + (m + 1)) ≤ 2 * binade * 2 ^ (q - 1) := by
    rw [units_parts hm]
    split
    · rename_i hq
      subst hq
      simp only [Nat.zero_sub, pow_zero]
      omega
    · exact Nat.mul_le_mul_right _ (by omega)
  calc 2 * units (q * binade + (m + 1)) ≤ 2 * (2 * binade * 2 ^ (q - 1)) :=
        Nat.mul_le_mul_left _ hunits
    _ = 2 * binade * (2 * 2 ^ (q - 1)) := by ring
    _ < 10 ^ 16 * (2 * 2 ^ (q - 1)) := Nat.mul_lt_mul_of_pos_right hbinade (by omega)
    _ ≤ _ := Nat.mul_le_mul_left _ (by omega)

/-- Twice a magnitude is less than 10 ^ 16 times the distance of its two neighbours. -/
theorem two_mul_units_lt {rank : Nat} (h : 0 < rank) :
    2 * units rank < 10 ^ 16 * (units (rank + 1) - units (rank - 1)) := by
  obtain ⟨q, m, hm, rfl⟩ : ∃ q m, m < binade ∧ rank = q * binade + m :=
    ⟨rank / binade, rank % binade, Nat.mod_lt _ binade_pos, (Nat.div_add_mod' _ _).symm⟩
  cases m with
  | zero =>
      rw [Nat.add_zero] at h ⊢
      exact two_mul_units_lt_of_power h
  | succ m =>
      have hprevious : q * binade + (m + 1) - 1 = q * binade + m := by omega
      rw [hprevious]
      exact two_mul_units_lt_of_inside hm

/-! ## Rounding intervals -/

theorem tenTo_pos (e : Int) : 0 < tenTo e :=
  Nat.pow_pos (by decide)

section Intervals

variable {rank rank' : Nat} {d : Expansion}

theorem roundsTo_iff : roundsTo rank d = true ↔
    if rank % 2 = 0 then
      (units (rank - 1) + units rank) * tenTo (-d.exponent) ≤
          2 * d.coefficient * tenTo d.exponent * unitsPerOne ∧
        2 * d.coefficient * tenTo d.exponent * unitsPerOne ≤
          (units rank + units (rank + 1)) * tenTo (-d.exponent)
    else
      (units (rank - 1) + units rank) * tenTo (-d.exponent) <
          2 * d.coefficient * tenTo d.exponent * unitsPerOne ∧
        2 * d.coefficient * tenTo d.exponent * unitsPerOne <
          (units rank + units (rank + 1)) * tenTo (-d.exponent) := by
  unfold roundsTo
  split <;> simp

theorem bounds_of_roundsTo (h : roundsTo rank d = true) :
    (units (rank - 1) + units rank) * tenTo (-d.exponent) ≤
        2 * d.coefficient * tenTo d.exponent * unitsPerOne ∧
      2 * d.coefficient * tenTo d.exponent * unitsPerOne ≤
        (units rank + units (rank + 1)) * tenTo (-d.exponent) := by
  have hbounds := roundsTo_iff.mp h
  split at hbounds
  · exact hbounds
  · exact ⟨hbounds.1.le, hbounds.2.le⟩

theorem not_lt_of_roundsTo (h : roundsTo rank d = true) (h' : roundsTo rank' d = true) :
    ¬ rank < rank' := by
  intro hlt
  have hdown := tenTo_pos (-d.exponent)
  obtain ⟨-, hhigh⟩ := bounds_of_roundsTo h
  obtain ⟨hlow, -⟩ := bounds_of_roundsTo h'
  have hfirst : units rank ≤ units (rank' - 1) := units_strictMono.monotone (by omega)
  have hsecond : units (rank + 1) ≤ units rank' := units_strictMono.monotone (by omega)
  rcases (by omega : rank + 1 = rank' ∨ rank + 1 < rank') with rfl | hapart
  · -- The intervals meet in one point, which belongs to the even rank.
    have hbounds := roundsTo_iff.mp h
    have hbounds' := roundsTo_iff.mp h'
    rw [Nat.add_sub_cancel] at hbounds'
    split at hbounds <;> split at hbounds' <;> omega
  · have hbetween : units (rank + 1) < units rank' := units_strictMono hapart
    have hless : (units rank + units (rank + 1)) * tenTo (-d.exponent) <
        (units (rank' - 1) + units rank') * tenTo (-d.exponent) :=
      Nat.mul_lt_mul_of_pos_right (by omega) hdown
    omega

/-- **A decimal rounds to one rank at most.** -/
theorem rank_unique (h : roundsTo rank d = true) (h' : roundsTo rank' d = true) : rank = rank' := by
  have hle := Nat.not_lt.mp (not_lt_of_roundsTo h h')
  have hge := Nat.not_lt.mp (not_lt_of_roundsTo h' h)
  exact Nat.le_antisymm hge hle

theorem coefficient_ne_zero (hrank : 0 < rank) (h : roundsTo rank d = true) :
    d.coefficient ≠ 0 := by
  intro hzero
  obtain ⟨hlow, -⟩ := bounds_of_roundsTo h
  have hpos : 0 < (units (rank - 1) + units rank) * tenTo (-d.exponent) :=
    Nat.mul_pos (Nat.add_pos_right _ (units_pos hrank)) (tenTo_pos _)
  rw [hzero] at hlow
  omega

/-! ## Grids -/

theorem roundsTo_of_onGrid {tie : Tie} {exponent : Int} (h : onGrid? tie rank exponent = some d) :
    roundsTo rank d = true := by
  simp only [onGrid?] at h
  split at h
  · cases h
  · rename_i hbelow _
    exact Option.some.inj h ▸ hbelow
  · rename_i habove
    exact Option.some.inj h ▸ habove
  · rename_i hbelow habove
    split at h
    · exact Option.some.inj h ▸ hbelow
    · exact Option.some.inj h ▸ habove

/-- A point of a grid rounds to a rank if it lies inside the interval. -/
theorem roundsTo_of_inside {n : Nat} {exponent : Int}
    (hlow : (units (rank - 1) + units rank) * tenTo (-exponent) <
      2 * (n * (unitsPerOne * tenTo exponent)))
    (hhigh : 2 * (n * (unitsPerOne * tenTo exponent)) <
      (units rank + units (rank + 1)) * tenTo (-exponent)) :
    roundsTo rank ⟨n, exponent⟩ = true := by
  have hpoint : 2 * n * tenTo exponent * unitsPerOne =
      2 * (n * (unitsPerOne * tenTo exponent)) := by ring
  rw [roundsTo_iff]
  simp only [hpoint]
  split
  · exact ⟨hlow.le, hhigh.le⟩
  · exact ⟨hlow, hhigh⟩

/-- On a grid that is fine against the magnitude one of its neighbours rounds to the rank: if
neither did, the distance between them would exceed that of the ends of the interval. -/
theorem roundsTo_neighbour (hrank : 0 < rank) {exponent : Int} {floor : Nat}
    (hfine : unitsPerOne * tenTo exponent * 10 ^ 16 ≤ units rank * tenTo (-exponent))
    (hle : floor * (unitsPerOne * tenTo exponent) ≤ units rank * tenTo (-exponent))
    (hlt : units rank * tenTo (-exponent) < (floor + 1) * (unitsPerOne * tenTo exponent)) :
    roundsTo rank ⟨floor, exponent⟩ = true ∨ roundsTo rank ⟨floor + 1, exponent⟩ = true := by
  by_contra hneither
  obtain ⟨hbelow, habove⟩ := not_or.mp hneither
  have hdown := tenTo_pos (-exponent)
  have hprevious : units (rank - 1) * tenTo (-exponent) < units rank * tenTo (-exponent) :=
    Nat.mul_lt_mul_of_pos_right (units_strictMono (Nat.sub_lt hrank Nat.one_pos)) hdown
  have hnext : units rank * tenTo (-exponent) < units (rank + 1) * tenTo (-exponent) :=
    Nat.mul_lt_mul_of_pos_right (units_lt_succ rank) hdown
  have hfirst : 2 * (floor * (unitsPerOne * tenTo exponent)) ≤
      (units (rank - 1) + units rank) * tenTo (-exponent) := by
    by_contra hnot
    exact hbelow (roundsTo_of_inside (Nat.not_le.mp hnot) (by rw [Nat.add_mul]; omega))
  have hsecond : (units rank + units (rank + 1)) * tenTo (-exponent) ≤
      2 * ((floor + 1) * (unitsPerOne * tenTo exponent)) := by
    by_contra hnot
    exact habove (roundsTo_of_inside (by rw [Nat.add_mul]; omega) (Nat.not_le.mp hnot))
  have hwide : (units (rank + 1) - units (rank - 1)) * tenTo (-exponent) ≤
      2 * (unitsPerOne * tenTo exponent) := by
    rw [Nat.sub_mul, Nat.sub_le_iff_le_add]
    linarith
  have hnarrow : 2 * units rank * tenTo (-exponent) <
      10 ^ 16 * (units (rank + 1) - units (rank - 1)) * tenTo (-exponent) :=
    Nat.mul_lt_mul_of_pos_right (two_mul_units_lt hrank) hdown
  linarith

/-- A grid that is fine against the magnitude has a decimal that rounds to the rank. -/
theorem exists_onGrid (tie : Tie) (hrank : 0 < rank) {exponent : Int}
    (hfine : unitsPerOne * tenTo exponent * 10 ^ 16 ≤ units rank * tenTo (-exponent)) :
    ∃ d, onGrid? tie rank exponent = some d := by
  have hgrid := Nat.mul_pos unitsPerOne_pos (tenTo_pos exponent)
  have hneighbour := roundsTo_neighbour hrank hfine (Nat.div_mul_le_self _ _)
    ((Nat.div_lt_iff_lt_mul hgrid).mp (Nat.lt_succ_self _))
  simp only [onGrid?]
  split
  · rename_i hbelow habove
    rw [hbelow, habove] at hneighbour
    simp at hneighbour
  · exact ⟨_, rfl⟩
  · exact ⟨_, rfl⟩
  · split <;> exact ⟨_, rfl⟩

/-- The digits of a number are as many as its powers of ten. -/
theorem pow_length_digitsOf_le {n : Nat} (hn : 0 < n) : 10 ^ ((digitsOf n).length - 1) ≤ n := by
  by_contra hnot
  have hpos : 0 < (digitsOf n).length - 1 := by
    by_contra hzero
    simp only [Nat.not_lt.mp hzero |> Nat.le_zero.mp, pow_zero] at hnot
    omega
  have hshort := (Nat.length_toDigits_le_iff (by decide) hpos).mpr (Nat.not_le.mp hnot)
  have hlength : (Nat.toDigits 10 n).length = (digitsOf n).length := rfl
  omega

/-- A grid is fine against a fraction `m / u` if it has sixteen places behind the leading digit,
where `n` is the number of digits of the fraction with `10 ^ k` above. -/
theorem fine_of_digits {k n u m : Nat} (hn : 0 < n) (h : 10 ^ (n - 1) * u ≤ 10 ^ k * m) :
    u * tenTo ((n : Int) - (k + 1) - 16) * 10 ^ 16 ≤ m * tenTo (-((n : Int) - (k + 1) - 16)) := by
  simp only [tenTo, Nat.pow_eq]
  rcases Nat.lt_or_ge n (k + 17) with hshort | hlong
  · have hup : ((n : Int) - (k + 1) - 16).toNat = 0 := by omega
    have hdown : (-((n : Int) - (k + 1) - 16)).toNat = k + 17 - n := by omega
    have hpowers : 10 ^ (n - 1) * 10 ^ (k + 17 - n) = 10 ^ k * 10 ^ 16 := by
      rw [← pow_add, ← pow_add]
      congr 1
      omega
    rw [hup, hdown]
    refine Nat.le_of_mul_le_mul_left ?_ (Nat.pow_pos (n := n - 1) (show 0 < 10 by decide))
    calc 10 ^ (n - 1) * (u * 10 ^ 0 * 10 ^ 16)
        = 10 ^ (n - 1) * u * 10 ^ 16 := by ring
      _ ≤ 10 ^ k * m * 10 ^ 16 := Nat.mul_le_mul_right _ h
      _ = m * (10 ^ k * 10 ^ 16) := by ring
      _ = 10 ^ (n - 1) * (m * 10 ^ (k + 17 - n)) := by rw [← hpowers]; ring
  · have hup : ((n : Int) - (k + 1) - 16).toNat = n - (k + 17) := by omega
    have hdown : (-((n : Int) - (k + 1) - 16)).toNat = 0 := by omega
    have hpowers : 10 ^ (n - 1) = 10 ^ k * (10 ^ (n - (k + 17)) * 10 ^ 16) := by
      rw [← pow_add, ← pow_add]
      congr 1
      omega
    rw [hup, hdown]
    refine Nat.le_of_mul_le_mul_left ?_ (Nat.pow_pos (n := k) (show 0 < 10 by decide))
    calc 10 ^ k * (u * 10 ^ (n - (k + 17)) * 10 ^ 16)
        = 10 ^ (n - 1) * u := by rw [hpowers]; ring
      _ ≤ 10 ^ k * m := h
      _ = 10 ^ k * (m * 10 ^ 0) := by ring

/-- The power of ten with which the leading digit is found.  It is kept apart from its value, which
has too many digits to be computed. -/
theorem leadingPower_eq (rank : Nat) {k : Nat} (hk : k = 400) : leadingPower rank =
    ((digitsOf (Nat.pow 10 k * units rank / unitsPerOne)).length : Int) - (k + 1) := by
  rw [leadingPower, ← hk]
  omega

/-- The whole part of a fraction with so large a power of ten above has a leading digit. -/
theorem unitsPerOne_le {k : Nat} (hk : k = 400) : unitsPerOne ≤ Nat.pow 10 k := by
  subst hk
  decide +kernel

/-- The grid with sixteen places behind the leading digit is fine against the magnitude. -/
theorem leadingPower_fine (hrank : 0 < rank) :
    unitsPerOne * tenTo (leadingPower rank - 16) * 10 ^ 16 ≤
      units rank * tenTo (-(leadingPower rank - 16)) := by
  obtain ⟨k, hk⟩ : ∃ k : Nat, k = 400 := ⟨_, rfl⟩
  have hlarge : unitsPerOne ≤ Nat.pow 10 k * units rank :=
    (unitsPerOne_le hk).trans (Nat.le_mul_of_pos_right _ (units_pos hrank))
  have hdigits := pow_length_digitsOf_le (Nat.div_pos hlarge unitsPerOne_pos)
  rw [leadingPower_eq rank hk]
  exact fine_of_digits Nat.length_toDigits_pos ((Nat.le_div_iff_mul_le unitsPerOne_pos).mp hdigits)

/-! ## The shortest decimal -/

theorem tenTo_succ_of_nonneg {e : Int} (h : 0 ≤ e) : tenTo (e + 1) = 10 * tenTo e := by
  have hnext : (e + 1).toNat = e.toNat + 1 := by omega
  simp only [tenTo, hnext, Nat.pow_eq, pow_succ]
  ring

theorem tenTo_of_nonpos {e : Int} (h : e ≤ 0) : tenTo e = 1 := by
  have hzero : e.toNat = 0 := by omega
  simp [tenTo, hzero]

/-- A zero at the end of the digits may be moved into the exponent. -/
theorem roundsTo_strip (n : Nat) (e : Int) :
    roundsTo rank ⟨n, e + 1⟩ = roundsTo rank ⟨10 * n, e⟩ := by
  rw [Bool.eq_iff_iff, roundsTo_iff, roundsTo_iff]
  simp only
  rcases (by omega : 0 ≤ e ∨ e + 1 ≤ 0) with he | he
  · rw [tenTo_succ_of_nonneg he, tenTo_of_nonpos (by omega : -(e + 1) ≤ 0),
      tenTo_of_nonpos (by omega : -e ≤ 0)]
    have hpoint : 2 * n * (10 * tenTo e) * unitsPerOne =
        2 * (10 * n) * tenTo e * unitsPerOne := by ring
    rw [hpoint]
  · have hdown : tenTo (-e) = 10 * tenTo (-(e + 1)) := by
      rw [← tenTo_succ_of_nonneg (by omega)]
      congr 1
      omega
    rw [tenTo_of_nonpos he, tenTo_of_nonpos (by omega : e ≤ 0), hdown]
    have hpoint : 2 * (10 * n) * 1 * unitsPerOne = 10 * (2 * n * 1 * unitsPerOne) := by ring
    have hend (m : Nat) : m * (10 * tenTo (-(e + 1))) = 10 * (m * tenTo (-(e + 1))) := by ring
    simp only [hpoint, hend, Nat.mul_le_mul_left_iff (show 0 < 10 by decide),
      Nat.mul_lt_mul_left (show 0 < 10 by decide)]

theorem roundsTo_stripZeros (d : Expansion) : roundsTo rank (stripZeros d) = roundsTo rank d := by
  fun_induction stripZeros d with
  | case1 d h ih =>
      have hdigits : 10 * (d.coefficient / 10) = d.coefficient := by omega
      rw [ih, roundsTo_strip, hdigits]
  | case2 d h => rfl

theorem stripZeros_stripped (d : Expansion) (h : d.coefficient ≠ 0) :
    (stripZeros d).coefficient % 10 ≠ 0 := by
  fun_induction stripZeros d with
  | case1 d hzero ih => exact ih (by simp only; omega)
  | case2 d hzero => exact fun hmod => hzero ⟨h, hmod⟩

/-- **The shortest decimal of a rank rounds to it**, and no zero stands at the end of it. -/
theorem shortest_spec (tie : Tie) (hrank : 0 < rank) :
    roundsTo rank (shortest tie rank) = true ∧ (shortest tie rank).coefficient % 10 ≠ 0 := by
  obtain ⟨last, hlast⟩ := exists_onGrid tie hrank (leadingPower_fine hrank)
  obtain ⟨d, hd⟩ : ∃ d, ((List.range mostDigits).map fun i : Nat =>
      leadingPower rank - (i : Int)).findSome? (onGrid? tie rank) = some d := by
    refine Option.isSome_iff_exists.mp (List.findSome?_isSome_iff.mpr ?_)
    exact ⟨leadingPower rank - 16, List.mem_map.mpr ⟨16, by decide, rfl⟩, by simp [hlast]⟩
  obtain ⟨exponent, -, hgrid⟩ := List.exists_of_findSome?_eq_some hd
  have hrounds := roundsTo_of_onGrid hgrid
  have hshortest : shortest tie rank = stripZeros d := by
    simp only [shortest, Nat.pos_iff_ne_zero.mp hrank, if_false, hd, Option.getD_some]
  rw [hshortest]
  exact ⟨(roundsTo_stripZeros d).trans hrounds,
    stripZeros_stripped d (coefficient_ne_zero hrank hrounds)⟩

end Intervals

end Decimal
end SeriesCatalog
