import Campus.Number.Rounding
import Mathlib.Tactic.Ring
/-!
# Exact ratios

Rounding looks at the value of a ratio only, not at its parts, and a ratio with the value of a
finite number is rounded to that number. So whatever parts the value of a number is brought in, as
an integer or as digits over a power of ten, the number comes out.
-/

namespace Campus

/-- Rounding a quotient depends on its value only. -/
theorem roundHalfEven_scale (num den : Nat) {factor : Nat} (positive : 0 < factor) :
    roundHalfEven (num * factor) (den * factor) = roundHalfEven num den := by
  have quotient : num * factor / (den * factor) = num / den :=
    Nat.mul_div_mul_right num den positive
  have remainder : num * factor % (den * factor) = num % den * factor :=
    Nat.mul_mod_mul_right factor num den
  have doubled : 2 * (num % den * factor) = 2 * (num % den) * factor := by ring
  unfold roundHalfEven
  simp only [quotient, remainder, doubled, Nat.mul_lt_mul_right positive]

/-- Equal ratios are rounded alike. -/
theorem roundHalfEven_eq_of_ratio {num den otherNum otherDen : Nat} (positive : 0 < den)
    (otherPositive : 0 < otherDen) (same : num * otherDen = otherNum * den) :
    roundHalfEven num den = roundHalfEven otherNum otherDen := by
  rw [← roundHalfEven_scale num den otherPositive, same,
    ← roundHalfEven_scale otherNum otherDen positive, Nat.mul_comm den]

namespace Binary64

/-- Equal ratios have one nearest magnitude. -/
theorem nearestMagnitude_eq_of_ratio {num den otherNum otherDen : Nat} (positive : 0 < den)
    (otherPositive : 0 < otherDen) (same : num * otherDen = otherNum * den) :
    nearestMagnitude num den = nearestMagnitude otherNum otherDen := by
  have scaled : num * grainsPerOne * otherDen = otherNum * grainsPerOne * den := by
    calc num * grainsPerOne * otherDen = num * otherDen * grainsPerOne := by ring
      _ = otherNum * den * grainsPerOne := by rw [same]
      _ = otherNum * grainsPerOne * den := by ring
  have whole : num * grainsPerOne / den = otherNum * grainsPerOne / otherDen := by
    rw [← Nat.mul_div_mul_right _ den otherPositive, scaled, Nat.mul_comm den,
      Nat.mul_div_mul_right _ otherDen positive]
  have power (unit : Nat) : 0 < Nat.pow 2 unit := Nat.pow_pos (by decide)
  unfold nearestMagnitude
  generalize grainsPerOne = grain at scaled whole ⊢
  dsimp only
  rw [whole]
  congr 2
  apply roundHalfEven_eq_of_ratio (Nat.mul_pos positive (power _))
    (Nat.mul_pos otherPositive (power _))
  rw [← Nat.mul_assoc, ← Nat.mul_assoc, scaled]

/-- An absolute value is ordered by the magnitude. -/
theorem key_abs (x : Binary64) : x.abs.key = x.magnitude := by
  rw [abs, key, isNegative_ofMagnitude _ x.magnitude_lt, magnitude_ofMagnitude _ x.magnitude_lt]
  rfl

/-- Exponent field and fraction make up the magnitude. -/
theorem magnitude_eq (x : Binary64) :
    x.magnitude = x.exponentField * 0x10000000000000 + x.fraction := by
  unfold exponentField fraction
  omega

/-- The fraction has fifty-two bits. -/
theorem fraction_lt (x : Binary64) : x.fraction < 0x10000000000000 := Nat.mod_lt _ (by decide)

/-- The unit of a finite number's grains and the significand in that unit make up its magnitude. -/
theorem unitExponentOf_grains (x : Binary64) :
    unitExponentOf x.grains = x.unitExponent ∧
      x.unitExponent * 0x10000000000000 + x.significand = x.magnitude := by
  have fits := x.fraction_lt
  rw [magnitude_eq]
  unfold unitExponentOf grains significand unitExponent
  by_cases subnormal : x.exponentField = 0
  · rw [if_pos subnormal, subnormal]
    have bound : x.fraction.log2 ≤ 52 := by
      by_cases zero : x.fraction = 0
      · rw [zero]
        decide
      · exact Nat.le_of_lt ((Nat.log2_lt zero).2 fits)
    simp only [Nat.zero_sub, Nat.pow_eq, Nat.pow_zero, Nat.mul_one, and_true]
    omega
  · rw [if_neg subnormal]
    have positive : (0x10000000000000 + x.fraction) * 2 ^ (x.exponentField - 1) ≠ 0 := by
      have power := Nat.two_pow_pos (x.exponentField - 1)
      exact Nat.mul_ne_zero (by omega) (by omega)
    have log : ((0x10000000000000 + x.fraction) * 2 ^ (x.exponentField - 1)).log2 =
        52 + (x.exponentField - 1) := by
      rw [Nat.log2_eq_iff positive]
      have power := Nat.two_pow_pos (x.exponentField - 1)
      constructor
      · rw [Nat.pow_add]
        exact Nat.mul_le_mul_right _ (by omega)
      · rw [show 52 + (x.exponentField - 1) + 1 = 53 + (x.exponentField - 1) by omega, Nat.pow_add]
        exact Nat.mul_lt_mul_of_pos_right (by omega) power
    simp only [Nat.pow_eq, log]
    omega

/-- A ratio with the value of a finite number has its magnitude. -/
theorem nearestMagnitude_of_grains {x : Binary64} (finite : x.isFinite = true) {num den : Nat}
    (positive : 0 < den) (value : num * grainsPerOne = x.grains * den) :
    nearestMagnitude num den = x.magnitude := by
  obtain ⟨unit, parts⟩ := unitExponentOf_grains x
  have whole : x.grains * den / den = x.grains := Nat.mul_div_cancel _ positive
  have power : 0 < Nat.pow 2 x.unitExponent := Nat.pow_pos (by decide)
  have kept : roundHalfEven (x.grains * den) (den * Nat.pow 2 x.unitExponent) = x.significand := by
    have arranged : x.grains * den = x.significand * (den * Nat.pow 2 x.unitExponent) := by
      unfold grains
      ring
    rw [arranged]
    exact roundHalfEven_mul (Nat.mul_pos positive power) _
  have below : x.magnitude < infinityMagnitude := by simpa [isFinite] using finite
  unfold nearestMagnitude
  dsimp only
  rw [value, whole, unit, kept, parts]
  exact Nat.min_eq_right (Nat.le_of_lt below)

/-- A ratio with the value of a finite number is rounded to that number. -/
theorem ofRatio_of_grains {x : Binary64} (finite : x.isFinite = true) {num den : Nat}
    (positive : 0 < den) (value : num * grainsPerOne = x.grains * den) :
    ofRatio x.isNegative num den = x := by
  rw [ofRatio, nearestMagnitude_of_grains finite positive value]
  exact ofMagnitude_isNegative_magnitude x

/-- Only the zeros have no grains. -/
theorem grains_eq_zero_iff {x : Binary64} : x.grains = 0 ↔ x.isZero = true := by
  have power : Nat.pow 2 x.unitExponent ≠ 0 := Nat.ne_of_gt (Nat.pow_pos (by decide))
  have noGrains : x.grains = 0 ↔ x.significand = 0 := by
    unfold grains
    rw [Nat.mul_eq_zero, or_iff_left power]
  rw [noGrains, isZero, beq_iff_eq, magnitude_eq]
  unfold significand
  split <;> omega

/-- The integer part counts how often the grains make one. -/
theorem truncate_natAbs (x : Binary64) : x.truncate.natAbs = x.grains / grainsPerOne := by
  unfold truncate
  dsimp only
  generalize x.grains / grainsPerOne = n
  split <;> simp

/-- A number without a fractional part is the nearest one to its integer part; only the sign of a
zero is lost. -/
theorem ofInt_truncate {x : Binary64} (integral : x.isIntegral = true) :
    ofInt x.truncate = if x.isZero then 0 else x := by
  obtain ⟨finite, whole⟩ : x.isFinite = true ∧ x.grains % grainsPerOne = 0 := by
    simpa [isIntegral] using integral
  have value : x.grains / grainsPerOne * grainsPerOne = x.grains * 1 := by
    rw [Nat.mul_one]
    exact Nat.div_mul_cancel (Nat.dvd_of_mod_eq_zero whole)
  have size := truncate_natAbs x
  by_cases zero : x.isZero = true
  · have none : x.grains / grainsPerOne = 0 := by rw [grains_eq_zero_iff.2 zero, Nat.zero_div]
    have sign : x.truncate = 0 := Int.natAbs_eq_zero.1 (by rw [size, none])
    have magnitude : nearestMagnitude 0 1 = 0 := by
      rw [none] at value
      rw [nearestMagnitude_of_grains finite Nat.one_pos value]
      simpa [isZero] using zero
    rw [if_pos zero, sign]
    unfold ofInt ofRatio
    rw [Int.natAbs_zero, magnitude]
    decide
  · have several : x.grains / grainsPerOne ≠ 0 := by
      intro none
      rw [none, Nat.zero_mul, Nat.mul_one] at value
      exact zero (grains_eq_zero_iff.1 value.symm)
    have sign : decide (x.truncate < 0) = x.isNegative := by
      unfold truncate
      dsimp only
      generalize x.grains / grainsPerOne = n at several
      cases x.isNegative with
      | false => simp
      | true =>
        simp only [↓reduceIte, decide_eq_true_eq]
        omega
    rw [if_neg zero]
    unfold ofInt
    rw [sign, size]
    exact ofRatio_of_grains finite Nat.one_pos value

/-- A finite number whose exponent field is below a limit has few grains. -/
theorem grains_lt {x : Binary64} (limit : Nat) (positive : 0 < limit)
    (below : x.magnitude < (limit + 1) * 0x10000000000000) :
    x.grains < 2 ^ (limit + 52) := by
  have fits := x.fraction_lt
  rw [magnitude_eq] at below
  have field : x.exponentField ≤ limit := by omega
  have small : x.significand < 2 ^ 53 := by
    unfold significand
    split <;> omega
  have shift : x.unitExponent ≤ limit - 1 := by
    unfold unitExponent
    omega
  calc x.grains = x.significand * 2 ^ x.unitExponent := rfl
    _ < 2 ^ 53 * 2 ^ x.unitExponent := Nat.mul_lt_mul_of_pos_right small (Nat.two_pow_pos _)
    _ = 2 ^ (53 + x.unitExponent) := (Nat.pow_add 2 53 _).symm
    _ ≤ 2 ^ (limit + 52) := Nat.pow_le_pow_right (by decide) (by omega)

/-- A finite number whose exponent field is below a limit has an integer part of few bits. -/
theorem truncate_natAbs_lt {x : Binary64} (count : Nat)
    (below : x.magnitude < (count + 1023) * 0x10000000000000) :
    x.truncate.natAbs < 2 ^ count := by
  have few := grains_lt (count + 1022) (by omega) below
  rw [truncate_natAbs]
  unfold grainsPerOne
  generalize ones : 1074 = n
  have split : 2 ^ (count + 1022 + 52) = 2 ^ count * Nat.pow 2 n := by
    rw [show count + 1022 + 52 = count + n by omega]
    exact Nat.pow_add 2 count n
  rw [split] at few
  exact (Nat.div_lt_iff_lt_mul (Nat.two_pow_pos n)).2 few

/-- A significand of fifty-three bits with its exponent makes a number of that many grains. -/
theorem grains_ofMagnitude {unit significand : Nat} (low : 0x10000000000000 ≤ significand)
    (high : significand < 0x20000000000000) (inRange : unit < 0x7FE) (negative : Bool) :
    (ofMagnitude negative (unit * 0x10000000000000 + significand)).isFinite = true ∧
      (ofMagnitude negative (unit * 0x10000000000000 + significand)).grains =
        significand * 2 ^ unit := by
  have fits : unit * 0x10000000000000 + significand < 0x8000000000000000 := by omega
  have field : (unit * 0x10000000000000 + significand) / 0x10000000000000 = unit + 1 := by omega
  have rest : (unit * 0x10000000000000 + significand) % 0x10000000000000 =
      significand - 0x10000000000000 := by omega
  constructor
  · rw [isFinite, magnitude_ofMagnitude negative fits, infinityMagnitude]
    exact decide_eq_true (by omega)
  · rw [grains, Binary64.significand, unitExponent, exponentField, fraction,
      magnitude_ofMagnitude negative fits, field, rest, if_neg (by omega), Nat.add_sub_cancel,
      Nat.add_sub_cancel' low]
    rfl

/-- A natural number of at most fifty-three bits is kept. -/
theorem grains_ofNat {n : Nat} (few : n < 2 ^ 53) :
    (ofNat n).isFinite = true ∧ (ofNat n).isNegative = false ∧
      (ofNat n).grains = n * grainsPerOne := by
  by_cases none : n = 0
  · subst none
    decide +kernel
  have bits : n.log2 < 53 := (Nat.log2_lt none).2 few
  obtain ⟨low, high⟩ := (Nat.log2_eq_iff none).1 rfl
  have shifted (e : Nat) : 2 ^ e * 2 ^ (52 - n.log2) = 2 ^ (e + (52 - n.log2)) :=
    (Nat.pow_add 2 e _).symm
  have least : 0x10000000000000 ≤ n * 2 ^ (52 - n.log2) := by
    calc 0x10000000000000 = 2 ^ n.log2 * 2 ^ (52 - n.log2) := by
          rw [shifted, show n.log2 + (52 - n.log2) = 52 by omega]
          rfl
      _ ≤ n * 2 ^ (52 - n.log2) := Nat.mul_le_mul_right _ low
  have most : n * 2 ^ (52 - n.log2) < 0x20000000000000 := by
    calc n * 2 ^ (52 - n.log2) < 2 ^ (n.log2 + 1) * 2 ^ (52 - n.log2) :=
          Nat.mul_lt_mul_of_pos_right high (Nat.two_pow_pos _)
      _ = 0x20000000000000 := by
          rw [shifted, show n.log2 + 1 + (52 - n.log2) = 53 by omega]
          rfl
  obtain ⟨finite, grains⟩ :=
    @grains_ofMagnitude (n.log2 + 1022) _ least most (by omega) false
  generalize same : ofMagnitude false _ = x at finite grains
  have sign : x.isNegative = false := by
    rw [← same]
    exact isNegative_ofMagnitude false (by omega)
  have value : x.grains = n * grainsPerOne := by
    have power : 2 ^ (52 - n.log2) * 2 ^ (n.log2 + 1022) = grainsPerOne := by
      have sum : 52 - n.log2 + (n.log2 + 1022) = 1074 := by omega
      unfold grainsPerOne
      generalize 1074 = ones at sum ⊢
      rw [← Nat.pow_add, sum]
      rfl
    rw [grains, Nat.mul_assoc, power]
  have rounded : ofNat n = x := by
    rw [ofNat, ← sign]
    exact ofRatio_of_grains finite Nat.one_pos (by rw [value, Nat.mul_one])
  rw [rounded]
  exact ⟨finite, sign, value⟩

end Binary64
end Campus
