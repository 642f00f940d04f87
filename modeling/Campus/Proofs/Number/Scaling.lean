import Campus.Number.Scaling
import Campus.Proofs.Number.Monotonicity
import Campus.Proofs.Number.Numerals
/-!
# What scaling by powers of ten yields

What comes out is finite. A rounding adds at most the `2 ^ 53`-th part of a number. So a product
that is below the two largest finite numbers stays in the finite range through three roundings, and
a scaled number is lost only if it is near to the end of the range or beyond it. If the integer has
at most fifty-three bits and the power of ten is one of the first twenty-two, which are exact, there
is a single rounding, and the nearest number comes out.
-/

namespace Campus.Binary64

variable {num den : Nat} {x : Binary64}

/-- A number of at least a power of two is normal, with a unit of at least the fifty-second part of
that power. -/
theorem le_unitExponent {count : Nat} (large : (count + 1023) * 0x10000000000000 ≤ x.magnitude) :
    count + 1022 ≤ x.unitExponent ∧ 0x10000000000000 ≤ x.significand := by
  have field : count + 1023 ≤ x.exponentField := (Nat.le_div_iff_mul_le (by decide)).2 large
  clear large
  constructor
  · unfold unitExponent
    omega
  · rw [significand, if_neg (by omega)]
    exact Nat.le_add_right _ _

/-- A number of at least a power of two has that many grains. -/
theorem le_grains {count : Nat} (large : (count + 1023) * 0x10000000000000 ≤ x.magnitude) :
    2 ^ (count + 1074) ≤ x.grains := by
  obtain ⟨unit, normal⟩ := le_unitExponent large
  calc 2 ^ (count + 1074) = 2 ^ 52 * 2 ^ (count + 1022) := by
        rw [← Nat.pow_add, show count + 1074 = 52 + (count + 1022) by omega]
    _ ≤ x.significand * 2 ^ x.unitExponent :=
        Nat.mul_le_mul normal (Nat.pow_le_pow_right (by decide) unit)

/-- A rounded ratio whose unit is more than a grain has its significand times the unit as grains. -/
theorem grains_ofRatio (negative : Bool) (finite : (ofRatio negative num den).isFinite = true)
    (positive : 0 < den) (several : unitExponentOf (num * grainsPerOne / den) ≠ 0) :
    (ofRatio negative num den).grains =
      roundHalfEven (num * grainsPerOne)
        (den * Nat.pow 2 (unitExponentOf (num * grainsPerOne / den))) *
          2 ^ unitExponentOf (num * grainsPerOne / den) := by
  have most := roundHalfEven_unit_le positive (num * grainsPerOne)
  have least := le_roundHalfEven (Nat.mul_pos positive (Nat.two_pow_pos _))
    (le_unit_mul positive several)
  have fits := Nat.lt_of_le_of_lt (nearestMagnitude_le num den)
    (by decide : infinityMagnitude < 0x8000000000000000)
  have below : nearestMagnitude num den < infinityMagnitude := by
    rw [isFinite, ofRatio, magnitude_ofMagnitude _ fits] at finite
    exact of_decide_eq_true finite
  rw [ofRatio]
  unfold nearestMagnitude at below ⊢
  dsimp only at below ⊢
  simp only [Nat.pow_eq] at most least below ⊢
  generalize unitExponentOf (num * grainsPerOne / den) = unit at *
  generalize roundHalfEven (num * grainsPerOne) (den * 2 ^ unit) = significand at *
  have whole : Nat.min infinityMagnitude (unit * 0x10000000000000 + significand) =
      unit * 0x10000000000000 + significand := by
    refine Nat.min_eq_right (Nat.le_of_not_lt fun above => ?_)
    exact Nat.ne_of_lt below (Nat.min_eq_left above.le)
  rw [whole] at below ⊢
  unfold infinityMagnitude at below
  rcases most.eq_or_lt with carried | proper
  · -- a significand of fifty-four bits is the least one of the next unit
    have next : unit * 0x10000000000000 + significand =
        (unit + 1) * 0x10000000000000 + 0x10000000000000 := by omega
    rw [next, (grains_ofMagnitude (by decide) (by decide) (by omega) negative).2, carried]
    rw [Nat.pow_succ']
    ring
  · exact (grains_ofMagnitude (by omega) (by omega) (by omega) negative).2

/-- Rounding a natural number adds at most its `2 ^ 53`-th part. -/
theorem grains_ofNat_le {n : Nat} (finite : (ofNat n).isFinite = true) (positive : 0 < n) :
    (ofNat n).grains * 2 ^ 53 ≤ (2 ^ 53 + 1) * (n * grainsPerOne) := by
  have several : unitExponentOf (n * grainsPerOne / 1) ≠ 0 := by
    have large : 2 ^ 1074 ≤ n * grainsPerOne / 1 := by
      rw [Nat.div_one, grainsPerOne_eq]
      exact Nat.le_mul_of_pos_left _ positive
    have bits := (Nat.le_log2 (Nat.ne_of_gt (Nat.lt_of_lt_of_le (Nat.two_pow_pos _) large))).2 large
    unfold unitExponentOf
    omega
  have unit := le_unit_mul Nat.one_pos several
  rw [ofNat] at finite ⊢
  rw [grains_ofRatio false finite Nat.one_pos several]
  have error := (@roundHalfEven_error (n * grainsPerOne)
    (1 * Nat.pow 2 (unitExponentOf (n * grainsPerOne / 1)))
    (Nat.mul_pos Nat.one_pos (Nat.two_pow_pos _))).1
  generalize roundHalfEven _ _ = significand at error ⊢
  simp only [Nat.pow_eq, Nat.one_mul] at unit error ⊢
  generalize 2 ^ unitExponentOf (n * grainsPerOne / 1) = grain at *
  generalize n * grainsPerOne = scaled at *
  generalize significand * grain = rounded at *
  omega

/-- The finite number of a given distance below infinity, counted in numbers. -/
def belowInfinity (steps : Nat) : Binary64 := ofMagnitude false (infinityMagnitude - steps)

/-- The grains of the largest finite numbers. -/
theorem grains_belowInfinity {steps : Nat} (some : 0 < steps) (few : steps ≤ 2 ^ 52) :
    (belowInfinity steps).isFinite = true ∧
      (belowInfinity steps).grains = (2 ^ 53 - steps) * 2 ^ 2045 := by
  have parts : infinityMagnitude - steps =
      2045 * 0x10000000000000 + (2 ^ 53 - steps) := by
    unfold infinityMagnitude
    omega
  rw [belowInfinity, parts]
  exact grains_ofMagnitude (by omega) (by omega) (by decide) false

/-- Dividing by at least one keeps a finite number finite. -/
theorem isFinite_div {y : Binary64} (finite : x.isFinite = true)
    (large : grainsPerOne ≤ y.grains) : (x.div y).isFinite = true :=
  isFinite_ofRatio _ finite (Nat.lt_of_lt_of_le grainsPerOne_pos large)
    (Nat.mul_le_mul_left _ large)

/-- A positive integer is not rounded below one. -/
theorem grainsPerOne_le_grains_ofNat {n : Nat} (positive : 0 < n) :
    grainsPerOne ≤ (ofNat n).grains := by
  have one : nearestMagnitude 1 1 = (0 + 1023) * 0x10000000000000 := by decide +kernel
  have large : (0 + 1023) * 0x10000000000000 ≤ (ofNat n).magnitude := by
    rw [← one, ofNat, ofRatio,
      magnitude_ofMagnitude _ (Nat.lt_of_le_of_lt (nearestMagnitude_le _ _) (by decide))]
    exact nearestMagnitude_le_of_num_le Nat.one_pos positive
  calc grainsPerOne = 2 ^ (0 + 1074) := by rw [grainsPerOne_eq, Nat.zero_add]
    _ ≤ (ofNat n).grains := le_grains large

/-- Powers of ten are not rounded below one. -/
theorem grainsPerOne_le_powerOfTen (exponent : Nat) :
    grainsPerOne ≤ (powerOfTen exponent).grains :=
  grainsPerOne_le_grains_ofNat (Nat.pow_pos (by decide))

/-- Dividing by powers of ten keeps a finite number finite. -/
theorem isFinite_divideByLargest (finite : x.isFinite = true) (times : Nat) :
    (x.divideByLargest times).isFinite = true := by
  induction times generalizing x with
  | zero => exact finite
  | succ times ih =>
    rw [divideByLargest]
    split
    · exact finite
    · exact ih (isFinite_div finite (grainsPerOne_le_powerOfTen _))

/-- A scaled number of sixty-four bits is finite. -/
theorem isFinite_of_scale? {n : Nat} {exponent : Int} (few : n < 2 ^ 64)
    (scaled : scale? n exponent = some x) : x.isFinite = true := by
  have finite : (ofNat n).isFinite = true := by
    refine isFinite_ofRatio _ (@grains_belowInfinity 3 (by decide) (by decide)).1 Nat.one_pos ?_
    rw [Nat.mul_one]
    calc n * grainsPerOne ≤ 2 ^ 64 * grainsPerOne := Nat.mul_le_mul_right _ few.le
      _ ≤ (belowInfinity 3).grains := by decide +kernel
  unfold scale? at scaled
  dsimp only at scaled
  split at scaled
  · obtain rfl := Option.some.inj scaled
    exact isFinite_div (isFinite_divideByLargest finite _) (grainsPerOne_le_powerOfTen _)
  · split at scaled
    · split at scaled
      · obtain rfl := Option.some.inj scaled
        exact finite
      · cases scaled
    · split at scaled
      · next product =>
        obtain rfl := Option.some.inj scaled
        exact product
      · cases scaled

/-- What two roundings and the rounding of their product add does not lead out of the finite range
from below the two largest finite numbers. -/
theorem isFinite_mul {m n : Nat} (m_pos : 0 < m) (n_pos : 0 < n)
    (bound : m * n * grainsPerOne ≤ (belowInfinity 3).grains) :
    ((ofNat m).mul (ofNat n)).isFinite = true := by
  obtain ⟨largest, most⟩ := @grains_belowInfinity 1 (by decide) (by decide)
  obtain ⟨finite, limit⟩ := @grains_belowInfinity 3 (by decide) (by decide)
  have each {k : Nat} (le : k ≤ m * n) : (ofNat k).isFinite = true := by
    refine isFinite_ofRatio false finite Nat.one_pos ?_
    rw [Nat.mul_one]
    exact (Nat.mul_le_mul_right _ le).trans bound
  have left := grains_ofNat_le (each (Nat.le_mul_of_pos_right m n_pos)) m_pos
  have right := grains_ofNat_le (each (Nat.le_mul_of_pos_left n m_pos)) n_pos
  refine isFinite_ofRatio _ largest (Nat.mul_pos grainsPerOne_pos grainsPerOne_pos) ?_
  rw [limit] at bound
  rw [most, ← Nat.mul_assoc]
  refine Nat.mul_le_mul_right _ (Nat.le_of_mul_le_mul_left ?_ (Nat.two_pow_pos 106))
  generalize grainsPerOne = ones at *
  generalize 2 ^ 2045 = top at *
  generalize (ofNat m).grains = a at *
  generalize (ofNat n).grains = b at *
  calc 2 ^ 106 * (a * b) = a * 2 ^ 53 * (b * 2 ^ 53) := by ring
    _ ≤ (2 ^ 53 + 1) * (m * ones) * ((2 ^ 53 + 1) * (n * ones)) := Nat.mul_le_mul left right
    _ = (2 ^ 53 + 1) * (2 ^ 53 + 1) * ones * (m * n * ones) := by ring
    _ ≤ (2 ^ 53 + 1) * (2 ^ 53 + 1) * ones * ((2 ^ 53 - 3) * top) := Nat.mul_le_mul_left _ bound
    _ = (2 ^ 53 + 1) * (2 ^ 53 + 1) * (2 ^ 53 - 3) * (ones * top) := by ring
    _ ≤ 2 ^ 106 * (2 ^ 53 - 1) * (ones * top) := Nat.mul_le_mul_right _ (by decide)
    _ = 2 ^ 106 * ((2 ^ 53 - 1) * top * ones) := by ring

/-- A number that is scaled to below the two largest finite ones is not out of range. -/
theorem isSome_scale? {n : Nat} {exponent : Int}
    (bound : 0 ≤ exponent → n * 10 ^ exponent.toNat * grainsPerOne ≤ (belowInfinity 3).grains) :
    (scale? n exponent).isSome = true := by
  unfold scale?
  dsimp only
  split
  · rfl
  next natural =>
  have bound := bound (Int.not_lt.1 natural)
  by_cases none : n = 0
  · subst none
    have noGrains : (ofNat 0).grains = 0 := by decide +kernel
    have finite : ((ofNat 0).mul (powerOfTen exponent.toNat)).isFinite = true := by
      refine isFinite_ofRatio _ (@grains_belowInfinity 3 (by decide) (by decide)).1
        (Nat.mul_pos grainsPerOne_pos grainsPerOne_pos) ?_
      rw [noGrains, Nat.zero_mul, Nat.zero_mul]
      exact Nat.zero_le _
    rw [if_pos (grains_eq_zero_iff.1 noGrains), if_pos finite]
    split <;> rfl
  have positive : 0 < n := Nat.pos_of_ne_zero none
  have power : 0 < 10 ^ exponent.toNat := Nat.pow_pos (by decide)
  have atHand : ¬(largestPower : Int) < exponent := by
    intro above
    have tooLarge : (belowInfinity 3).grains < Nat.pow 10 (largestPower + 1) * grainsPerOne := by
      decide +kernel
    have next : largestPower + 1 ≤ exponent.toNat := by omega
    generalize largestPower + 1 = beyond at tooLarge next
    refine Nat.not_le.2 tooLarge (Nat.le_trans (Nat.mul_le_mul_right _ ?_) bound)
    calc Nat.pow 10 beyond ≤ 10 ^ exponent.toNat := Nat.pow_le_pow_right (by decide) next
      _ ≤ n * 10 ^ exponent.toNat := Nat.le_mul_of_pos_left _ positive
  have finite : ((ofNat n).mul (powerOfTen exponent.toNat)).isFinite = true :=
    isFinite_mul positive power bound
  rw [if_neg atHand, if_pos finite]
  rfl

/-- The first powers of ten are exact. -/
theorem powerOfTen_exact {exponent : Nat} (few : exponent ≤ 22) :
    (powerOfTen exponent).isNegative = false ∧
      (powerOfTen exponent).grains = 10 ^ exponent * grainsPerOne := by
  have each : ∀ exponent < 23, (powerOfTen exponent).isNegative = false ∧
      (powerOfTen exponent).grains = Nat.pow 10 exponent * grainsPerOne := by
    decide +kernel
  exact each exponent (Nat.lt_succ_of_le few)

/-- A number of at most fifty-three bits is divided by one of the first powers of ten with one
rounding. -/
theorem div_powerOfTen {n exponent : Nat} (few : n < 2 ^ 53) (first : exponent ≤ 22) :
    (ofNat n).div (powerOfTen exponent) = ofRatio false n (10 ^ exponent) := by
  obtain ⟨-, sign, grains⟩ := grains_ofNat few
  obtain ⟨powerSign, powerGrains⟩ := powerOfTen_exact first
  have power : 0 < 10 ^ exponent := Nat.pow_pos (by decide)
  have same : nearestMagnitude (n * grainsPerOne) (10 ^ exponent * grainsPerOne) =
      nearestMagnitude n (10 ^ exponent) :=
    nearestMagnitude_eq_of_ratio (Nat.mul_pos power grainsPerOne_pos) power (by ring)
  rw [div, sign, powerSign, grains, powerGrains, ofRatio, ofRatio, same, bne_self_eq_false]

/-- A number of at most fifty-three bits is multiplied by one of the first powers of ten with one
rounding. -/
theorem mul_powerOfTen {n exponent : Nat} (few : n < 2 ^ 53) (first : exponent ≤ 22) :
    (ofNat n).mul (powerOfTen exponent) = ofRatio false (n * 10 ^ exponent) 1 := by
  obtain ⟨-, sign, grains⟩ := grains_ofNat few
  obtain ⟨powerSign, powerGrains⟩ := powerOfTen_exact first
  have same : nearestMagnitude (n * grainsPerOne * (10 ^ exponent * grainsPerOne))
      (grainsPerOne * grainsPerOne) = nearestMagnitude (n * 10 ^ exponent) 1 :=
    nearestMagnitude_eq_of_ratio (Nat.mul_pos grainsPerOne_pos grainsPerOne_pos) Nat.one_pos
      (by ring)
  rw [mul, sign, powerSign, grains, powerGrains, ofRatio, ofRatio, same, bne_self_eq_false]

/-- A number of at most fifty-three bits that is scaled by one of the first powers of ten becomes
the nearest number. -/
theorem scale?_eq_ofRatio {n : Nat} {exponent : Int} (few : n < 2 ^ 53) (low : -22 ≤ exponent)
    (high : exponent ≤ 22) : scale? n exponent =
      some (ofRatio false (n * 10 ^ exponent.toNat) (10 ^ (-exponent).toNat)) := by
  unfold scale?
  dsimp only
  split
  · next negative =>
    have atOnce : ((-exponent).toNat - 1) / largestPower = 0 := by
      unfold largestPower
      omega
    have natural : exponent.toNat = 0 := by omega
    rw [divideByPower, atOnce, divideByLargest, Nat.zero_mul, Nat.sub_zero,
      div_powerOfTen few (by omega), natural, Nat.pow_zero, Nat.mul_one]
  · next natural =>
    have atHand : ¬(largestPower : Int) < exponent := by
      unfold largestPower
      omega
    have none : (-exponent).toNat = 0 := by omega
    have finite : (ofRatio false (n * 10 ^ exponent.toNat) 1).isFinite = true := by
      refine isFinite_ofRatio _ (@grains_belowInfinity 3 (by decide) (by decide)).1 Nat.one_pos ?_
      rw [Nat.mul_one]
      calc n * 10 ^ exponent.toNat * grainsPerOne ≤ 2 ^ 53 * 10 ^ 22 * grainsPerOne :=
            Nat.mul_le_mul_right _ (Nat.mul_le_mul few.le
              (Nat.pow_le_pow_right (by decide) (by omega)))
        _ ≤ (belowInfinity 3).grains := by decide +kernel
    rw [if_neg atHand, mul_powerOfTen few (by omega), if_pos finite, none, Nat.pow_zero]

end Campus.Binary64
