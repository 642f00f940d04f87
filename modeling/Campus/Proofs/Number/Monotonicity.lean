import Campus.Proofs.Number.Exactness
import Mathlib.Algebra.Order.Ring.Nat
import Mathlib.Tactic.Ring
/-!
# Rounding keeps the order

A larger ratio is never rounded to a smaller number. So a ratio that is not above a finite number is
not rounded above it, and one that is not below it is not rounded below it.
-/

namespace Campus

/-- Rounding does not pass an integer from above. -/
theorem le_roundHalfEven {num den n : Nat} (positive : 0 < den) (bounded : n * den ≤ num) :
    n ≤ roundHalfEven num den := by
  have quotient : n ≤ num / den := (Nat.le_div_iff_mul_le positive).2 bounded
  unfold roundHalfEven
  dsimp only
  split_ifs <;> omega

/-- Rounding does not pass an integer from below. -/
theorem roundHalfEven_le {num den n : Nat} (positive : 0 < den) (bounded : num ≤ n * den) :
    roundHalfEven num den ≤ n := by
  obtain ⟨error, -⟩ := @roundHalfEven_error num den positive
  by_contra above
  have next : (n + 1) * den ≤ roundHalfEven num den * den :=
    Nat.mul_le_mul_right den (Nat.lt_of_not_le above)
  rw [Nat.add_mul] at next
  omega

/-- Of two quotients with one divisor the larger one is not rounded below the other. -/
theorem roundHalfEven_mono {num other : Nat} (den : Nat) (le : num ≤ other) :
    roundHalfEven num den ≤ roundHalfEven other den := by
  have quotients : num / den ≤ other / den := Nat.div_le_div_right le
  have parts := Nat.div_add_mod num den
  have otherParts := Nat.div_add_mod other den
  unfold roundHalfEven
  dsimp only
  rcases quotients.eq_or_lt with same | less
  · rw [same] at parts ⊢
    have remainders : num % den ≤ other % den := by omega
    split_ifs <;> omega
  · have even : num / den % 2 ≤ 1 := by omega
    split_ifs <;> omega

namespace Binary64

variable {num den : Nat} {x : Binary64}

/-- The unit of a ratio, in grains, leaves at most fifty-three bits for the significand. -/
theorem roundHalfEven_unit_le (positive : 0 < den) (scaled : Nat) :
    roundHalfEven scaled (den * Nat.pow 2 (unitExponentOf (scaled / den))) ≤ 2 ^ 53 := by
  refine roundHalfEven_le (Nat.mul_pos positive (Nat.two_pow_pos _)) ?_
  have below : scaled / den < 2 ^ ((scaled / den).log2 + 1) := Nat.lt_log2_self
  unfold unitExponentOf
  generalize (scaled / den).log2 = length at below ⊢
  calc scaled ≤ 2 ^ (length + 1) * den := ((Nat.div_lt_iff_lt_mul positive).1 below).le
    _ ≤ 2 ^ (53 + (length - 52)) * den :=
        Nat.mul_le_mul_right _ (Nat.pow_le_pow_right (by decide) (by omega))
    _ = 2 ^ 53 * (den * Nat.pow 2 (length - 52)) := by
        rw [Nat.pow_add, Nat.pow_eq]
        ring

/-- A ratio whose unit is more than a grain fills fifty-three bits of the significand. -/
theorem le_unit_mul {scaled : Nat} (positive : 0 < den)
    (several : unitExponentOf (scaled / den) ≠ 0) :
    2 ^ 52 * (den * Nat.pow 2 (unitExponentOf (scaled / den))) ≤ scaled := by
  unfold unitExponentOf at several ⊢
  have notZero : scaled / den ≠ 0 := by
    intro none
    rw [none] at several
    exact several rfl
  have leading : 2 ^ (scaled / den).log2 ≤ scaled / den := Nat.log2_self_le notZero
  generalize (scaled / den).log2 = length at several leading ⊢
  calc 2 ^ 52 * (den * Nat.pow 2 (length - 52)) = 2 ^ (52 + (length - 52)) * den := by
        rw [Nat.pow_add, Nat.pow_eq]
        ring
    _ = 2 ^ length * den := by rw [Nat.add_sub_cancel' (by omega)]
    _ ≤ scaled := (Nat.le_div_iff_mul_le positive).1 leading

/-- More grains do not have a smaller unit. -/
theorem unitExponentOf_mono {small large : Nat} (le : small ≤ large) :
    unitExponentOf small ≤ unitExponentOf large := by
  refine Nat.sub_le_sub_right ?_ 52
  by_cases zero : small = 0
  · rw [zero]
    exact Nat.zero_le _
  · exact (Nat.le_log2 (by omega)).2 ((Nat.log2_self_le zero).trans le)

/-- Of two ratios with one denominator the larger one does not have the smaller magnitude. -/
theorem nearestMagnitude_le_of_num_le {other : Nat} (positive : 0 < den) (le : num ≤ other) :
    nearestMagnitude num den ≤ nearestMagnitude other den := by
  unfold nearestMagnitude
  have scaled : num * grainsPerOne ≤ other * grainsPerOne := Nat.mul_le_mul_right _ le
  generalize num * grainsPerOne = small at scaled ⊢
  generalize other * grainsPerOne = large at scaled ⊢
  dsimp only
  refine Nat.le_min.2 ⟨Nat.min_le_left _ _, (Nat.min_le_right _ _).trans ?_⟩
  have units : unitExponentOf (small / den) ≤ unitExponentOf (large / den) :=
    unitExponentOf_mono (Nat.div_le_div_right scaled)
  rcases units.eq_or_lt with same | shorter
  · rw [same]
    exact Nat.add_le_add_left (roundHalfEven_mono _ scaled) _
  · -- the carry of the smaller significand reaches at most the least significand of the next unit
    have carry := roundHalfEven_unit_le positive small
    have least := le_roundHalfEven (Nat.mul_pos positive (Nat.two_pow_pos _))
      (le_unit_mul positive (Nat.ne_of_gt (Nat.zero_lt_of_lt shorter)))
    simp only [Nat.pow_eq] at carry least ⊢
    omega

/-- A larger ratio does not have a smaller magnitude. -/
theorem nearestMagnitude_mono {otherNum otherDen : Nat} (positive : 0 < den)
    (otherPositive : 0 < otherDen) (le : num * otherDen ≤ otherNum * den) :
    nearestMagnitude num den ≤ nearestMagnitude otherNum otherDen := by
  have product : 0 < den * otherDen := Nat.mul_pos positive otherPositive
  calc nearestMagnitude num den = nearestMagnitude (num * otherDen) (den * otherDen) :=
        nearestMagnitude_eq_of_ratio positive product (by ring)
    _ ≤ nearestMagnitude (otherNum * den) (den * otherDen) :=
        nearestMagnitude_le_of_num_le product le
    _ = nearestMagnitude otherNum otherDen :=
        nearestMagnitude_eq_of_ratio product otherPositive (by ring)

/-- Nothing is rounded to zero. -/
theorem nearestMagnitude_zero (positive : 0 < den) : nearestMagnitude 0 den = 0 := by
  have none : nearestMagnitude 0 1 = 0 := by decide +kernel
  exact (nearestMagnitude_eq_of_ratio positive Nat.one_pos (by simp)).trans none

/-- There are grains in one. -/
theorem grainsPerOne_pos : 0 < grainsPerOne := by
  unfold grainsPerOne
  generalize 1074 = n
  exact Nat.two_pow_pos n

/-- The grains of a finite number over those of one have its magnitude. -/
theorem nearestMagnitude_grains (finite : x.isFinite = true) :
    nearestMagnitude x.grains grainsPerOne = x.magnitude :=
  nearestMagnitude_of_grains finite grainsPerOne_pos rfl

/-- A ratio that is not above a finite number is not rounded above it. -/
theorem nearestMagnitude_le_magnitude (finite : x.isFinite = true) (positive : 0 < den)
    (le : num * grainsPerOne ≤ x.grains * den) : nearestMagnitude num den ≤ x.magnitude := by
  rw [← nearestMagnitude_grains finite]
  exact nearestMagnitude_mono positive grainsPerOne_pos le

/-- A ratio that is not below a finite number is not rounded below it. -/
theorem magnitude_le_nearestMagnitude (finite : x.isFinite = true) (positive : 0 < den)
    (le : x.grains * den ≤ num * grainsPerOne) : x.magnitude ≤ nearestMagnitude num den := by
  rw [← nearestMagnitude_grains finite]
  exact nearestMagnitude_mono grainsPerOne_pos positive le

/-- A ratio that is not above a finite number is rounded to a finite one. -/
theorem isFinite_ofRatio (negative : Bool) (finite : x.isFinite = true) (positive : 0 < den)
    (le : num * grainsPerOne ≤ x.grains * den) : (ofRatio negative num den).isFinite = true := by
  have below : x.magnitude < infinityMagnitude := of_decide_eq_true finite
  have rounded := nearestMagnitude_le_magnitude finite positive le
  rw [isFinite, ofRatio, magnitude_ofMagnitude _ (Nat.lt_of_le_of_lt rounded x.magnitude_lt)]
  exact decide_eq_true (by omega)

end Binary64
end Campus
