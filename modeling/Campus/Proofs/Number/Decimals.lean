import Campus.Number.Decimal
import Campus.Proofs.Number.Monotonicity
import Mathlib.Algebra.Order.Field.Basic
import Mathlib.Algebra.Order.Round
import Mathlib.Data.Rat.Floor
import Mathlib.Tactic.FieldSimp
import Mathlib.Tactic.Linarith
import Mathlib.Tactic.NormNum
import Mathlib.Tactic.Positivity
import Mathlib.Tactic.Ring
/-!
# Exact decimals

A decimal operation whose exact result fits at the scale it starts from gives that result. A
quotient is rounded to many places and its hundredths are rounded once more; the two roundings
together do what one rounding of the exact quotient does, because a quotient by a small denominator
is either half a hundredth or away from it by more than the first rounding can move it.
-/

namespace Campus

/-- A value with its sign. -/
def signed {α : Type} [Neg α] (negative : Bool) (size : α) : α := if negative then -size else size

/-- A value with the sign is the negated one. -/
@[simp]
theorem signed_true {α : Type} [Neg α] (size : α) : signed true size = -size := rfl

/-- A value without the sign is itself. -/
@[simp]
theorem signed_false {α : Type} [Neg α] (size : α) : signed false size = size := rfl

/-- An integer is its size with its sign. -/
theorem signed_natAbs (n : ℤ) : signed (decide (n < 0)) (n.natAbs : ℤ) = n := by
  by_cases negative : n < 0
  · rw [decide_eq_true negative, signed_true]
    omega
  · rw [decide_eq_false negative, signed_false]
    omega

/-- A sign does not change the size. -/
theorem abs_signed (negative : Bool) {size : ℚ} (nonnegative : 0 ≤ size) :
    |signed negative size| = size := by
  cases negative <;> simp [abs_of_nonneg nonnegative]

/-! ## Rounding -/

/-- A rational number in hundredths, rounded to a whole number of them, halves away from zero. -/
def cents (q : ℚ) : ℤ := if q < 0 then -round (-q * 100) else round (q * 100)

/-- The integer to which halves are rounded upward, without division. -/
theorem roundHalfUp_eq_iff {num den n : ℕ} (positive : 0 < den) :
    roundHalfUp num den = n ↔
      2 * (n * den) ≤ 2 * num + den ∧ 2 * num + den < 2 * (n * den) + 2 * den := by
  have product : n * (2 * den) = 2 * (n * den) := by ring
  rw [roundHalfUp, Nat.div_eq_iff (by omega), product]
  omega

/-- An exact quotient is kept. -/
theorem roundHalfUp_mul {den : ℕ} (positive : 0 < den) (n : ℕ) :
    roundHalfUp (n * den) den = n := (roundHalfUp_eq_iff positive).2 (by omega)

/-- Rounding a ratio of natural numbers to the nearest integer. -/
theorem round_div (num : ℕ) {den : ℕ} (positive : 0 < den) :
    round ((num : ℚ) / den) = roundHalfUp num den := by
  have ratio : (num : ℚ) / den + 1 / 2 = ((2 * num + den : ℕ) : ℚ) / (2 * den : ℕ) := by
    have nonZero : (den : ℚ) ≠ 0 := by positivity
    push_cast
    field_simp
  rw [round_eq, ratio, Rat.floor_natCast_div_natCast, roundHalfUp]
  push_cast
  rfl

/-- The hundredths of a ratio with its sign. -/
theorem cents_signed_div (negative : Bool) (num : ℕ) {den : ℕ} (positive : 0 < den) :
    cents (signed negative ((num : ℚ) / den)) =
      signed negative (roundHalfUp (num * 100) den : ℤ) := by
  have scaled : (num : ℚ) / den * 100 = ((num * 100 : ℕ) : ℚ) / den := by
    push_cast
    ring
  have notBelow : ¬(num : ℚ) / den < 0 := not_lt.2 (by positivity)
  cases negative with
  | false =>
    rw [signed_false, signed_false, cents, if_neg notBelow, scaled, round_div _ positive]
  | true =>
    by_cases zero : num = 0
    · subst zero
      have none : roundHalfUp 0 den = 0 := by simpa using roundHalfUp_mul positive 0
      simp [cents, none]
    · have below : -((num : ℚ) / den) < 0 := by
        have : 0 < num := Nat.pos_of_ne_zero zero
        exact neg_neg_of_pos (by positivity)
      rw [signed_true, signed_true, cents, if_pos below, neg_neg, scaled, round_div _ positive]

example : cents (-1 / 200) = -1 ∧ cents (1 / 200 - 1 / 10 ^ 30) = 0 := by decide +kernel

/-- Rounding to even at so many places that half a hundredth is a whole number of units, and one
unit is less than what the denominator resolves, and then rounding the hundredths upward is rounding
them upward at once. -/
theorem roundHalfUp_roundHalfEven {num den half : ℕ} (positive : 0 < den) (fine : den < 2 * half) :
    roundHalfUp (roundHalfEven (num * (200 * half)) den * 100) (200 * half) =
      roundHalfUp (num * 100) den := by
  obtain ⟨fromBelow, fromAbove⟩ := @roundHalfEven_error (num * (200 * half)) den positive
  obtain ⟨lower, upper⟩ := (roundHalfUp_eq_iff positive).1 (Eq.refl (roundHalfUp (num * 100) den))
  generalize roundHalfUp (num * 100) den = n at lower upper ⊢
  generalize roundHalfEven (num * (200 * half)) den = m at fromBelow fromAbove ⊢
  rw [roundHalfUp_eq_iff (by omega)]
  -- the first rounding cannot cross the halves on either side of `n` hundredths
  have notBelow : (2 * n : ℤ) * half ≤ m + half := by
    by_contra short
    have unit : (m : ℤ) + half + 1 ≤ 2 * n * half := by omega
    have wide : ((m : ℤ) + half + 1) * den ≤ 2 * n * half * den :=
      mul_le_mul_of_nonneg_right unit (by positivity)
    have scaled : (2 * (n * den) : ℤ) * half ≤ (2 * (num * 100) + den) * half :=
      mul_le_mul_of_nonneg_right (by exact_mod_cast lower) (by positivity)
    have moved : (2 * (num * (200 * half)) : ℤ) ≤ 2 * (m * den) + den := by
      exact_mod_cast fromAbove
    have some : (0 : ℤ) < den := by exact_mod_cast positive
    linarith
  have notAbove : (m : ℤ) + half < (2 * n + 2) * half := by
    by_contra far
    have wide : (2 * n + 2 : ℤ) * half * den ≤ ((m : ℤ) + half) * den :=
      mul_le_mul_of_nonneg_right (not_lt.1 far) (by positivity)
    have scaled : (2 * (num * 100) + den + 1 : ℤ) * half ≤ (2 * (n * den) + 2 * den) * half :=
      mul_le_mul_of_nonneg_right (by exact_mod_cast upper) (by positivity)
    have moved : (2 * (m * den) : ℤ) ≤ 2 * (num * (200 * half)) + den := by
      exact_mod_cast fromBelow
    have resolved : (den : ℤ) < 2 * half := by exact_mod_cast fine
    linarith
  zify
  constructor <;> linarith

namespace Decimal

/-! ## Fitting a ratio -/

section Fitting

variable {round : ℕ → ℕ → ℕ} (negative : Bool) {num den : ℕ}

/-- A coefficient of at most ninety-six bits is taken. -/
theorem atScale?_eq {scale : ℕ} (bound : scale ≤ maxScale)
    (small : round (num * 10 ^ scale) den < 2 ^ 96) :
    ∃ a, atScale? round negative num den scale bound = some a ∧
      a.coefficient = signed negative (round (num * 10 ^ scale) den : ℤ) ∧ a.scale = scale := by
  have fits : round (num * Nat.pow 10 scale) den < 0x1000000000000000000000000 := small
  unfold atScale?
  dsimp only
  rw [dif_pos fits]
  exact ⟨_, rfl, rfl, rfl⟩

/-- A ratio that fits at one scale is given at this scale or at a finer one. -/
theorem fit?_eq {coarse scale : ℕ} (bound : scale ≤ maxScale) (within : coarse ≤ scale)
    (small : round (num * 10 ^ coarse) den < 2 ^ 96) :
    ∃ a, fit? round negative num den scale bound = some a ∧ coarse ≤ a.scale ∧ a.scale ≤ scale ∧
      a.coefficient = signed negative (round (num * 10 ^ a.scale) den : ℤ) := by
  induction scale with
  | zero =>
    obtain rfl : coarse = 0 := Nat.le_zero.1 within
    obtain ⟨a, taken, coefficient, placed⟩ := atScale?_eq negative bound small
    exact ⟨a, taken, by omega, by omega, by rw [coefficient, placed]⟩
  | succ scale ih =>
    by_cases here : round (num * 10 ^ (scale + 1)) den < 2 ^ 96
    · obtain ⟨a, taken, coefficient, placed⟩ := atScale?_eq negative bound here
      exact ⟨a, by rw [fit?, taken], by omega, by omega, by rw [coefficient, placed]⟩
    · have refused : atScale? round negative num den (scale + 1) bound = none := dif_neg here
      have coarser : coarse ≤ scale := by
        rcases Nat.lt_or_eq_of_le within with less | same
        · omega
        · exact absurd (same ▸ small) here
      obtain ⟨a, taken, fine, placed, coefficient⟩ := ih (Nat.le_of_succ_le bound) coarser
      exact ⟨a, by rw [fit?, refused, taken], fine, by omega, coefficient⟩

/-- A ratio that is a whole number of units at the scale it starts from is kept. -/
theorem fit?_exact {size scale : ℕ} (bound : scale ≤ maxScale)
    (keeps : round (size * den) den = size) (whole : num * 10 ^ scale = size * den)
    (small : size < 2 ^ 96) :
    ∃ a, fit? round negative num den scale bound = some a ∧ a.scale = scale ∧
      a.coefficient = signed negative (size : ℤ) := by
  have kept : round (num * 10 ^ scale) den = size := by rw [whole, keeps]
  obtain ⟨a, taken, fine, placed, coefficient⟩ :=
    fit?_eq negative bound (le_refl scale) (kept ▸ small)
  obtain same : a.scale = scale := by omega
  exact ⟨a, taken, same, by rw [coefficient, same, kept]⟩

end Fitting

/-! ## Values -/

/-- The value of a decimal. -/
def value (a : Decimal) : ℚ := a.coefficient / 10 ^ a.scale

/-- The value of a decimal by its sign and its digits. -/
theorem value_eq_signed {a : Decimal} {negative : Bool} {size : ℕ}
    (coefficient : a.coefficient = signed negative (size : ℤ)) :
    a.value = signed negative ((size : ℚ) / (10 ^ a.scale : ℕ)) := by
  rw [value, coefficient]
  cases negative
  · simp
  · simp [neg_div]

/-- The hundredths of a decimal are those of its value. -/
theorem hundredths_eq (a : Decimal) : a.hundredths = cents a.value := by
  have power : 0 < 10 ^ a.scale := Nat.pow_pos (by decide)
  rw [value_eq_signed (signed_natAbs a.coefficient).symm, cents_signed_div _ _ power]
  unfold hundredths signed
  simp

/-- A decimal of the given value with a limited number of places. -/
structure Holds (places : ℕ) (q : ℚ) (a : Decimal) : Prop where
  /-- Nothing was rounded. -/
  value_eq : a.value = q
  /-- The places are limited. -/
  scale_le : a.scale ≤ places

/-- The coefficient a decimal would have at a finer scale. -/
def aligned (a : Decimal) (scale : ℕ) : ℤ := a.coefficient * 10 ^ (scale - a.scale)

/-- The aligned coefficient as a multiple of the value. -/
theorem cast_aligned {a : Decimal} {scale : ℕ} (finer : a.scale ≤ scale) :
    (a.aligned scale : ℚ) = a.value * 10 ^ scale := by
  have split : (10 : ℚ) ^ scale = 10 ^ a.scale * 10 ^ (scale - a.scale) := by
    rw [← pow_add, Nat.add_sub_cancel' finer]
  have power : (10 : ℚ) ^ a.scale ≠ 0 := by positivity
  rw [aligned, value, split, ← mul_assoc, div_mul_cancel₀ _ power]
  push_cast
  rfl

/-- The finest coefficient from an aligned one. -/
theorem finest_eq {a : Decimal} {scale : ℕ} (finer : a.scale ≤ scale) (bound : scale ≤ maxScale) :
    a.finest = a.aligned scale * 10 ^ (maxScale - scale) := by
  have split : maxScale - a.scale = scale - a.scale + (maxScale - scale) := by omega
  rw [finest, aligned, split, mul_assoc, ← pow_add]
  rfl

/-- The sum of two decimals fits at a scale as fine as theirs if its coefficient is small there. -/
theorem exists_fit?_sum {a b : Decimal} {scale : ℕ} (bound : scale ≤ maxScale)
    (leftFiner : a.scale ≤ scale) (rightFiner : b.scale ≤ scale)
    (small : |a.value + b.value| * 10 ^ scale < 2 ^ 96) :
    ∃ total, fit? roundHalfEven (a.finest + b.finest < 0) (a.finest + b.finest).natAbs
        (Nat.pow 10 maxScale) scale bound = some total ∧
      total.Holds scale (a.value + b.value) := by
  have exact : ((a.aligned scale + b.aligned scale : ℤ) : ℚ) =
      (a.value + b.value) * 10 ^ scale := by
    rw [Int.cast_add, cast_aligned leftFiner, cast_aligned rightFiner, add_mul]
  rw [finest_eq leftFiner bound, finest_eq rightFiner bound, ← add_mul]
  generalize a.aligned scale + b.aligned scale = c at exact
  have sign : decide (c * 10 ^ (maxScale - scale) < 0) = decide (c < 0) := by
    have power : (0 : ℤ) < 10 ^ (maxScale - scale) := by positivity
    rw [decide_eq_decide, mul_neg_iff]
    omega
  have size : (c * 10 ^ (maxScale - scale)).natAbs = c.natAbs * 10 ^ (maxScale - scale) := by
    rw [Int.natAbs_mul, Int.natAbs_pow]
    rfl
  have whole : c.natAbs * 10 ^ (maxScale - scale) * 10 ^ scale =
      c.natAbs * Nat.pow 10 maxScale := by
    rw [mul_assoc, ← pow_add, Nat.sub_add_cancel bound]
    rfl
  have fits : c.natAbs < 2 ^ 96 := by
    have cast : ((c.natAbs : ℕ) : ℚ) < 2 ^ 96 := by
      rwa [Nat.cast_natAbs, Int.cast_abs, exact, abs_mul, abs_of_pos (a := (10 : ℚ) ^ scale)
        (by positivity)]
    exact_mod_cast cast
  rw [sign, size]
  obtain ⟨total, taken, placed, coefficient⟩ := fit?_exact (decide (c < 0)) bound
    (roundHalfEven_mul (Nat.pow_pos (by decide)) c.natAbs) whole fits
  rw [signed_natAbs] at coefficient
  refine ⟨total, taken, ?_, placed.le⟩
  rw [value, coefficient, placed, exact, mul_div_cancel_right₀ _ (by positivity)]

/-- A sum is exact when it fits at the common scale. -/
theorem exists_add? {places : ℕ} {p q : ℚ} {a b : Decimal} (left : a.Holds places p)
    (right : b.Holds places q) (small : |p + q| * 10 ^ places < 2 ^ 96) :
    ∃ total, a.add? b = some total ∧ total.Holds places (p + q) := by
  obtain ⟨rfl, leftScale⟩ := left
  obtain ⟨rfl, rightScale⟩ := right
  have within : Nat.max a.scale b.scale ≤ places := Nat.max_le.2 ⟨leftScale, rightScale⟩
  have smaller : |a.value + b.value| * 10 ^ Nat.max a.scale b.scale < 2 ^ 96 :=
    lt_of_le_of_lt
      (mul_le_mul_of_nonneg_left (pow_le_pow_right₀ (by norm_num) within) (abs_nonneg _)) small
  obtain ⟨total, taken, exact, placed⟩ := exists_fit?_sum
    (Nat.max_le.2 ⟨a.scale_le, b.scale_le⟩) (Nat.le_max_left _ _) (Nat.le_max_right _ _) smaller
  exact ⟨total, taken, exact, placed.trans within⟩

/-- A numeral with few places and few digits is taken as it is. -/
theorem exists_ofNumeral? (negative : Bool) {n : Numeral} {places : ℕ} (few : places ≤ maxScale)
    (within : (-n.exponent).toNat ≤ places)
    (small : n.digits * 10 ^ n.exponent.toNat < 2 ^ 96) :
    ∃ a, ofNumeral? negative n = some a ∧ a.Holds places (signed negative
      ((n.digits * 10 ^ n.exponent.toNat : ℕ) / (10 ^ (-n.exponent).toNat : ℕ))) := by
  have kept : Nat.min (-n.exponent).toNat maxScale = (-n.exponent).toNat :=
    Nat.min_eq_left (within.trans few)
  have whole : n.digits * 10 ^ n.exponent.toNat * 10 ^ Nat.min (-n.exponent).toNat maxScale =
      n.digits * 10 ^ n.exponent.toNat * 10 ^ (-n.exponent).toNat := by rw [kept]
  obtain ⟨a, taken, placed, coefficient⟩ := fit?_exact negative
    (Nat.min_le_right _ maxScale) (roundHalfUp_mul (Nat.pow_pos (by decide)) _) whole small
  replace placed : a.scale = (-n.exponent).toNat := placed.trans kept
  refine ⟨a, taken, ?_, placed.le.trans within⟩
  rw [value_eq_signed coefficient, placed]

/-- The size of a decimal's value. -/
theorem abs_value (a : Decimal) : |a.value| = (a.coefficient.natAbs : ℚ) / 10 ^ a.scale := by
  rw [value, abs_div, abs_of_pos (a := (10 : ℚ) ^ a.scale) (by positivity), ← Int.cast_abs,
    ← Nat.cast_natAbs]

/-- The exact quotient of a decimal by a natural number. -/
theorem value_div_natCast (a : Decimal) (n : ℕ) :
    a.value / n = signed (decide (a.coefficient < 0))
      ((a.coefficient.natAbs : ℚ) / (10 ^ a.scale * n : ℕ)) := by
  rw [value_eq_signed (signed_natAbs a.coefficient).symm]
  cases decide (a.coefficient < 0)
  · simp [div_div]
  · simp [neg_div, div_div]

/-- A quotient by a number that many places resolve has the hundredths of the exact quotient. -/
theorem exists_divNat? {a : Decimal} {n : ℕ} (positive : 0 < n)
    (fine : 10 ^ a.scale * n < 10 ^ 19) (bounded : |a.value| ≤ 2 ^ 20 * n) :
    ∃ mean, a.divNat? n = some mean ∧ mean.hundredths = cents (a.value / n) := by
  have den : 0 < 10 ^ a.scale * n := Nat.mul_pos (Nat.pow_pos (by decide)) positive
  have size : a.coefficient.natAbs ≤ 2 ^ 20 * (10 ^ a.scale * n) := by
    rw [abs_value, div_le_iff₀ (by positivity)] at bounded
    have cast : (a.coefficient.natAbs : ℚ) ≤ (2 ^ 20 * (10 ^ a.scale * n) : ℕ) := by
      push_cast
      linarith
    exact_mod_cast cast
  have small : roundHalfEven (a.coefficient.natAbs * 10 ^ 21) (10 ^ a.scale * n) < 2 ^ 96 := by
    refine lt_of_le_of_lt (roundHalfEven_le (n := 2 ^ 20 * 10 ^ 21) den ?_) (by norm_num)
    calc a.coefficient.natAbs * 10 ^ 21 ≤ 2 ^ 20 * (10 ^ a.scale * n) * 10 ^ 21 :=
          Nat.mul_le_mul_right _ size
      _ = 2 ^ 20 * 10 ^ 21 * (10 ^ a.scale * n) := by ring
  obtain ⟨mean, taken, many, -, coefficient⟩ := fit?_eq (decide (a.coefficient < 0))
    (le_refl maxScale) (by decide : 21 ≤ maxScale) small
  have half : 10 ^ mean.scale = 200 * (5 * 10 ^ (mean.scale - 3)) := by
    have split : mean.scale = mean.scale - 3 + 3 := by omega
    rw [split, pow_add, Nat.add_sub_cancel]
    ring
  have resolved : 10 ^ a.scale * n < 2 * (5 * 10 ^ (mean.scale - 3)) := by
    calc 10 ^ a.scale * n < 10 ^ 19 := fine
      _ ≤ 10 ^ (mean.scale - 3 + 1) := Nat.pow_le_pow_right (by decide) (by omega)
      _ = 2 * (5 * 10 ^ (mean.scale - 3)) := by ring
  refine ⟨mean, (if_neg positive.ne').trans taken, ?_⟩
  rw [hundredths_eq, value_eq_signed coefficient, cents_signed_div _ _ (Nat.pow_pos (by decide)),
    half, roundHalfUp_roundHalfEven den resolved, value_div_natCast, cents_signed_div _ _ den]

end Decimal

end Campus
