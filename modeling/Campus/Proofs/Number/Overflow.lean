import Campus.Proofs.Number.Texts
/-!
# Values beyond decimals

A value has no decimal exactly if it is rounded to a whole number of more than ninety-six bits, that
is, from the half below `2 ^ 96` on. Every other value is given up to half a unit, whatever scale it
has to be given at. This holds of the texts of numbers, of sums and of quotients alike.
-/

namespace Campus

/-- A sign does not change how far values are apart. -/
theorem abs_signed_sub (negative : Bool) (p q : ℚ) :
    |signed negative p - signed negative q| = |p - q| := by
  cases negative
  · rfl
  · rw [signed_true, signed_true, neg_sub_neg, abs_sub_comm]

/-- A quotient of an integer by its sign and its size. -/
theorem signed_natAbs_div (n : ℤ) (d : ℚ) :
    signed (decide (n < 0)) ((n.natAbs : ℚ) / d) = n / d := by
  by_cases negative : n < 0
  · rw [decide_eq_true negative, signed_true, Nat.cast_natAbs, abs_of_neg negative, ← neg_div,
      Int.cast_neg, neg_neg]
  · rw [decide_eq_false negative, signed_false, Nat.cast_natAbs, abs_of_nonneg (not_lt.1 negative)]

/-- A rounding to a nearest integer which rounds the half below `2 ^ 96` upward. -/
structure RoundsToNearest (round : ℕ → ℕ → ℕ) : Prop where
  error : ∀ num den, 0 < den →
    2 * (round num den * den) ≤ 2 * num + den ∧ 2 * num ≤ 2 * (round num den * den) + den
  limit : ∀ num den, 0 < den → (2 ^ 96 ≤ round num den ↔ (2 ^ 97 - 1) * den ≤ 2 * num)

/-- Rounding halves upward does. -/
theorem roundsToNearest_roundHalfUp : RoundsToNearest roundHalfUp where
  error num den positive := by
    have bounds := (roundHalfUp_eq_iff positive).1 (Eq.refl (roundHalfUp num den))
    omega
  limit num den positive := by
    rw [roundHalfUp, Nat.le_div_iff_mul_le (by omega)]
    omega

/-- A half is rounded to the even integer beside it. -/
theorem roundHalfEven_of_half {num den n : ℕ} (positive : 0 < den)
    (half : 2 * num = (2 * n + 1) * den) : roundHalfEven num den = n + n % 2 := by
  have parts : 2 * num = 2 * (n * den) + den := by rw [half]; ring
  have quotient : num / den = n := by
    rw [Nat.div_eq_iff positive]
    omega
  have remainder : 2 * (num % den) = den := by
    have whole := Nat.div_add_mod' num den
    rw [quotient] at whole
    omega
  rw [roundHalfEven, quotient, remainder, if_neg (lt_irrefl _), if_neg (lt_irrefl _)]

/-- Rounding halves to even does, since the integer below that half is odd. -/
theorem roundsToNearest_roundHalfEven : RoundsToNearest roundHalfEven where
  error _ _ positive := roundHalfEven_error positive
  limit num den positive := by
    obtain ⟨fromAbove, fromBelow⟩ := @roundHalfEven_error num den positive
    constructor
    · intro large
      have scaled := Nat.mul_le_mul_right den large
      omega
    · intro large
      by_contra small
      have scaled : roundHalfEven num den * den ≤ (2 ^ 96 - 1) * den :=
        Nat.mul_le_mul_right den (by omega)
      have half := @roundHalfEven_of_half num den (2 ^ 96 - 1) positive (by omega)
      rw [half] at small
      omega

namespace Decimal

/-- The value is at least the half below `2 ^ 96` in size. -/
def Beyond (q : ℚ) : Prop := 2 ^ 96 - 1 / 2 ≤ |q|

/-- What an operation gives whose exact result is a certain value: nothing if the value is beyond
all decimals, and else a decimal at most half a unit away. -/
structure Approximates (q : ℚ) (found : Option Decimal) : Prop where
  none_iff : found = none ↔ Beyond q
  near : ∀ a, found = some a → |a.value - q| ≤ 1 / 2

section Fitting

variable {round : ℕ → ℕ → ℕ} (rounds : RoundsToNearest round) (negative : Bool) {num den scale : ℕ}

include rounds

/-- A ratio fits at no scale exactly if it does not fit as a whole number. -/
theorem fit?_eq_none_iff (positive : 0 < den) (bound : scale ≤ maxScale) :
    fit? round negative num den scale bound = none ↔ (2 ^ 97 - 1) * den ≤ 2 * num := by
  have refused {scale : ℕ} (bound : scale ≤ maxScale) :
      atScale? round negative num den scale bound = none ↔
        (2 ^ 97 - 1) * den ≤ 2 * (num * 10 ^ scale) := by
    rw [← rounds.limit _ _ positive, atScale?]
    simp
  induction scale with
  | zero => rw [fit?, refused bound, pow_zero, mul_one]
  | succ scale ih =>
    rw [fit?]
    cases taken : atScale? round negative num den (scale + 1) bound with
    | none => exact ih (Nat.le_of_succ_le bound)
    | some a =>
      -- what fits at a finer scale is small enough as a whole number
      have small := mt (refused bound).2 (taken ▸ Option.some_ne_none a)
      have grows : num ≤ num * 10 ^ (scale + 1) := Nat.le_mul_of_pos_right num (by positivity)
      exact iff_of_false (Option.some_ne_none a) (by omega)

/-- A ratio that fits is given at some scale by rounding. -/
theorem coefficient_of_fit? (positive : 0 < den) {bound : scale ≤ maxScale} {a : Decimal}
    (taken : fit? round negative num den scale bound = some a) :
    a.coefficient = signed negative (round (num * 10 ^ a.scale) den : ℤ) := by
  have notBeyond := mt (fit?_eq_none_iff rounds negative positive bound).2
    (taken ▸ Option.some_ne_none a)
  have small : round (num * 10 ^ 0) den < 2 ^ 96 := by
    rw [pow_zero, mul_one]
    exact not_le.1 (mt (rounds.limit num den positive).1 notBeyond)
  obtain ⟨other, found, -, -, coefficient⟩ := fit?_eq negative bound (Nat.zero_le scale) small
  obtain rfl : a = other := Option.some.inj (taken.symm.trans found)
  exact coefficient

/-- A ratio is given up to half a unit unless it is beyond all decimals. -/
theorem approximates_fit? (positive : 0 < den) (bound : scale ≤ maxScale) :
    Approximates (signed negative ((num : ℚ) / den)) (fit? round negative num den scale bound) := by
  have someDen : (0 : ℚ) < den := by exact_mod_cast positive
  refine ⟨?_, fun a taken => ?_⟩
  · rw [fit?_eq_none_iff rounds negative positive bound, Beyond, abs_signed _ (by positivity),
      le_div_iff₀ someDen]
    have limit : ((2 ^ 97 - 1 : ℕ) : ℚ) = 2 * (2 ^ 96 - 1 / 2) := by norm_num
    rw [← Nat.cast_le (α := ℚ), Nat.cast_mul, Nat.cast_mul, limit, Nat.cast_ofNat, mul_assoc,
      mul_le_mul_iff_right₀ two_pos]
  · have power : (0 : ℚ) < (10 ^ a.scale : ℕ) := by positivity
    have coefficient := coefficient_of_fit? rounds negative positive taken
    obtain ⟨fromAbove, fromBelow⟩ := rounds.error (num * 10 ^ a.scale) den positive
    rw [value_eq_signed coefficient, abs_signed_sub]
    generalize round (num * 10 ^ a.scale) den = size at fromAbove fromBelow
    have upper : (2 * (size * den) : ℚ) ≤ 2 * (num * (10 ^ a.scale : ℕ)) + den := by
      exact_mod_cast fromAbove
    have lower : (2 * (num * (10 ^ a.scale : ℕ)) : ℚ) ≤ 2 * (size * den) + den := by
      exact_mod_cast fromBelow
    have unit : (den : ℚ) ≤ (10 ^ a.scale : ℕ) * den :=
      le_mul_of_one_le_left someDen.le (by exact_mod_cast Nat.one_le_pow _ _ (by decide))
    have some := mul_pos power someDen
    rw [div_sub_div _ _ power.ne' someDen.ne', abs_div, abs_of_pos some, div_le_iff₀ some, abs_le]
    constructor <;> linarith

end Fitting

/-- A numeral is taken up to half a unit. -/
theorem approximates_ofNumeral? (negative : Bool) (n : Numeral) :
    Approximates (signed negative
      ((n.digits * 10 ^ n.exponent.toNat : ℕ) / (10 ^ (-n.exponent).toNat : ℕ)))
      (ofNumeral? negative n) :=
  approximates_fit? roundsToNearest_roundHalfUp negative (Nat.pow_pos (by decide)) _

/-- The text of a finite number is taken up to half a unit. -/
theorem approximates_ofBinary64? {x : Binary64} (finite : x.isFinite = true) :
    Approximates (textValue x.display) (ofBinary64? x) := by
  rw [Binary64.textValue_display finite, ofBinary64?, if_pos finite]
  exact approximates_ofNumeral? x.isNegative (x.shortest .up)

/-- A sum is given up to half a unit. -/
theorem approximates_add? (a b : Decimal) : Approximates (a.value + b.value) (a.add? b) := by
  have exact (c : Decimal) : (c.finest : ℚ) = c.value * 10 ^ maxScale := by
    have fine : c.scale ≤ maxScale := c.scale_le
    rw [finest_eq fine (le_refl maxScale), Nat.sub_self, pow_zero, mul_one, cast_aligned fine]
  have power : ((Nat.pow 10 maxScale : ℕ) : ℚ) = 10 ^ maxScale := by
    rw [Nat.pow_eq, Nat.cast_pow, Nat.cast_ofNat]
  have value : a.value + b.value = signed (decide (a.finest + b.finest < 0))
      (((a.finest + b.finest).natAbs : ℚ) / (Nat.pow 10 maxScale : ℕ)) := by
    rw [signed_natAbs_div, power, eq_div_iff (by positivity), Int.cast_add, exact, exact, add_mul]
  rw [value]
  exact approximates_fit? roundsToNearest_roundHalfEven _ (Nat.pow_pos (by decide)) _

/-- A quotient is given up to half a unit. -/
theorem approximates_divNat? (a : Decimal) {n : ℕ} (positive : 0 < n) :
    Approximates (a.value / n) (a.divNat? n) := by
  rw [value_div_natCast, divNat?, if_neg positive.ne']
  exact approximates_fit? roundsToNearest_roundHalfEven _
    (Nat.mul_pos (Nat.pow_pos (by decide)) positive) _

/-- A decimal is below `2 ^ 96` by a whole unit at least. -/
theorem abs_value_le (a : Decimal) : |a.value| ≤ 2 ^ 96 - 1 := by
  have small : (a.coefficient.natAbs : ℚ) ≤ 2 ^ 96 - 1 := by
    have fits : a.coefficient.natAbs ≤ 2 ^ 96 - 1 := Nat.le_sub_one_of_lt a.fits
    have limit : ((2 ^ 96 - 1 : ℕ) : ℚ) = 2 ^ 96 - 1 := by norm_num
    rw [← limit]
    exact_mod_cast fits
  rw [abs_value]
  exact (div_le_self (by positivity) (one_le_pow₀ (by norm_num))).trans small

/-- A quotient by a positive number always fits. -/
theorem isSome_divNat? (a : Decimal) {n : ℕ} (positive : 0 < n) : (a.divNat? n).isSome = true := by
  rw [Option.isSome_iff_ne_none, ne_eq, (approximates_divNat? a positive).none_iff, Beyond, abs_div,
    Nat.abs_cast, not_le]
  have one : (1 : ℚ) ≤ n := by exact_mod_cast positive
  have bounded := (div_le_self (abs_nonneg a.value) one).trans a.abs_value_le
  linarith

end Decimal
end Campus
