import Campus.Number.Binary64
/-!
# Rounding to binary64

`Binary64.ofRatio` is the binary64 number nearest to an exact ratio of natural numbers, ties to the
even significand, overflowing to infinity. Every conversion into binary64 in this library goes
through it, so each of them is correctly rounded by construction. The magnitude word of a rounded
significand is a plain sum: a carry out of the significand steps the exponent field by itself.
-/

namespace Campus

/-- The quotient rounded to the nearest natural number, ties to even. -/
def roundHalfEven (num den : Nat) : Nat :=
  let quotient := num / den
  let remainder := num % den
  if 2 * remainder < den then quotient
  else if den < 2 * remainder then quotient + 1
  else quotient + quotient % 2

/-- The quotient rounded to the nearest natural number, ties upward. -/
def roundHalfUp (num den : Nat) : Nat := (2 * num + den) / (2 * den)

/-- An exact quotient is kept. -/
theorem roundHalfEven_mul {den : Nat} (positive : 0 < den) (n : Nat) :
    roundHalfEven (n * den) den = n := by
  simp [roundHalfEven, Nat.mul_div_cancel _ positive, positive]

/-- Rounding moves by at most half a unit, stated without division. -/
theorem roundHalfEven_error {num den : Nat} (positive : 0 < den) :
    2 * (roundHalfEven num den * den) ≤ 2 * num + den ∧
      2 * num ≤ 2 * (roundHalfEven num den * den) + den := by
  have parts := Nat.div_add_mod num den
  have small := Nat.mod_lt num positive
  have commuted : num / den * den = den * (num / den) := Nat.mul_comm _ _
  unfold roundHalfEven
  dsimp only
  split
  · constructor <;> omega
  · split
    · rw [Nat.add_mul]; constructor <;> omega
    · rcases Nat.mod_two_eq_zero_or_one (num / den) with even | odd
      · rw [even, Nat.add_zero]; constructor <;> omega
      · rw [odd, Nat.add_mul]; constructor <;> omega

namespace Binary64

/-- The unit exponent, in grains, of the significand that holds a whole number of grains: zero while
fifty-three bits suffice, then one more for each further bit. -/
def unitExponentOf (wholeGrains : Nat) : Nat := Nat.log2 wholeGrains - 52

/-- The nearest magnitude to `num / den`, ties to even, infinity when none is near. -/
def nearestMagnitude (num den : Nat) : Nat :=
  let scaled := num * grainsPerOne
  let unit := unitExponentOf (scaled / den)
  Nat.min infinityMagnitude (unit * 0x10000000000000 + roundHalfEven scaled (den * Nat.pow 2 unit))

/-- The binary64 number nearest to `± num / den`, ties to even. -/
def ofRatio (negative : Bool) (num den : Nat) : Binary64 :=
  ofMagnitude negative (nearestMagnitude num den)

/-- The binary64 number nearest to a natural number. -/
def ofNat (n : Nat) : Binary64 := ofRatio false n 1

/-- The binary64 number nearest to an integer. -/
def ofInt (n : Int) : Binary64 := ofRatio (n < 0) n.natAbs 1

/-- Rounding never leaves the range of magnitudes up to infinity. -/
theorem nearestMagnitude_le (num den : Nat) : nearestMagnitude num den ≤ infinityMagnitude :=
  Nat.min_le_left _ _

end Binary64
end Campus
