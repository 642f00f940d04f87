import Campus.Number.Rounding
/-!
# Scaling by powers of ten

An integer is scaled by a power of ten in binary64 arithmetic: it is rounded, and then multiplied or
divided by the power, which rounds again. So the outcome need not be the number nearest to the exact
value. Only powers up to `10 ^ 308` are at hand, as the numbers nearest to them; by larger ones is
divided in several steps.
-/

namespace Campus.Binary64

/-- The product of two finite numbers, rounded. -/
def mul (x y : Binary64) : Binary64 :=
  ofRatio (x.isNegative != y.isNegative) (x.grains * y.grains) (grainsPerOne * grainsPerOne)

/-- The quotient of two finite numbers, rounded; the divisor is not zero. -/
def div (x y : Binary64) : Binary64 := ofRatio (x.isNegative != y.isNegative) x.grains y.grains

/-- The exponent of the largest power of ten at hand. -/
def largestPower : Nat := 308

/-- The number nearest to a power of ten. -/
def powerOfTen (exponent : Nat) : Binary64 := ofNat (Nat.pow 10 exponent)

/-- Divide by the largest power of ten at hand so many times, or until zero is reached. -/
def divideByLargest (x : Binary64) : (times : Nat) → Binary64
  | 0 => x
  | times + 1 => if x.isZero then x else (x.div (powerOfTen largestPower)).divideByLargest times

/-- Divide by a power of ten: by the largest one at hand as often as there is something left to
divide by, and at last by the rest. -/
def divideByPower (x : Binary64) (exponent : Nat) : Binary64 :=
  let times := (exponent - 1) / largestPower
  (x.divideByLargest times).div (powerOfTen (exponent - times * largestPower))

/-- A natural number scaled by a power of ten, unless this leads out of the finite range. Zero is
never too large. -/
def scale? (n : Nat) (exponent : Int) : Option Binary64 :=
  let x := ofNat n
  if exponent < 0 then some (x.divideByPower (-exponent).toNat)
  else if largestPower < exponent then if x.isZero then some x else none
  else
    let product := x.mul (powerOfTen exponent.toNat)
    if product.isFinite then some product else none

end Campus.Binary64
