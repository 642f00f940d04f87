import Campus.Number.Numeral
/-!
# Ninety-six-bit decimals

A decimal is an integer coefficient of at most ninety-six bits over a power of ten up to `10 ^ 28`.
Sums of recorded numbers are taken here, so that `0.1 + 0.2` is `0.3`. Every operation computes its
exact result and keeps the finest scale at which the coefficient fits; when a scale has to be given
up the coefficient is rounded, and when even whole numbers do not fit there is no result.
-/

namespace Campus

/-- The number `coefficient / 10 ^ scale`. -/
structure Decimal where
  /-- All digits with their sign. -/
  coefficient : Int
  /-- How many of the digits stand after the point. -/
  scale : Nat
  /-- The digits fit in ninety-six bits. -/
  fits : coefficient.natAbs < 0x1000000000000000000000000
  /-- At most twenty-eight places are kept. -/
  scale_le : scale ≤ 28
deriving DecidableEq

namespace Decimal

/-- The finest scale a decimal can have. -/
def maxScale : Nat := 28

/-- The number zero. -/
def zero : Decimal := ⟨0, 0, by decide, by decide⟩

/-- The value `± num / den` at one scale, if its rounded coefficient fits. -/
def atScale? (round : Nat → Nat → Nat) (negative : Bool) (num den scale : Nat)
    (bound : scale ≤ maxScale) : Option Decimal :=
  let size := round (num * Nat.pow 10 scale) den
  if small : size < 0x1000000000000000000000000 then
    some
      { coefficient := if negative then -(size : Int) else size
        scale := scale
        fits := by cases negative <;> simpa using small
        scale_le := bound }
  else none

/-- The value `± num / den` at the finest scale, not above the given one, whose rounded coefficient
fits. -/
def fit? (round : Nat → Nat → Nat) (negative : Bool) (num den : Nat) :
    (scale : Nat) → scale ≤ maxScale → Option Decimal
  | 0, bound => atScale? round negative num den 0 bound
  | coarser + 1, bound =>
    match atScale? round negative num den (coarser + 1) bound with
    | some value => some value
    | none => fit? round negative num den coarser (Nat.le_of_succ_le bound)

/-- A signed numeral. Places beyond the twenty-eighth are rounded away, halves upward in absolute
value; whole numbers that do not fit are refused. -/
def ofNumeral? (negative : Bool) (n : Numeral) : Option Decimal :=
  let places := (-n.exponent).toNat
  fit? roundHalfUp negative (n.digits * Nat.pow 10 n.exponent.toNat) (Nat.pow 10 places)
    (Nat.min places maxScale) (Nat.min_le_right _ _)

/-- The decimal a binary64 number's shortest digits spell; NaN and infinities spell none. -/
def ofBinary64? (x : Binary64) : Option Decimal :=
  if x.isFinite then ofNumeral? x.isNegative (x.shortest .up) else none

/-- The coefficient this decimal would have at the finest scale. -/
def finest (a : Decimal) : Int := a.coefficient * Nat.pow 10 (maxScale - a.scale)

/-- The sum, at the finer of the two scales if it fits there. -/
def add? (a b : Decimal) : Option Decimal :=
  let total := a.finest + b.finest
  fit? roundHalfEven (total < 0) total.natAbs (Nat.pow 10 maxScale) (Nat.max a.scale b.scale)
    (Nat.max_le.2 ⟨a.scale_le, b.scale_le⟩)

/-- The quotient by a natural number, to as many places as fit. -/
def divNat? (a : Decimal) (n : Nat) : Option Decimal :=
  if n = 0 then none
  else
    fit? roundHalfEven (a.coefficient < 0) a.coefficient.natAbs (Nat.pow 10 a.scale * n) maxScale
      (Nat.le_refl _)

/-- The coefficient after rounding to two places, halves away from zero. -/
def hundredths (a : Decimal) : Int :=
  let size := roundHalfUp (a.coefficient.natAbs * 100) (Nat.pow 10 a.scale)
  if a.coefficient < 0 then -(size : Int) else size

/-- The number rounded to two places, halves away from zero, as the nearest binary64 number. -/
def toCents (a : Decimal) : Binary64 :=
  let cents := a.hundredths
  (Numeral.mk cents.natAbs (-2)).toBinary64 (cents < 0)

end Decimal
end Campus
