/-!
# Binary64 words

A binary64 number is its 64-bit word: a sign bit, eleven exponent bits and fifty-two fraction bits.
The low sixty-three bits read as a natural number are the *magnitude*, and magnitudes order the
absolute values: a larger magnitude below the infinity word is a larger absolute value. The signed
magnitude (`key`) therefore orders all numbers, with both zeros on one key. Everything here is exact
arithmetic on the word, so each rule can be reasoned about without a machine float.
-/

namespace Campus

/-- An IEEE 754 binary64 number, given by its word. Two numbers are equal as data exactly when their
words are, so NaN payloads and the two zeros are told apart. -/
structure Binary64 where
  /-- Sign, exponent and fraction, from the highest bit down. -/
  bits : UInt64
deriving DecidableEq, Inhabited

namespace Binary64

/-- The word as a natural number. -/
def word (x : Binary64) : Nat := x.bits.toNat

/-- The sign bit is the highest one; it is meaningful for zeros and NaNs too. -/
def isNegative (x : Binary64) : Bool := 0x8000000000000000 ≤ x.word

/-- The word without its sign bit. -/
def magnitude (x : Binary64) : Nat := x.word % 0x8000000000000000

/-- The magnitude shared by both infinities: every exponent bit set, no fraction bit. -/
def infinityMagnitude : Nat := 0x7FF0000000000000

/-- A number is NaN when its magnitude lies above infinity. -/
def isNaN (x : Binary64) : Bool := infinityMagnitude < x.magnitude

/-- Finite numbers lie below infinity. -/
def isFinite (x : Binary64) : Bool := x.magnitude < infinityMagnitude

/-- Either zero. -/
def isZero (x : Binary64) : Bool := x.magnitude == 0

/-- The number with a given sign and magnitude. -/
def ofMagnitude (negative : Bool) (magnitude : Nat) : Binary64 :=
  ⟨UInt64.ofNat ((if negative then 0x8000000000000000 else 0) + magnitude % 0x8000000000000000)⟩

/-- The infinity of the given sign. -/
def infinity (negative : Bool) : Binary64 := ofMagnitude negative infinityMagnitude

/-- The quiet NaN of the given sign. -/
def nan (negative : Bool) : Binary64 := ofMagnitude negative 0x7FF8000000000000

/-- Zero without a sign. -/
def zero : Binary64 := ⟨0⟩

/-- Zero without a sign is the zero. -/
instance : Zero Binary64 := ⟨zero⟩

/-- The absolute value has the same magnitude and no sign. -/
def abs (x : Binary64) : Binary64 := ofMagnitude false x.magnitude

/-- The signed magnitude. Both zeros have key zero, and finite numbers and infinities have the order
of their keys. -/
def key (x : Binary64) : Int := if x.isNegative then -(x.magnitude : Int) else x.magnitude

/-- Numerical equality: no NaN equals anything, and the two zeros are equal. -/
def equals (x y : Binary64) : Bool := !x.isNaN && !y.isNaN && x.key == y.key

/-- Strict numerical order, false when either side is NaN. -/
def less (x y : Binary64) : Bool := !x.isNaN && !y.isNaN && x.key < y.key

/-- The numerical comparison, absent when either side is NaN. -/
def compare? (x y : Binary64) : Option Ordering :=
  if x.isNaN || y.isNaN then none else some (compare x.key y.key)

/-- The larger of two numbers; a NaN gives way to the other side. -/
def max (x y : Binary64) : Binary64 :=
  if x.isNaN then y else if y.isNaN then x else if x.key < y.key then y else x

/-- The smaller of two numbers; a NaN gives way to the other side. -/
def min (x y : Binary64) : Binary64 :=
  if x.isNaN then y else if y.isNaN then x else if y.key < x.key then y else x

/-- The biased exponent field, above the fifty-two bits of the fraction. -/
def exponentField (x : Binary64) : Nat := x.magnitude / 0x10000000000000

/-- The fraction field, the lowest fifty-two bits. -/
def fraction (x : Binary64) : Nat := x.magnitude % 0x10000000000000

/-- The power of two of a significand's unit, counted in grains. -/
def unitExponent (x : Binary64) : Nat := x.exponentField - 1

/-- The integer significand: the implicit bit is present unless the exponent field is zero. -/
def significand (x : Binary64) : Nat :=
  if x.exponentField = 0 then x.fraction else 0x10000000000000 + x.fraction

/-- The absolute value of a finite number counted in grains of `2 ^ -1074`, which divide every
finite number. -/
def grains (x : Binary64) : Nat := x.significand * Nat.pow 2 x.unitExponent

/-- How many grains make one. -/
def grainsPerOne : Nat := Nat.pow 2 1074

/-- A finite number without a fractional part. -/
def isIntegral (x : Binary64) : Bool :=
  x.isFinite && x.grains % grainsPerOne == 0

/-- The integer part of a finite number, toward zero. -/
def truncate (x : Binary64) : Int :=
  let whole := x.grains / grainsPerOne
  if x.isNegative then -(whole : Int) else whole

/-- The absolute value is built from the magnitude. -/
@[simp] theorem abs_eq_ofMagnitude (x : Binary64) : x.abs = ofMagnitude false x.magnitude := rfl

/-- A magnitude always leaves the sign bit free. -/
theorem magnitude_lt (x : Binary64) : x.magnitude < 0x8000000000000000 := Nat.mod_lt _ (by decide)

/-- The word built from a sign and a magnitude carries that magnitude. -/
theorem magnitude_ofMagnitude (negative : Bool) {m : Nat} (fits : m < 0x8000000000000000) :
    (ofMagnitude negative m).magnitude = m := by
  unfold magnitude word ofMagnitude
  simp only [UInt64.toNat_ofNat', Nat.mod_eq_of_lt fits]
  cases negative <;> simp <;> omega

/-- The word built from a sign and a magnitude carries that sign. -/
theorem isNegative_ofMagnitude (negative : Bool) {m : Nat} (fits : m < 0x8000000000000000) :
    (ofMagnitude negative m).isNegative = negative := by
  unfold isNegative word ofMagnitude
  simp only [UInt64.toNat_ofNat', Nat.mod_eq_of_lt fits]
  cases negative <;> simp <;> omega

/-- Sign and magnitude determine the number. -/
theorem ofMagnitude_isNegative_magnitude (x : Binary64) :
    ofMagnitude x.isNegative x.magnitude = x := by
  cases x with
  | mk bits =>
    have bound : bits.toNat < 0x10000000000000000 := bits.toNat_lt
    unfold ofMagnitude isNegative magnitude word
    congr 1
    apply UInt64.toNat.inj
    simp only [UInt64.toNat_ofNat']
    by_cases high : 0x8000000000000000 ≤ bits.toNat
    · simp only [high, decide_true, ↓reduceIte]; omega
    · simp only [high, decide_false, Bool.false_eq_true, ↓reduceIte]; omega

/-- The numerical comparison turns around when its sides are swapped. -/
theorem compare?_swap (x y : Binary64) : y.compare? x = (x.compare? y).map Ordering.swap := by
  unfold compare?
  rw [Bool.or_comm y.isNaN]
  split
  · rfl
  · have turned : compare y.key x.key = (compare x.key y.key).swap := Std.OrientedOrd.eq_swap
    simp [turned]

end Binary64
end Campus
