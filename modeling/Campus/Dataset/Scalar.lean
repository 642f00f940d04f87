import Campus.Number.Numeral
/-!
# Scalars

A record holds numbers and texts. Three relations on them are kept apart: numerical or textual
equality, under which NaN differs from itself; the grouping key, under which the two zeros fall
together and NaNs are told apart by their words; and the sorting comparison, which always answers.
-/

namespace Campus

/-- A value in a record. -/
inductive Scalar
  | number (value : Binary64)
  | text (value : String)
deriving DecidableEq

namespace Scalar

/-- The number, if it is one. -/
def asNumber? : Scalar → Option Binary64
  | number value => some value
  | text _ => none

/-- The text, if it is one. -/
def asText? : Scalar → Option String
  | number _ => none
  | text value => some value

/-- Plain text: numbers with their fewest digits and no exponent. -/
def display : Scalar → String
  | number value => value.display
  | text value => value

/-- Equality of values: numbers numerically, texts by their characters. -/
def equals : Scalar → Scalar → Bool
  | number x, number y => x.equals y
  | text s, text t => s == t
  | _, _ => false

/-- The representative under which a value is grouped and counted: both zeros have one. -/
def groupKey : Scalar → Scalar
  | number value => if value.isZero then number 0 else number value
  | text value => text value

/-- The sorting comparison: numbers numerically with NaN on a level with everything, texts by their
characters, and a number against a text by what they display. -/
def compare : Scalar → Scalar → Ordering
  | number x, number y => (x.compare? y).getD .eq
  | text s, text t => Ord.compare s t
  | left, right => Ord.compare left.display right.display

end Scalar
end Campus
