import Campus.Dataset.Written
import Campus.Proofs.Dataset.Shape
import Campus.Proofs.Number.Exactness
/-!
# Records up to the sign of zeros

A zero is written without its sign, and this is all that the written form of a finite number loses.
So a dataset that was written and read has its zeros replaced by the positive one. Nothing that a
number is compared, counted, or written by tells the two zeros apart.
-/

namespace Campus

namespace Binary64

variable (x y : Binary64)

/-- The number with the sign of a zero dropped. -/
def normalize : Binary64 := if x.isZero then 0 else x

/-- Dropping the sign of a zero leaves the magnitude. -/
@[simp]
theorem magnitude_normalize : x.normalize.magnitude = x.magnitude := by
  unfold normalize
  split
  · next zero =>
    rw [eq_of_beq zero]
    decide
  · rfl

/-- Dropping the sign of a zero leaves the place in the numerical order. -/
@[simp]
theorem key_normalize : x.normalize.key = x.key := by
  unfold normalize
  split
  · next zero =>
    rw [key.eq_def x, eq_of_beq zero]
    split <;> rfl
  · rfl

/-- A zero stays one, and no other number becomes one. -/
@[simp]
theorem isZero_normalize : x.normalize.isZero = x.isZero := by
  rw [isZero, isZero, magnitude_normalize]

/-- Dropping the sign of a zero makes no NaN. -/
@[simp]
theorem isNaN_normalize : x.normalize.isNaN = x.isNaN := by
  rw [isNaN, isNaN, magnitude_normalize]

/-- Dropping the sign of a zero leaves finite numbers finite. -/
@[simp]
theorem isFinite_normalize : x.normalize.isFinite = x.isFinite := by
  rw [isFinite, isFinite, magnitude_normalize]

/-- Once the sign of a zero is dropped there is nothing more to drop. -/
@[simp]
theorem normalize_normalize : x.normalize.normalize = x.normalize := by
  rw [normalize, isZero_normalize]
  split
  · next zero => rw [normalize, if_pos zero]
  · rfl

/-- Equality does not see the sign of a zero. -/
@[simp]
theorem equals_normalize : x.normalize.equals y = x.equals y := by
  simp only [equals, isNaN_normalize, key_normalize]

/-- The order does not see the sign of a zero on its left. -/
@[simp]
theorem less_normalize_left : x.normalize.less y = x.less y := by
  simp only [less, isNaN_normalize, key_normalize]

/-- The order does not see the sign of a zero on its right. -/
@[simp]
theorem less_normalize_right : x.less y.normalize = x.less y := by
  simp only [less, isNaN_normalize, key_normalize]

/-- The comparison does not see the signs of zeros. -/
@[simp]
theorem compare?_normalize : x.normalize.compare? y.normalize = x.compare? y := by
  simp only [compare?, isNaN_normalize, key_normalize]

/-- The larger of two numbers without signs of zeros. -/
theorem max_normalize : max x.normalize y.normalize = (max x y).normalize := by
  simp only [max, isNaN_normalize, key_normalize]
  split
  · rfl
  · split
    · rfl
    · split <;> rfl

/-- The smaller of two numbers without signs of zeros. -/
theorem min_normalize : min x.normalize y.normalize = (min x y).normalize := by
  simp only [min, isNaN_normalize, key_normalize]
  split
  · rfl
  · split
    · rfl
    · split <;> rfl

end Binary64

namespace Scalar

/-- The grouping key of a number drops the sign of a zero. -/
@[simp]
theorem groupKey_number (x : Binary64) : (number x).groupKey = number x.normalize := by
  rw [groupKey, Binary64.normalize]
  split <;> rfl

/-- The grouping key of a text is the text. -/
@[simp]
theorem groupKey_text (s : String) : (text s).groupKey = text s := rfl

/-- The grouping key of a grouping key is the same. -/
@[simp]
theorem groupKey_groupKey (value : Scalar) : value.groupKey.groupKey = value.groupKey := by
  cases value <;> simp

/-- Every zero is written as the integer zero. -/
theorem toJson_of_isZero {x : Binary64} (zero : x.isZero = true) :
    (number x).toJson = .number (.integer 0) := by
  have noMagnitude : x.magnitude = 0 := eq_of_beq zero
  have noGrains := Binary64.grains_eq_zero_iff.2 zero
  have integral : x.isIntegral = true := by
    rw [Binary64.isIntegral, Binary64.isFinite, noMagnitude, noGrains, Nat.zero_mod]
    decide
  have below : x.abs.less integerBound = true := by
    rw [Binary64.abs, noMagnitude]
    decide +kernel
  have none : x.truncate = 0 := by
    rw [Binary64.truncate, noGrains, Nat.zero_div]
    split <;> rfl
  rw [toJson, integral, below, none]
  rfl

/-- A value and its grouping key are written alike. -/
@[simp]
theorem toJson_groupKey (value : Scalar) : value.groupKey.toJson = value.toJson := by
  cases value with
  | text => rfl
  | number x =>
    rw [groupKey_number, Binary64.normalize]
    split
    · next zero => rw [toJson_of_isZero zero, toJson_of_isZero (by decide)]
    · rfl

/-- A value and its grouping key are of one class. -/
@[simp]
theorem fieldClass_groupKey (value : Scalar) : value.groupKey.fieldClass = value.fieldClass := by
  cases value <;> simp [fieldClass]

end Scalar

namespace Record

/-- The record with the signs of its zeros dropped. -/
def normalize (record : Record) : Record := record.map Scalar.groupKey

/-- What a record holds without signs of zeros. -/
@[simp]
theorem get?_normalize (record : Record) (key : String) :
    record.normalize.get? key = (record.get? key).map Scalar.groupKey :=
  Keyed.get?_map _ _ key

/-- Once the signs of zeros are dropped there is nothing more to drop. -/
@[simp]
theorem normalize_normalize (record : Record) : record.normalize.normalize = record.normalize := by
  ext1 key
  simp only [get?_normalize, Option.map_map, Function.comp_def, Scalar.groupKey_groupKey]

/-- A record is written the same with and without signs of zeros. -/
@[simp]
theorem toJson_normalize (record : Record) : record.normalize.toJson = record.toJson := by
  unfold normalize toJson Keyed.map
  simp only [List.map_map, Function.comp_def, Scalar.toJson_groupKey]

end Record

namespace Dataset

/-- The dataset with the signs of its zeros dropped. -/
def normalize (d : Dataset) : Dataset := { d with data := d.data.map Record.normalize }

/-- Once the signs of zeros are dropped there is nothing more to drop. -/
@[simp]
theorem normalize_normalize (d : Dataset) : d.normalize.normalize = d.normalize := by
  simp only [normalize, List.map_map, Function.comp_def, Record.normalize_normalize]

/-- A listing does not show the signs of zeros. -/
@[simp]
theorem summary_normalize (d : Dataset) : d.normalize.summary = d.summary := rfl

/-- A dataset is written the same with and without signs of zeros. -/
@[simp]
theorem toJson_normalize (d : Dataset) : d.normalize.toJson = d.toJson := by
  unfold normalize toJson
  simp only [List.map_map, Function.comp_def, Record.toJson_normalize]

end Dataset
end Campus
