import Campus.Dataset.Scalar
import Mathlib.Data.Set.CoeSort
import Mathlib.Data.String.Basic
/-!
# The sorting comparison of values

Values can be put in order if their comparison is a preorder: it turns around with its sides, and
what does not stand after a value that does not stand after a third does not stand after the third.
The comparison always turns around. The other law holds among texts and among numbers other than
NaN, but not among all values: a NaN is on a level with numbers that differ, and a number meets a
text by its display, where ten comes before nine. The main statement says among which values the law
holds.
-/

namespace Campus

namespace Binary64

variable {x y z : Binary64}

/-- One number is less than another when neither is NaN and the keys ascend. -/
theorem less_iff : x.less y = true ↔ x.isNaN = false ∧ y.isNaN = false ∧ x.key < y.key := by
  simp [less, and_assoc]

/-- What is not above a number that is not above a third is not above the third, unless the number
between them is NaN. -/
theorem less_eq_false_trans (between : y.isNaN = false) (first : y.less x = false)
    (second : z.less y = false) : z.less x = false := by
  rw [Bool.eq_false_iff, ne_eq, less_iff] at first second ⊢
  rintro ⟨lower, upper, descends⟩
  have high : ¬y.key < x.key := fun less => first ⟨between, upper, less⟩
  have low : ¬z.key < y.key := fun less => second ⟨lower, between, less⟩
  omega

end Binary64

namespace Scalar

variable {x y : Binary64} {s t : String}

/-- The comparison turns around with its sides. -/
theorem compare_swap (a b : Scalar) : a.compare b = (b.compare a).swap := by
  cases a with
  | number x =>
    cases b with
    | number y =>
      rw [compare, compare, Binary64.compare?_swap y x]
      cases y.compare? x <;> rfl
    | text t => exact Std.OrientedOrd.eq_swap
  | text s =>
    cases b with
    | number y => exact Std.OrientedOrd.eq_swap
    | text t => exact Std.OrientedOrd.eq_swap

/-- A number stands after another when it is greater. -/
theorem compare_number_eq_gt_iff :
    (number x).compare (number y) = .gt ↔ y.less x = true := by
  rw [compare, Binary64.compare?, Binary64.less_iff]
  by_cases missing : x.isNaN || y.isNaN
  · rw [if_pos missing]
    have lost : ¬(y.isNaN = false ∧ x.isNaN = false ∧ y.key < x.key) := by
      rintro ⟨second, first, _⟩
      rw [first, second] at missing
      cases missing
    exact iff_of_false (by simp) lost
  · obtain ⟨first, second⟩ := Bool.or_eq_false_iff.1 (Bool.eq_false_iff.2 missing)
    rw [if_neg missing, Option.getD_some, Std.compare_eq_gt]
    exact ⟨fun descends => ⟨second, first, descends⟩, fun greater => greater.2.2⟩

/-- A number stands before another when it is less. -/
theorem compare_number_eq_lt_iff :
    (number x).compare (number y) = .lt ↔ x.less y = true := by
  rw [compare_swap, Ordering.swap_eq_lt, compare_number_eq_gt_iff]

/-- A text is compared with the display of any value. -/
theorem compare_text_left (s : String) (value : Scalar) :
    (text s).compare value = Ord.compare s value.display := by
  cases value <;> rfl

/-- The display of any value is compared with a text. -/
theorem compare_text_right (value : Scalar) (t : String) :
    value.compare (text t) = Ord.compare value.display t := by
  cases value <;> rfl

/-- Numbers are on a level when neither is less. -/
theorem compare_number_eq_eq_iff :
    (number x).compare (number y) = .eq ↔ x.less y = false ∧ y.less x = false := by
  rw [Bool.eq_false_iff, Bool.eq_false_iff, ne_eq, ne_eq, ← compare_number_eq_lt_iff,
    ← compare_number_eq_gt_iff]
  cases (number x).compare (number y) <;> simp

/-- Numbers other than NaN are on a level when they are equal. -/
theorem compare_number_eq_eq_iff_equals (left : x.isNaN = false) (right : y.isNaN = false) :
    (number x).compare (number y) = .eq ↔ x.equals y = true := by
  have equal : x.equals y = true ↔ x.key = y.key := by
    simp [Binary64.equals, left, right]
  rw [compare_number_eq_eq_iff, Bool.eq_false_iff, Bool.eq_false_iff, ne_eq, ne_eq,
    Binary64.less_iff, Binary64.less_iff, equal]
  simp only [left, right, true_and]
  omega

/-- A value does not stand after a text when its display does not. -/
theorem compare_text_right_ne_gt_iff {value : Scalar} :
    value.compare (text t) ≠ .gt ↔ value.display ≤ t := by
  rw [compare_text_right, ne_eq, compare_gt_iff_gt, not_lt]

/-- A text does not stand after a value when it does not stand after its display. -/
theorem compare_text_left_ne_gt_iff {value : Scalar} :
    (text s).compare value ≠ .gt ↔ s ≤ value.display := by
  rw [compare_text_left, ne_eq, compare_gt_iff_gt, not_lt]

/-- The second law of a preorder: what does not stand after a value that does not stand after a
third does not stand after the third. -/
def IsPreordered (values : Set Scalar) : Prop :=
  ∀ a ∈ values, ∀ b ∈ values, ∀ c ∈ values,
    a.compare b ≠ .gt → b.compare c ≠ .gt → a.compare c ≠ .gt

/-- Values of one class: texts only, or numbers other than NaN only. -/
def IsUniform (values : Set Scalar) : Prop :=
  (∀ value ∈ values, ∃ s, value = text s) ∨
    ∀ value ∈ values, ∃ x : Binary64, value = number x ∧ x.isNaN = false

/-- Two values of one class are two texts or two numbers other than NaN. -/
theorem IsUniform.pair {values : Set Scalar} (uniform : IsUniform values) {a b : Scalar}
    (first : a ∈ values) (second : b ∈ values) :
    (∃ s t, a = text s ∧ b = text t) ∨
      ∃ x y : Binary64, a = number x ∧ b = number y ∧ x.isNaN = false ∧ y.isNaN = false := by
  rcases uniform with texts | numbers
  · obtain ⟨s, left⟩ := texts a first
    obtain ⟨t, right⟩ := texts b second
    exact .inl ⟨s, t, left, right⟩
  · obtain ⟨x, left, someX⟩ := numbers a first
    obtain ⟨y, right, someY⟩ := numbers b second
    exact .inr ⟨x, y, left, right, someX, someY⟩

/-- Values among which comparing numbers and comparing displays do not contradict each other. -/
structure IsCoherent (values : Set Scalar) : Prop where
  /-- No NaN stands beside numbers that differ. -/
  numbers : ∀ x y nan, number x ∈ values → number y ∈ values → number nan ∈ values →
    nan.isNaN = true → x.less y = false
  /-- Every text stands alike to the displays of numbers on a level. -/
  level : ∀ x y t, number x ∈ values → number y ∈ values → text t ∈ values →
    (number x).compare (number y) = .eq → Ord.compare x.display t = Ord.compare y.display t
  /-- Numbers with a text between their displays have the order of these. -/
  between : ∀ x y t, number x ∈ values → number y ∈ values → text t ∈ values →
    x.display ≤ t → t ≤ y.display → y.less x = false

section

variable {values : Set Scalar}

/-- Among preordered values, two on a level compare alike with every third one. -/
theorem IsPreordered.compare_eq_of_level (preordered : IsPreordered values) {a b c : Scalar}
    (first : a ∈ values) (second : b ∈ values) (third : c ∈ values) (level : a.compare b = .eq) :
    a.compare c = b.compare c := by
  let held (left right : values) : Ordering := left.1.compare right.1
  have oriented : Std.OrientedCmp held := ⟨compare_swap _ _⟩
  have transitive : Std.TransCmp held := by
    refine ⟨fun {left middle right} ahead behind => ?_⟩
    rw [Ordering.isLE_iff_ne_gt] at ahead behind ⊢
    exact preordered left.1 left.2 middle.1 middle.2 right.1 right.2 ahead behind
  exact transitive.congr_left (a := ⟨a, first⟩) (b := ⟨b, second⟩) (c := ⟨c, third⟩) level

/-- Preordered values are coherent. -/
theorem IsPreordered.isCoherent (preordered : IsPreordered values) : IsCoherent values where
  numbers x y nan left right missing isNaN := by
    have upper : (number y).compare (number nan) ≠ .gt := by
      rw [ne_eq, compare_number_eq_gt_iff, Binary64.less_iff, isNaN]
      simp
    have lower : (number nan).compare (number x) ≠ .gt := by
      rw [ne_eq, compare_number_eq_gt_iff, Binary64.less_iff, isNaN]
      simp
    have notAfter := preordered _ right _ missing _ left upper lower
    rwa [ne_eq, compare_number_eq_gt_iff, Bool.not_eq_true] at notAfter
  level x y t left right third level := by
    have alike := preordered.compare_eq_of_level left right third level
    rwa [compare_text_right, compare_text_right] at alike
  between x y t left right third below above := by
    have notAfter := preordered _ left _ third _ right (compare_text_right_ne_gt_iff.2 below)
      (compare_text_left_ne_gt_iff.2 above)
    rwa [ne_eq, compare_number_eq_gt_iff, Bool.not_eq_true] at notAfter

/-- A text that does not stand after a number does not stand after one that is not less. -/
theorem IsCoherent.le_display (coherent : IsCoherent values) (third : text s ∈ values)
    (left : number x ∈ values) (right : number y ∈ values) (below : s ≤ x.display)
    (notLess : y.less x = false) : s ≤ y.display := by
  apply not_lt.1
  intro above
  have notGreater := coherent.between y x s right left third (le_of_lt above) below
  have level := compare_number_eq_eq_iff.2 ⟨notGreater, notLess⟩
  have alike := coherent.level x y s left right third level
  rw [compare_lt_iff_lt.2 above, compare_lt_iff_lt] at alike
  exact not_lt.2 below alike

/-- A number that is not greater than one whose display does not stand after a text does not stand
after the text. -/
theorem IsCoherent.display_le (coherent : IsCoherent values) (third : text t ∈ values)
    (left : number x ∈ values) (right : number y ∈ values) (above : y.display ≤ t)
    (notLess : y.less x = false) : x.display ≤ t := by
  apply not_lt.1
  intro below
  have notGreater := coherent.between y x t right left third above (le_of_lt below)
  have level := compare_number_eq_eq_iff.2 ⟨notGreater, notLess⟩
  have alike := coherent.level x y t left right third level
  rw [compare_gt_iff_gt.2 below] at alike
  exact not_lt.2 above (compare_gt_iff_gt.1 alike.symm)

/-- Coherent values are preordered. -/
theorem IsCoherent.isPreordered (coherent : IsCoherent values) : IsPreordered values := by
  intro a first b second c third ahead behind
  cases b with
  | text t =>
    rw [compare_text_right_ne_gt_iff] at ahead
    rw [compare_text_left_ne_gt_iff] at behind
    have through : a.display ≤ c.display := le_trans ahead behind
    cases a with
    | text s => exact compare_text_left_ne_gt_iff.2 through
    | number x =>
      cases c with
      | text u => exact compare_text_right_ne_gt_iff.2 through
      | number z =>
        rw [ne_eq, compare_number_eq_gt_iff, Bool.not_eq_true]
        exact coherent.between x z t first third second ahead behind
  | number y =>
    cases a with
    | text s =>
      rw [compare_text_left_ne_gt_iff] at ahead ⊢
      cases c with
      | text u => exact le_trans ahead (compare_text_right_ne_gt_iff.1 behind)
      | number z =>
        rw [ne_eq, compare_number_eq_gt_iff, Bool.not_eq_true] at behind
        exact coherent.le_display first second third ahead behind
    | number x =>
      rw [ne_eq, compare_number_eq_gt_iff, Bool.not_eq_true] at ahead
      cases c with
      | text u =>
        rw [compare_text_right_ne_gt_iff] at behind ⊢
        exact coherent.display_le third first second behind ahead
      | number z =>
        rw [ne_eq, compare_number_eq_gt_iff, Bool.not_eq_true] at behind ⊢
        by_cases isNaN : y.isNaN
        · exact coherent.numbers z x y third first second isNaN
        · exact Binary64.less_eq_false_trans (Bool.eq_false_iff.2 isNaN) ahead behind

/-- Values of one class are coherent: texts stand beside no number, numbers beside no NaN. -/
theorem IsUniform.isCoherent (uniform : IsUniform values) : IsCoherent values := by
  rcases uniform with texts | numbers
  · have absent (x : Binary64) : number x ∉ values := by
      intro member
      obtain ⟨s, same⟩ := texts _ member
      cases same
    exact ⟨fun x _ _ member => absurd member (absent x),
      fun x _ _ member => absurd member (absent x), fun x _ _ member => absurd member (absent x)⟩
  · have absent (s : String) : text s ∉ values := by
      intro member
      obtain ⟨x, same, _⟩ := numbers _ member
      cases same
    refine ⟨fun x y nan _ _ member isNaN => ?_, fun _ _ t _ _ member => absurd member (absent t),
      fun _ _ t _ _ member => absurd member (absent t)⟩
    obtain ⟨z, same, notNaN⟩ := numbers _ member
    cases same
    rw [isNaN] at notNaN
    cases notNaN

end

/-- The comparison of values turns around with its sides. It is a preorder among values exactly if
they are coherent, and then two on a level compare alike with every third one. Values of one class,
as a column of a dataset has them, are among these. -/
theorem compare_isPreorder :
    (∀ a b : Scalar, a.compare b = (b.compare a).swap) ∧
    ∀ values : Set Scalar, (IsPreordered values ↔ IsCoherent values) ∧
      (IsPreordered values → ∀ a ∈ values, ∀ b ∈ values, ∀ c ∈ values,
        a.compare b = .eq → a.compare c = b.compare c) ∧
      (IsUniform values → IsPreordered values) := by
  refine ⟨compare_swap, fun values => ⟨⟨?_, ?_⟩, ?_, ?_⟩⟩
  · exact IsPreordered.isCoherent
  · exact IsCoherent.isPreordered
  · intro preordered a first b second c third level
    exact preordered.compare_eq_of_level first second third level
  · exact fun uniform => uniform.isCoherent.isPreordered

/-- Both zeros and one. -/
def zerosAndOne : Set Scalar :=
  {value | value ∈ [number 0, number (.ofMagnitude true 0), number (.ofNat 1)]}

/-- Both zeros and one are preordered, and the zeros, which are on a level, compare alike with
one. -/
theorem isPreordered_zerosAndOne :
    IsUniform zerosAndOne ∧ IsPreordered zerosAndOne ∧
      (number 0).compare (number (.ofNat 1)) =
        (number (.ofMagnitude true 0)).compare (number (.ofNat 1)) := by
  have uniform : IsUniform zerosAndOne := by
    right
    intro value member
    have listed : value = number 0 ∨ value = number (.ofMagnitude true 0) ∨
        value = number (.ofNat 1) := by
      simpa [zerosAndOne] using member
    rcases listed with rfl | rfl | rfl
    · exact ⟨_, rfl, by decide⟩
    · exact ⟨_, rfl, by decide⟩
    · exact ⟨_, rfl, by decide +kernel⟩
  obtain ⟨_, alike, ofClass⟩ := compare_isPreorder.2 zerosAndOne
  have preordered := ofClass uniform
  have level : (number 0).compare (number (.ofMagnitude true 0)) = .eq := by decide
  exact ⟨uniform, preordered, alike preordered _ (by simp [zerosAndOne]) _ (by simp [zerosAndOne]) _
    (by simp [zerosAndOne]) level⟩

/-- Among all values the comparison is no preorder. Nine is below ten and ten is on a level with the
text that it displays, but nine stands after this text; and a NaN is on a level with two and with
one. -/
theorem not_isPreordered_univ :
    ((number (.ofNat 9)).compare (number (.ofNat 10)) = .lt ∧
      (number (.ofNat 10)).compare (text "10") = .eq ∧
      (number (.ofNat 9)).compare (text "10") = .gt) ∧
    ((number (.ofNat 2)).compare (number (.nan false)) = .eq ∧
      (number (.nan false)).compare (number (.ofNat 1)) = .eq ∧
      (number (.ofNat 2)).compare (number (.ofNat 1)) = .gt) ∧
    ¬IsPreordered Set.univ := by
  have mixed : (number (.ofNat 9)).compare (number (.ofNat 10)) = .lt ∧
      (number (.ofNat 10)).compare (text "10") = .eq ∧
      (number (.ofNat 9)).compare (text "10") = .gt := by decide +kernel
  refine ⟨mixed, by decide +kernel, fun preordered => ?_⟩
  obtain ⟨less, level, after⟩ := mixed
  exact preordered (number (.ofNat 9)) trivial (number (.ofNat 10)) trivial (text "10") trivial
    (by simp [less]) (by simp [level]) after

end Scalar
end Campus
