import Campus.Proofs.Number.Texts
/-!
# Integers in binary64

An integer of at most sixty-four bits becomes a number without a fractional part, because numbers
from `2 ^ 53` on have none. The search for the shortest text of such a number stops at the grid of
the ones, where the number itself lies, so the text is that of an integer, which reads back as the
number. Up to `2 ^ 53` that integer is the one the number came from; beyond, it may be another one.
-/

namespace Campus.Binary64

variable {x y : Binary64}

/-- Numbers of one magnitude have the same grains. -/
theorem grains_congr (same : x.magnitude = y.magnitude) : x.grains = y.grains := by
  unfold grains significand unitExponent exponentField fraction
  rw [same]

/-- A finite number of at least `2 ^ 52` has no fractional part. -/
theorem isIntegral_of_large (finite : x.isFinite = true)
    (large : (52 + 1023) * 0x10000000000000 ≤ x.magnitude) : x.isIntegral = true := by
  have whole : grainsPerOne ∣ x.grains := by
    rw [grainsPerOne_eq]
    exact Dvd.dvd.mul_left (pow_dvd_pow 2 (le_unitExponent large).1) _
  rw [isIntegral, finite, Nat.mod_eq_zero_of_dvd whole]
  rfl

/-- A ratio of at most a power of two is rounded to at most that power. -/
theorem nearestMagnitude_le_of_le {num den count : ℕ} (positive : 0 < den)
    (inRange : count ≤ 1023) (small : num ≤ 2 ^ count * den) :
    nearestMagnitude num den ≤ (count + 1023) * 0x10000000000000 := by
  obtain ⟨finite, magnitude, grains⟩ := powerOfTwo_spec inRange
  rw [← magnitude]
  refine nearestMagnitude_le_magnitude finite positive ?_
  rw [grains, mul_right_comm]
  exact Nat.mul_le_mul_right _ small

/-- What a grid offers lies on that grid. -/
theorem exponent_of_onGrid? {tie : Tie} {power : ℤ} {n : Numeral}
    (hit : x.onGrid? tie power = some n) : n.exponent = power := by
  unfold onGrid? at hit
  dsimp only at hit
  split at hit
  · cases hit
  · cases hit
    rfl
  · cases hit
    rfl
  · repeat' split at hit
    all_goals
      cases hit
      rfl

/-- If the grid of the ones has a hit, a search that reaches it finds an integer. -/
theorem exists_searchGrids {tie : Tie} (hit : (x.onGrid? tie 0).isSome = true) {steps : ℕ}
    {power : ℤ} (nonnegative : 0 ≤ power) (reached : power < steps) :
    ∃ n, x.searchGrids tie steps power = some n ∧ 0 ≤ n.exponent := by
  induction steps generalizing power with
  | zero => omega
  | succ steps ih =>
    unfold searchGrids
    cases found : x.onGrid? tie power with
    | some n => exact ⟨n, rfl, by rw [exponent_of_onGrid? found]; exact nonnegative⟩
    | none =>
      have notOnes : power ≠ 0 := by
        rintro rfl
        rw [found] at hit
        cases hit
      exact ih (by omega) (by omega)

/-- The numeral of a natural number below `10 ^ 310` is read as the nearest number. -/
theorem toBinary64_natural (negative : Bool) {n : ℕ} (few : digitCount n ≤ 310) :
    (Numeral.mk n 0).toBinary64 negative = .ofRatio negative n 1 := by
  by_cases none : n = 0
  · subst none
    rw [Numeral.toBinary64, if_pos rfl, ofRatio, nearestMagnitude_zero Nat.one_pos]
  · have ceiling : (Numeral.mk n 0).ceiling = digitCount n := by
      rw [Numeral.ceiling]
      exact add_zero _
    rw [Numeral.toBinary64_eq_ofRatio negative none (by omega) (by omega)]
    change ofRatio negative (n * 10 ^ 0) (10 ^ 0) = _
    rw [pow_zero, mul_one]

/-- A number without a fractional part and of at most `2 ^ 64` in size. -/
structure IsWord (x : Binary64) : Prop where
  integral : x.isIntegral = true
  small : x.magnitude ≤ (64 + 1023) * 0x10000000000000

namespace IsWord

variable (word : x.IsWord)

include word

/-- A whole number is finite. -/
theorem isFinite : x.isFinite = true := by
  have both := word.integral
  rw [isIntegral, Bool.and_eq_true] at both
  exact both.1

/-- The grains of a whole number are those of its integer part. -/
theorem grains_eq : x.truncate.natAbs * grainsPerOne = x.grains := by
  have both := word.integral
  rw [isIntegral, Bool.and_eq_true, beq_iff_eq] at both
  rw [truncate_natAbs]
  exact Nat.div_mul_cancel (Nat.dvd_of_mod_eq_zero both.2)

/-- The integer part has few digits. -/
theorem digitCount_truncate_le : digitCount x.truncate.natAbs ≤ 310 := by
  have bits : x.truncate.natAbs < 2 ^ 65 := truncate_natAbs_lt 65 (by have := word.small; omega)
  refine (digitCount_le_iff _ (by decide)).2 (bits.trans_le ?_)
  decide +kernel

/-- The grid of the ones has a hit. -/
theorem isSome_onGrid? (tie : Tie) : (x.onGrid? tie 0).isSome = true := by
  have below : x.gridBelow 0 = (x.truncate.natAbs, x.grains % grainsPerOne, grainsPerOne) := by
    rw [gridBelow, truncate_natAbs]
    simp
  have readsBack : (Numeral.mk x.truncate.natAbs 0).toBinary64 false = x.abs := by
    rw [toBinary64_natural false word.digitCount_truncate_le, ofRatio,
      nearestMagnitude_of_grains word.isFinite Nat.one_pos
        (by rw [word.grains_eq, mul_one]), abs_eq_ofMagnitude]
  unfold onGrid?
  rw [below]
  dsimp only
  rw [readsBack, beq_self_eq_true]
  cases (Numeral.mk (x.truncate.natAbs + 1) 0).toBinary64 false == x.abs with
  | false => rfl
  | true =>
    dsimp only
    repeat' split
    all_goals rfl

/-- The search for the shortest numeral starts at most twenty grids above the ones. -/
theorem coarsestPower_bounds (notZero : x.isZero = false) :
    0 ≤ x.coarsestPower ∧ x.coarsestPower < (24 : ℕ) := by
  have small := word.small
  have most : x.grains < 2 ^ (1087 + 52) := grains_lt 1087 (by decide) (by omega)
  have some := grains_pos notZero
  have several : 0 < x.truncate.natAbs := by
    rw [← word.grains_eq] at some
    exact Nat.pos_of_mul_pos_right some
  have least : 2 ^ 1074 ≤ x.grains := by
    calc 2 ^ 1074 = grainsPerOne := grainsPerOne_eq.symm
      _ ≤ x.truncate.natAbs * grainsPerOne := Nat.le_mul_of_pos_left _ several
      _ = x.grains := word.grains_eq
  have low : 1074 ≤ x.grains.log2 := by
    generalize 1074 = ones at least ⊢
    exact (Nat.le_log2 some.ne').2 least
  have high : x.grains.log2 < 1087 + 52 := by
    generalize 1087 + 52 = limit at most ⊢
    exact (Nat.log2_lt some.ne').2 most
  unfold coarsestPower
  generalize x.grains.log2 = length at low high
  clear least most
  omega

/-- The shortest numeral of a whole number has no places. -/
theorem exponent_shortest (tie : Tie) : 0 ≤ (x.shortest tie).exponent := by
  unfold shortest
  cases zero : x.isZero with
  | true => exact le_refl _
  | false =>
    obtain ⟨nonnegative, reached⟩ := word.coarsestPower_bounds zero
    obtain ⟨n, found, noPlaces⟩ := exists_searchGrids (word.isSome_onGrid? tie) nonnegative reached
    rw [if_neg Bool.false_ne_true, found]
    exact noPlaces

end IsWord

/-- Zeros at the end of a positive number are digits of a larger one. -/
theorem toDigits_mul_pow {n : ℕ} (positive : 0 < n) (count : ℕ) :
    Nat.toDigits 10 (n * 10 ^ count) = Nat.toDigits 10 n ++ List.replicate count '0' := by
  induction count with
  | zero => simp
  | succ count ih =>
    rw [pow_succ, ← mul_assoc, toDigits_mul_ten (by positivity), ih, List.append_assoc,
      List.replicate_succ']

/-- A numeral without places is written as its value. -/
theorem plain_natural {n : Numeral} (noPlaces : 0 ≤ n.exponent)
    (normal : n.digits = 0 → n.exponent = 0) :
    n.plain = toString (n.digits * 10 ^ n.exponent.toNat) := by
  have digits : Nat.toDigits 10 n.digits ++ List.replicate n.exponent.toNat '0' =
      Nat.toDigits 10 (n.digits * 10 ^ n.exponent.toNat) := by
    by_cases none : n.digits = 0
    · rw [none, normal none, zero_mul]
      rfl
    · rw [toDigits_mul_pow (Nat.pos_of_ne_zero none)]
  rw [Numeral.plain]
  dsimp only
  rw [if_pos noPlaces, digits]
  rfl

/-- A positive number below zero is written after a minus sign. -/
theorem toString_neg {n : ℕ} (positive : 0 < n) : toString (-(n : ℤ)) = "-" ++ toString n := by
  obtain ⟨m, rfl⟩ := Nat.exists_eq_succ_of_ne_zero positive.ne'
  rfl

/-- A whole number is written as an integer that reads back as the number; a zero must have no
sign. -/
theorem IsWord.exists_display_eq (word : x.IsWord)
    (unsigned : x.isZero = true → x.isNegative = false) :
    ∃ m : ℤ, x.display = toString m ∧ ofInt m = x := by
  have finite := word.isFinite
  have noPlaces := word.exponent_shortest .up
  have readsBack := toBinary64_shortest .up finite
  have normal : (x.shortest .up).digits = 0 → x.shortest .up = ⟨0, 0⟩ :=
    shortest_eq_of_digits_eq_zero finite
  have display := toList_display finite
  generalize x.shortest .up = n at noPlaces readsBack normal display
  have plain := plain_natural noPlaces fun none => by rw [normal none]
  generalize value : n.digits * 10 ^ n.exponent.toNat = k at plain
  -- the digits with the zeros after them are read as the numeral is
  have shifted : (Numeral.mk k 0).toBinary64 x.isNegative = x := by
    have shift := Numeral.toBinary64_withZeros x.isNegative n n.exponent.toNat
    rwa [Numeral.withZeros, value, Int.toNat_of_nonneg noPlaces, sub_self, readsBack] at shift
  have few : digitCount k ≤ 310 := by
    have magnitude : ((Numeral.mk k 0).toBinary64 false).magnitude = x.magnitude := by
      conv_rhs => rw [← shifted, Numeral.toBinary64_eq_ofMagnitude,
        magnitude_ofMagnitude _ (magnitude_lt _)]
    have small := word.small
    have below : k * 10 ^ 0 < 2 ^ 65 * 10 ^ 0 :=
      lt_of_toBinary64 (n := ⟨k, 0⟩) (by decide) (by omega)
    refine (digitCount_le_iff _ (by decide)).2 ?_
    calc k = k * 10 ^ 0 := (mul_one k).symm
      _ < 2 ^ 65 * 10 ^ 0 := below
      _ ≤ 10 ^ 310 := by decide +kernel
  have positive : x.isNegative = true → 0 < k := by
    intro negative
    refine Nat.pos_of_ne_zero fun none => ?_
    rw [none, Numeral.toBinary64, if_pos rfl] at shifted
    have zero : x.isZero = true := by
      rw [← shifted, isZero, magnitude_ofMagnitude _ (by decide)]
      rfl
    exact Bool.false_ne_true ((unsigned zero).symm.trans negative)
  rw [toBinary64_natural _ few] at shifted
  cases sign : x.isNegative with
  | false =>
    rw [sign] at shifted display
    refine ⟨k, String.toList_inj.1 (display.trans (by rw [plain]; rfl)), ?_⟩
    rw [ofInt, decide_eq_false (by omega)]
    exact shifted
  | true =>
    have some := positive sign
    rw [sign] at shifted display
    refine ⟨-(k : ℤ), String.toList_inj.1 (display.trans ?_), ?_⟩
    · rw [plain, toString_neg some, String.toList_append]
      rfl
    · rw [ofInt, decide_eq_true (by omega), Int.natAbs_neg]
      exact shifted

/-- The text of an integer has its value. -/
theorem textValue_toString (m : ℤ) : textValue (toString m) = m := by
  have areDigits (n : ℕ) : ∀ c ∈ Nat.toDigits 10 n ++ [], c.isDigit = true := by
    rw [List.append_nil]
    exact Json.Token.isDigit_of_mem_toDigits
  have digits (n : ℕ) : (toString n).toList = pointed (Nat.toDigits 10 n) [] := by
    rw [pointed, if_pos rfl, List.append_nil]
    exact String.toList_ofList
  cases m with
  | ofNat n =>
    have chars : (toString (Int.ofNat n)).toList = pointed (Nat.toDigits 10 n) [] := digits n
    rw [textValue, placesOf, chars, head?_pointed (areDigits n),
      filter_isDigit_pointed (areDigits n), tail_dropWhile_pointed (areDigits n), List.append_nil,
      digitsValue_toDigits]
    simp
  | negSucc n =>
    have chars : (toString (Int.negSucc n)).toList =
        '-' :: pointed (Nat.toDigits 10 (n + 1)) [] := by
      rw [← digits]
      exact String.toList_append
    have places : ('-' :: pointed (Nat.toDigits 10 (n + 1)) []).dropWhile (· ≠ '.') =
        (pointed (Nat.toDigits 10 (n + 1)) []).dropWhile (· ≠ '.') := rfl
    rw [textValue, placesOf, chars, places, List.filter_cons_of_neg (by decide),
      filter_isDigit_pointed (areDigits _), tail_dropWhile_pointed (areDigits _), List.append_nil,
      digitsValue_toDigits, List.head?_cons, beq_self_eq_true, signed_true]
    simp [Int.negSucc_eq]

/-- Different integers have different texts. -/
theorem toString_injective : Function.Injective (toString : ℤ → String) := by
  intro m n same
  have values := textValue_toString m
  rw [same, textValue_toString] at values
  exact_mod_cast values.symm

section

variable {m n : ℤ}

/-- The magnitude of an integer is that of its size. -/
theorem magnitude_ofInt (n : ℤ) : (ofInt n).magnitude = nearestMagnitude n.natAbs 1 :=
  magnitude_ofMagnitude _ (lt_of_le_of_lt (nearestMagnitude_le _ _) (by decide))

/-- The sign of an integer is kept. -/
theorem isNegative_ofInt (n : ℤ) : (ofInt n).isNegative = decide (n < 0) :=
  isNegative_ofMagnitude _ (lt_of_le_of_lt (nearestMagnitude_le _ _) (by decide))

/-- The size of an integer of at most fifty-three bits is kept. -/
theorem grains_ofInt (few : n.natAbs < 2 ^ 53) :
    (ofInt n).grains = n.natAbs * grainsPerOne := by
  rw [← (grains_ofNat few).2.2]
  apply grains_congr
  rw [magnitude_ofInt, ofNat, ofRatio,
    magnitude_ofMagnitude _ (lt_of_le_of_lt (nearestMagnitude_le _ _) (by decide))]

/-- An integer of at least a power of two is at least that power. -/
theorem le_magnitude_ofInt {count : ℕ} (inRange : count ≤ 1023) (large : 2 ^ count ≤ n.natAbs) :
    (count + 1023) * 0x10000000000000 ≤ (ofInt n).magnitude := by
  rw [magnitude_ofInt]
  exact le_nearestMagnitude Nat.one_pos inRange (by rwa [mul_one])

/-- Only zero becomes a zero, without a sign. -/
theorem isNegative_ofInt_of_isZero (zero : (ofInt n).isZero = true) :
    (ofInt n).isNegative = false := by
  rw [isNegative_ofInt, decide_eq_false_iff_not]
  intro negative
  have some : (0 + 1023) * 0x10000000000000 ≤ (ofInt n).magnitude :=
    le_magnitude_ofInt (by decide) (by omega)
  rw [isZero, beq_iff_eq] at zero
  omega

/-- An integer of at most sixty-four bits becomes a whole number. -/
theorem isWord_ofInt (bound : n.natAbs ≤ 2 ^ 64) : (ofInt n).IsWord := by
  have small : (ofInt n).magnitude ≤ (64 + 1023) * 0x10000000000000 := by
    rw [magnitude_ofInt]
    exact nearestMagnitude_le_of_le Nat.one_pos (by decide) (by rwa [mul_one])
  have finite : (ofInt n).isFinite = true := by
    rw [isFinite, infinityMagnitude, decide_eq_true_eq]
    omega
  refine ⟨?_, small⟩
  rcases Nat.lt_or_ge n.natAbs (2 ^ 53) with few | many
  · rw [isIntegral, finite, grains_ofInt few, Nat.mul_mod_left]
    rfl
  · have large := le_magnitude_ofInt (by decide) many
    exact isIntegral_of_large finite (by omega)

/-- An integer of at most sixty-four bits is displayed as an integer with the same nearest
number. -/
theorem exists_display_ofInt (bound : n.natAbs ≤ 2 ^ 64) :
    ∃ m : ℤ, (ofInt n).display = toString m ∧ ofInt m = ofInt n :=
  (isWord_ofInt bound).exists_display_eq isNegative_ofInt_of_isZero

/-- No other integer becomes the number of one below `2 ^ 53`. -/
theorem eq_of_ofInt_eq (few : n.natAbs < 2 ^ 53) (same : ofInt m = ofInt n) : m = n := by
  have size := grains_ofInt few
  have signs : decide (m < 0) = decide (n < 0) := by
    rw [← isNegative_ofInt, ← isNegative_ofInt, same]
  rw [← same] at size
  have ones : 0 < grainsPerOne := by decide +kernel
  have alsoFew : m.natAbs < 2 ^ 53 := by
    by_contra many
    have large := le_grains (le_magnitude_ofInt (by decide) (not_lt.1 many))
    rw [pow_add, ← grainsPerOne_eq, size] at large
    exact absurd (Nat.le_of_mul_le_mul_right large ones) (not_le.2 few)
  rw [grains_ofInt alsoFew] at size
  have sizes := Nat.eq_of_mul_eq_mul_right ones size
  rw [decide_eq_decide] at signs
  omega

/-- An integer up to `2 ^ 53` is displayed as itself. -/
theorem display_ofInt (few : n.natAbs ≤ 2 ^ 53) : (ofInt n).display = toString n := by
  rcases few.lt_or_eq with below | last
  · obtain ⟨m, display, same⟩ :=
      exists_display_ofInt (n := n) (few.trans (Nat.pow_le_pow_right (by decide) (by decide)))
    rw [display, eq_of_ofInt_eq below same]
  · rcases Int.natAbs_eq n with positive | negative
    · rw [positive, last]
      decide +kernel
    · rw [negative, last]
      decide +kernel

/-- Integers up to `2 ^ 53` become different numbers. -/
theorem ofInt_injOn : Set.InjOn ofInt {n : ℤ | n.natAbs ≤ 2 ^ 53} := by
  intro m small n bound same
  have texts := display_ofInt small
  rw [same, display_ofInt bound] at texts
  exact (toString_injective texts).symm

/-- Integers of at most sixty-four bits are displayed alike exactly if they become one number. -/
theorem display_ofInt_inj (left : m.natAbs ≤ 2 ^ 64) (right : n.natAbs ≤ 2 ^ 64) :
    (ofInt m).display = (ofInt n).display ↔ ofInt m = ofInt n := by
  refine ⟨fun texts => ?_, congrArg display⟩
  obtain ⟨k, leftText, leftValue⟩ := exists_display_ofInt left
  obtain ⟨l, rightText, rightValue⟩ := exists_display_ofInt right
  rw [leftText, rightText] at texts
  rw [← leftValue, ← rightValue, toString_injective texts]

end

end Campus.Binary64
