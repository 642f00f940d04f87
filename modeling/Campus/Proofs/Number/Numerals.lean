import Campus.Number.Numeral
import Campus.Number.Reading
import Campus.Proofs.Number.Monotonicity
/-!
# Numerals that read back

A numeral keeps its value when zeros are added to its digits and its power of ten is lowered, and
reading a numeral depends on its value only. The shortest numeral of a finite number reads back as
the number; so does its exact expansion, which stands behind the search for it.
-/

namespace Campus

/-- Reading digits is the usual positional value. -/
theorem digitsValue_eq (digits : List Char) :
    digitsValue digits = Nat.ofDigitChars 10 digits 0 := by
  unfold digitsValue Nat.ofDigitChars
  simp only [Nat.mul_comm 10]

/-- The digits of a number have its value. -/
theorem digitsValue_toDigits (n : Nat) : digitsValue (Nat.toDigits 10 n) = n := by
  rw [digitsValue_eq, Nat.ofDigitChars_ten_toDigits]

/-- Digits behind others count on from their value. -/
theorem digitsValue_append (front back : List Char) :
    digitsValue (front ++ back) = digitsValue front * 10 ^ back.length + digitsValue back := by
  rw [digitsValue_eq, digitsValue_eq, digitsValue_eq, Nat.ofDigitChars_append,
    Nat.ofDigitChars_eq_ofDigitChars_zero, Nat.mul_comm]

/-- Zeros alone have no value. -/
theorem digitsValue_zeros (count : Nat) : digitsValue (List.replicate count '0') = 0 := by
  rw [digitsValue_eq, Nat.ofDigitChars_replicate_zero, Nat.mul_zero]

/-- Zeros in front do not count. -/
theorem digitsValue_zeros_append (count : Nat) (digits : List Char) :
    digitsValue (List.replicate count '0' ++ digits) = digitsValue digits := by
  rw [digitsValue_append, digitsValue_zeros, Nat.zero_mul, Nat.zero_add]

/-- Zeros at the end multiply by powers of ten. -/
theorem digitsValue_append_zeros (digits : List Char) (count : Nat) :
    digitsValue (digits ++ List.replicate count '0') = digitsValue digits * 10 ^ count := by
  rw [digitsValue_append, digitsValue_zeros, List.length_replicate, Nat.add_zero]

/-- The first digit of a number is not zero, unless the number is. -/
theorem head?_toDigits {n : Nat} (positive : 0 < n) : (Nat.toDigits 10 n).head? ≠ some '0' := by
  induction n using Nat.strongRecOn with
  | _ n ih =>
    by_cases small : n < 10
    · rw [Nat.toDigits_of_lt_base small, List.head?_cons]
      have digits : ∀ d < 10, 0 < d → some (Nat.digitChar d) ≠ some '0' := by decide
      exact digits n small positive
    · have further : 0 < n / 10 := by omega
      have front := ih (n / 10) (by omega) further
      obtain ⟨c, rest, digits⟩ := List.exists_cons_of_ne_nil
        (Nat.toDigits_ne_nil (n := n / 10) (b := 10))
      rw [Nat.toDigits_of_base_le (by decide) (by omega)]
      rw [digits] at front ⊢
      exact front

/-- A zero at the end is one more digit. -/
theorem toDigits_mul_ten {n : Nat} (positive : 0 < n) :
    Nat.toDigits 10 (n * 10) = Nat.toDigits 10 n ++ ['0'] := by
  have joined := Nat.toDigits_append_toDigits (b := 10) (n := n) (d := 0) (by decide) positive
    (by decide)
  rw [Nat.toDigits_zero, Nat.add_zero, Nat.mul_comm] at joined
  exact joined.symm

/-- A number has at most so many digits when it is below that power of ten. -/
theorem digitCount_le_iff (n : Nat) {count : Nat} (positive : 0 < count) :
    digitCount n ≤ count ↔ n < 10 ^ count := Nat.length_toDigits_le_iff (by decide) positive

/-- Zeros at the end are as many more digits. -/
theorem digitCount_mul_pow {n : Nat} (positive : 0 < n) (count : Nat) :
    digitCount (n * 10 ^ count) = digitCount n + count := by
  induction count with
  | zero => simp
  | succ count ih =>
    have stillPositive : 0 < n * 10 ^ count := Nat.mul_pos positive (Nat.pow_pos (by decide))
    rw [Nat.pow_succ, ← Nat.mul_assoc, digitCount, toDigits_mul_ten stillPositive,
      List.length_append, ← digitCount, ih]
    rfl

namespace Numeral

/-- The same number with zeros behind its digits. -/
def withZeros (n : Numeral) (count : Nat) : Numeral :=
  ⟨n.digits * 10 ^ count, n.exponent - count⟩

/-- Without zeros it is the same numeral. -/
@[simp]
theorem withZeros_zero (n : Numeral) : n.withZeros 0 = n := by
  rw [withZeros, Nat.pow_zero, Nat.mul_one]
  exact congrArg (Numeral.mk n.digits) (Int.sub_zero _)

/-- Reading depends on the value only: zeros may move from the power of ten to the digits. -/
theorem toBinary64_withZeros (negative : Bool) (n : Numeral) (count : Nat) :
    (n.withZeros count).toBinary64 negative = n.toBinary64 negative := by
  obtain ⟨digits, exponent⟩ := n
  have power (n : Nat) : 0 < 10 ^ n := Nat.pow_pos (by decide)
  by_cases zero : digits = 0
  · subst zero
    simp [toBinary64, withZeros]
  · have positive : 0 < digits := Nat.pos_of_ne_zero zero
    have notZero : digits * 10 ^ count ≠ 0 := Nat.ne_of_gt (Nat.mul_pos positive (power count))
    have ceilings : (Numeral.mk (digits * 10 ^ count) (exponent - count)).ceiling =
        (Numeral.mk digits exponent).ceiling := by
      simp only [ceiling, digitCount_mul_pow positive]
      omega
    have ratio : digits * 10 ^ count * 10 ^ (exponent - count).toNat * 10 ^ (-exponent).toNat =
        digits * 10 ^ exponent.toNat * 10 ^ (-(exponent - count)).toNat := by
      rw [Nat.mul_assoc, Nat.mul_assoc, ← Nat.pow_add, ← Nat.pow_add, Nat.mul_assoc, ← Nat.pow_add]
      congr 2
      omega
    unfold toBinary64 withZeros
    dsimp only
    rw [ceilings, if_neg notZero, if_neg zero]
    split
    · rfl
    · split
      · rfl
      · simp only [Binary64.ofRatio, Nat.pow_eq]
        rw [Binary64.nearestMagnitude_eq_of_ratio (power _) (power _) ratio]

/-- A numeral that is neither far too large nor far too small is read as a ratio. -/
theorem toBinary64_eq_ofRatio (negative : Bool) {n : Numeral} (digits : n.digits ≠ 0)
    (notAbove : ¬310 < n.ceiling) (notBelow : ¬n.ceiling < -330) :
    n.toBinary64 negative =
      .ofRatio negative (n.digits * 10 ^ n.exponent.toNat) (10 ^ (-n.exponent).toNat) := by
  rw [toBinary64, if_neg digits, if_neg notAbove, if_neg notBelow]
  rfl

/-- A numeral of at most fifty-three bits at one of the first powers of ten is read as a ratio. -/
theorem toBinary64_of_short (negative : Bool) {n : Numeral} (few : n.digits < 2 ^ 53)
    (low : -22 ≤ n.exponent) (high : n.exponent ≤ 22) :
    n.toBinary64 negative =
      .ofRatio negative (n.digits * 10 ^ n.exponent.toNat) (10 ^ (-n.exponent).toNat) := by
  by_cases none : n.digits = 0
  · rw [toBinary64, if_pos none, none, Nat.zero_mul, Binary64.ofRatio,
      Binary64.nearestMagnitude_zero (Nat.pow_pos (by decide))]
  · have short : digitCount n.digits ≤ 16 :=
      (digitCount_le_iff n.digits (by decide)).2 (Nat.lt_trans few (by decide))
    refine toBinary64_eq_ofRatio negative none ?_ ?_ <;>
    · unfold ceiling
      omega

/-- The sign of what is read is the given one, its size does not depend on it. -/
theorem toBinary64_eq_ofMagnitude (negative : Bool) (n : Numeral) :
    n.toBinary64 negative = .ofMagnitude negative (n.toBinary64 false).magnitude := by
  have fits {m : Nat} (bound : m ≤ Binary64.infinityMagnitude) : m < 0x8000000000000000 :=
    Nat.lt_of_le_of_lt bound (by decide)
  unfold toBinary64
  split
  · rw [Binary64.magnitude_ofMagnitude false (by decide)]
  · split
    · rw [Binary64.infinity, Binary64.infinity, Binary64.magnitude_ofMagnitude false (by decide)]
    · split
      · rw [Binary64.magnitude_ofMagnitude false (by decide)]
      · rw [Binary64.ofRatio, Binary64.ofRatio, Binary64.magnitude_ofMagnitude false
          (fits (Binary64.nearestMagnitude_le _ _))]

end Numeral

namespace Binary64

variable {x : Binary64}

/-- A finite number has less than `2 ^ 2098` grains. -/
theorem grains_lt_of_isFinite (finite : x.isFinite = true) : x.grains < 2 ^ 2098 := by
  have below : x.magnitude < infinityMagnitude := by simpa [isFinite] using finite
  have bound := grains_lt 2046 (by decide) below
  rwa [show 2046 + 52 = 2098 from rfl] at bound

/-- Fives and twos pair up to tens. -/
theorem mul_five_pow_mul_two_pow (m n : Nat) : m * 5 ^ n * 2 ^ n = m * 10 ^ n := by
  rw [Nat.mul_assoc, ← Nat.mul_pow]

/-- One has `2 ^ 1074` grains. -/
theorem grainsPerOne_eq : grainsPerOne = 2 ^ 1074 := by
  unfold grainsPerOne
  generalize 1074 = n
  rfl

/-- A numeral that is read as a number below a finite one is below it. -/
theorem value_lt_of_magnitude_lt {n : Numeral} (finite : x.isFinite = true)
    (below : (n.toBinary64 false).magnitude < x.magnitude) :
    n.digits * 10 ^ n.exponent.toNat * grainsPerOne < x.grains * 10 ^ (-n.exponent).toNat := by
  have power (k : Nat) : 0 < 10 ^ k := Nat.pow_pos (by decide)
  have some : 0 < x.grains := by
    refine Nat.pos_of_ne_zero fun none => ?_
    rw [eq_of_beq (grains_eq_zero_iff.1 none)] at below
    exact Nat.not_lt_zero _ below
  by_contra large
  rw [Nat.not_lt] at large
  have positive : 0 < x.grains * 10 ^ (-n.exponent).toNat := Nat.mul_pos some (power _)
  have digits : n.digits ≠ 0 := by
    intro none
    rw [none, Nat.zero_mul, Nat.zero_mul] at large
    exact Nat.not_lt.2 large positive
  have notAbove : ¬310 < n.ceiling := by
    intro above
    have bound : x.magnitude < infinityMagnitude := of_decide_eq_true finite
    rw [Numeral.toBinary64, if_neg digits, if_pos above, infinity,
      magnitude_ofMagnitude _ (by decide)] at below
    exact Nat.lt_asymm below bound
  have notBelow : ¬n.ceiling < -330 := by
    intro tiny
    unfold Numeral.ceiling at tiny
    have natural : n.exponent.toNat = 0 := by omega
    obtain ⟨wide, fewer, short⟩ : ∃ wide ≤ 330, grainsPerOne ≤ Nat.pow 10 wide :=
      ⟨330, Nat.le_refl _, by decide +kernel⟩
    have few : n.digits < 10 ^ ((-n.exponent).toNat - wide) := by
      refine Nat.lt_of_lt_of_le ((digitCount_le_iff n.digits ?_).1 (Nat.le_refl _))
        (Nat.pow_le_pow_right (by decide) (by omega))
      exact List.length_pos_iff.2 Nat.toDigits_ne_nil
    rw [natural, Nat.pow_zero, Nat.mul_one] at large
    refine Nat.not_lt.2 large ?_
    calc n.digits * grainsPerOne ≤ n.digits * 10 ^ wide := Nat.mul_le_mul_left _ short
      _ < 10 ^ ((-n.exponent).toNat - wide) * 10 ^ wide :=
          Nat.mul_lt_mul_of_pos_right few (power wide)
      _ = 10 ^ (-n.exponent).toNat := by
          rw [← Nat.pow_add, Nat.sub_add_cancel (by omega)]
      _ ≤ x.grains * 10 ^ (-n.exponent).toNat := Nat.le_mul_of_pos_left _ some
  rw [Numeral.toBinary64_eq_ofRatio false digits notAbove notBelow, ofRatio,
    magnitude_ofMagnitude _ (Nat.lt_of_le_of_lt (nearestMagnitude_le _ _) (by decide))] at below
  exact Nat.not_lt.2 (magnitude_le_nearestMagnitude finite (power _) large) below

/-- The digits of the exact expansion. -/
theorem digits_expansion (x : Binary64) : x.expansion.digits = x.grains * 5 ^ 1074 := by
  unfold expansion
  generalize 1074 = n
  rfl

/-- A number that is not zero has grains. -/
theorem grains_pos (notZero : x.isZero = false) : 0 < x.grains := by
  apply Nat.pos_of_ne_zero
  intro none
  rw [grains_eq_zero_iff.1 none] at notZero
  cases notZero

/-- The exact expansion has neither too few nor too many digits to be read as a ratio. -/
theorem ceiling_expansion (finite : x.isFinite = true) (notZero : x.isZero = false) :
    ¬310 < x.expansion.ceiling ∧ ¬x.expansion.ceiling < -330 := by
  have fives (n : Nat) : 0 < 5 ^ n := Nat.pow_pos (by decide)
  have notMany : digitCount x.expansion.digits ≤ 1383 := by
    rw [digitCount_le_iff _ (by decide), digits_expansion]
    calc x.grains * 5 ^ 1074 < 2 ^ 2098 * 5 ^ 1074 :=
          Nat.mul_lt_mul_of_pos_right (grains_lt_of_isFinite finite) (fives 1074)
      _ ≤ 10 ^ 1383 := by decide +kernel
  have notFew : ¬digitCount x.expansion.digits ≤ 743 := by
    rw [digitCount_le_iff _ (by decide), digits_expansion, Nat.not_lt]
    calc 10 ^ 743 ≤ 1 * 5 ^ 1074 := by decide +kernel
      _ ≤ x.grains * 5 ^ 1074 := Nat.mul_le_mul_right _ (grains_pos notZero)
  have exponent : x.expansion.exponent = -1074 := rfl
  unfold Numeral.ceiling
  rw [exponent]
  omega

/-- The exact expansion of a finite number reads back. -/
theorem toBinary64_expansion (finite : x.isFinite = true) (notZero : x.isZero = false) :
    x.expansion.toBinary64 false = x.abs := by
  obtain ⟨notAbove, notBelow⟩ := ceiling_expansion finite notZero
  have powers (base n : Nat) (positive : 0 < base) : 0 < base ^ n := Nat.pow_pos positive
  have digits : x.expansion.digits ≠ 0 := by
    rw [digits_expansion]
    exact Nat.ne_of_gt (Nat.mul_pos (grains_pos notZero) (powers 5 1074 (by decide)))
  have value : x.expansion.digits * 10 ^ x.expansion.exponent.toNat * grainsPerOne =
      x.grains * 10 ^ (-x.expansion.exponent).toNat := by
    have none : x.expansion.exponent.toNat = 0 := rfl
    have all : (-x.expansion.exponent).toNat = 1074 := rfl
    rw [none, all, Nat.pow_zero, Nat.mul_one, digits_expansion, grainsPerOne_eq,
      mul_five_pow_mul_two_pow]
  rw [Numeral.toBinary64_eq_ofRatio false digits notAbove notBelow, ofRatio,
    nearestMagnitude_of_grains finite (powers 10 _ (by decide)) value]
  rfl

/-- The shortest numeral of a finite number reads back, with the sign of the number. -/
theorem toBinary64_shortest (tie : Tie) (finite : x.isFinite = true) :
    (x.shortest tie).toBinary64 x.isNegative = x := by
  have readsBack : ((x.shortest tie).toBinary64 false).magnitude = x.magnitude := by
    unfold shortest
    cases zero : x.isZero with
    | true =>
      have none : x.magnitude = 0 := by simpa [isZero] using zero
      rw [none]
      rfl
    | false =>
      have found : ((x.searchGrids tie 24 x.coarsestPower).getD x.expansion).toBinary64 false =
          x.abs := by
        cases search : x.searchGrids tie 24 x.coarsestPower with
        | some n => exact toBinary64_of_searchGrids search
        | none => exact toBinary64_expansion finite zero
      rw [if_neg Bool.false_ne_true, found]
      exact magnitude_ofMagnitude false x.magnitude_lt
  rw [Numeral.toBinary64_eq_ofMagnitude, readsBack]
  exact ofMagnitude_isNegative_magnitude x

/-- The shortest numeral of a number has no digits only as that of zero. -/
theorem shortest_eq_of_digits_eq_zero {tie : Tie} (finite : x.isFinite = true)
    (none : (x.shortest tie).digits = 0) : x.shortest tie = ⟨0, 0⟩ := by
  have readsBack := toBinary64_shortest tie finite
  rw [Numeral.toBinary64, if_pos none] at readsBack
  have zero : x.isZero = true := by
    rw [← readsBack, isZero, magnitude_ofMagnitude _ (by decide)]
    rfl
  rw [shortest, if_pos zero]

end Binary64
end Campus
