import Campus.Json.Token
import Campus.Proofs.Number.Numerals
import Campus.Proofs.Number.Scaling
import Mathlib.Tactic.Linarith
/-!
# Digits that are read

The digits of a number are read as long as they fit in sixty-four bits. What is read, scaled by the
power of ten of the last digit read, is never above the value of all digits, even though a digit of
the fraction may be read after some before the point were not. So no number is lost that is clearly
inside the finite range. A number of few digits and few places is read as the nearest number.
-/

namespace Campus

/-- A digit counts by its place. -/
theorem digitsValue_cons (digit : Char) (rest : List Char) :
    digitsValue (digit :: rest) =
      (digit.toNat - '0'.toNat) * 10 ^ rest.length + digitsValue rest := by
  have first : digitsValue [digit] = digit.toNat - '0'.toNat := by
    rw [digitsValue, List.foldl_cons, List.foldl_nil, Nat.zero_mul, Nat.zero_add]
  rw [← List.singleton_append, digitsValue_append, first]

namespace Json.Token

/-- What is read of digits and what is left: the value has counted on over those that are read, it
fits in sixty-four bits, and with the next digit it would not. -/
structure Takes (taken : Nat) (digits : List Char) (value : Nat) (front back : List Char) :
    Prop where
  split : digits = front ++ back
  counted : value = taken * 10 ^ front.length + digitsValue front
  fits : taken < wordLimit → value < wordLimit
  full : ∀ digit rest, back = digit :: rest →
    wordLimit ≤ value * 10 + (digit.toNat - '0'.toNat)

/-- Digits are read as long as they fit. -/
theorem exists_takes (taken : Nat) (digits : List Char) :
    ∃ front, Takes taken digits (takeDigits taken digits).1 front (takeDigits taken digits).2 := by
  induction digits generalizing taken with
  | nil => exact ⟨[], rfl, by simp [takeDigits, digitsValue], id, nofun⟩
  | cons digit rest ih =>
    rw [takeDigits]
    split
    · next small =>
      obtain ⟨front, takes⟩ := ih (taken * 10 + (digit.toNat - '0'.toNat))
      refine ⟨digit :: front, congrArg _ takes.split, ?_, fun _ => takes.fits small, takes.full⟩
      rw [takes.counted, digitsValue_cons, List.length_cons]
      ring
    · next large =>
      refine ⟨[], rfl, by simp [digitsValue], id, ?_⟩
      rintro _ _ ⟨⟩
      exact Nat.le_of_not_lt large

section

variable {taken value : Nat} {digits front back whole places : List Char}

/-- What is read with zeros for what is left is at most the value of all digits. -/
theorem Takes.value_mul_le (takes : Takes taken digits value front back) :
    value * 10 ^ back.length ≤ taken * 10 ^ digits.length + digitsValue digits := by
  rw [takes.split, digitsValue_append, List.length_append, Nat.pow_add, takes.counted, Nat.add_mul]
  linarith [Nat.zero_le (digitsValue back)]

/-- If digits are left, the value of all does not fit, even without those after the first left. -/
theorem Takes.wordLimit_mul_le {digit : Char} {rest : List Char}
    (takes : Takes taken digits value front (digit :: rest)) :
    wordLimit * 10 ^ rest.length ≤ taken * 10 ^ digits.length + digitsValue digits := by
  calc wordLimit * 10 ^ rest.length
    _ ≤ (value * 10 + (digit.toNat - '0'.toNat)) * 10 ^ rest.length :=
        Nat.mul_le_mul_right _ (takes.full digit rest rfl)
    _ ≤ (value * 10 + (digit.toNat - '0'.toNat)) * 10 ^ rest.length + digitsValue rest :=
        Nat.le_add_right _ _
    _ = taken * 10 ^ digits.length + digitsValue digits := by
        rw [takes.split, digitsValue_append, digitsValue_cons, takes.counted, List.length_append,
          List.length_cons]
        ring

/-- If the value of all digits fits, none is left. -/
theorem Takes.back_eq_nil (takes : Takes taken digits value front back)
    (small : taken * 10 ^ digits.length + digitsValue digits < wordLimit) : back = [] := by
  cases back with
  | nil => rfl
  | cons digit rest =>
    have bound := takes.wordLimit_mul_le
    have rest : wordLimit ≤ wordLimit * 10 ^ rest.length :=
      Nat.le_mul_of_pos_right _ (Nat.pow_pos (by decide))
    exact absurd (rest.trans bound) (Nat.not_le.2 small)

/-- The digits that are read on both sides of the point, with zeros for those that are not, are at
most the value of all. -/
theorem taken_mul_le (whole places : List Char) :
    (takeDigits (takeDigits 0 whole).1 places).1 *
        10 ^ ((takeDigits 0 whole).2.length +
          (takeDigits (takeDigits 0 whole).1 places).2.length) ≤
      digitsValue (whole ++ places) := by
  obtain ⟨front, takes⟩ := exists_takes 0 whole
  obtain ⟨placesFront, takesPlaces⟩ := exists_takes (takeDigits 0 whole).1 places
  generalize takeDigits 0 whole = read at takes takesPlaces ⊢
  generalize takeDigits read.1 places = all at takesPlaces ⊢
  obtain ⟨value, unread⟩ := read
  obtain ⟨total, left⟩ := all
  dsimp only at takes takesPlaces ⊢
  have wholeBound := takes.value_mul_le
  have placesBound := takesPlaces.value_mul_le
  rw [Nat.zero_mul, Nat.zero_add] at wholeBound
  rw [digitsValue_append]
  cases unread with
  | nil =>
    rw [List.length_nil, Nat.pow_zero, Nat.mul_one] at wholeBound
    rw [List.length_nil, Nat.zero_add]
    exact placesBound.trans (Nat.add_le_add_right (Nat.mul_le_mul_right _ wholeBound) _)
  | cons digit rest =>
    refine Nat.le_add_right_of_le ?_
    cases placesFront with
    | nil =>
      -- no digit of the fraction is read either
      have same : total = value := by
        rw [takesPlaces.counted, List.length_nil, Nat.pow_zero, Nat.mul_one]
        rfl
      have stays : left = places := takesPlaces.split.symm
      rw [same, stays, Nat.pow_add, ← Nat.mul_assoc]
      exact Nat.mul_le_mul_right _ wholeBound
    | cons place placesFront =>
      -- what is read fits, and the value before the point does not
      have overflow := takes.wordLimit_mul_le
      rw [Nat.zero_mul, Nat.zero_add] at overflow
      have fits : total < wordLimit := takesPlaces.fits (takes.fits (by decide))
      have longer : 1 + left.length ≤ places.length := by
        rw [takesPlaces.split, List.cons_append, List.length_cons, List.length_append]
        omega
      calc total * 10 ^ ((digit :: rest).length + left.length)
          ≤ wordLimit * 10 ^ ((digit :: rest).length + left.length) :=
            Nat.mul_le_mul_right _ fits.le
        _ = wordLimit * 10 ^ rest.length * 10 ^ (1 + left.length) := by
            rw [List.length_cons]
            ring
        _ ≤ digitsValue whole * 10 ^ places.length :=
            Nat.mul_le_mul overflow (Nat.pow_le_pow_right (by decide) longer)

/-- All digits are read if their value fits. -/
theorem takeDigits_eq (small : digitsValue (whole ++ places) < wordLimit) :
    takeDigits 0 whole = (digitsValue whole, []) ∧
      takeDigits (digitsValue whole) places = (digitsValue (whole ++ places), []) := by
  obtain ⟨front, takes⟩ := exists_takes 0 whole
  obtain ⟨placesFront, takesPlaces⟩ := exists_takes (digitsValue whole) places
  rw [digitsValue_append] at small ⊢
  have smallWhole : digitsValue whole < wordLimit := by
    have scaled := Nat.le_mul_of_pos_right (digitsValue whole)
      (Nat.pow_pos (by decide) : 0 < 10 ^ places.length)
    omega
  have none := takes.back_eq_nil (by rwa [Nat.zero_mul, Nat.zero_add])
  have noPlace := takesPlaces.back_eq_nil small
  have all := takes.split
  have allPlaces := takesPlaces.split
  rw [none, List.append_nil] at all
  rw [noPlace, List.append_nil] at allPlaces
  constructor
  · refine Prod.ext ?_ none
    rw [takes.counted, ← all, Nat.zero_mul, Nat.zero_add]
  · refine Prod.ext ?_ noPlace
    rw [takesPlaces.counted, ← allPlaces]

end

/-- The numeral that the parts of a number make. -/
def partsNumeral (whole places : List Char) (power : Int) : Numeral :=
  ⟨digitsValue (whole ++ places), power - places.length⟩

variable {negative : Bool} {whole places : List Char} {power : Int}

/-- A number whose nearest one is below the three largest finite ones is not out of range. -/
theorem isSome_realValue
    (below : ((partsNumeral whole places power).toBinary64 false).magnitude <
      (Binary64.belowInfinity 3).magnitude) :
    (realValue negative whole places power).isSome = true := by
  obtain ⟨finite, -⟩ := @Binary64.grains_belowInfinity 3 (by decide) (by decide)
  have bound := Binary64.value_lt_of_magnitude_lt finite below
  have taken := taken_mul_le whole places
  obtain ⟨front, takesPlaces⟩ := exists_takes (takeDigits 0 whole).1 places
  have shorter : (takeDigits (takeDigits 0 whole).1 places).2.length ≤ places.length := by
    have parts := congrArg List.length takesPlaces.split
    rw [List.length_append] at parts
    omega
  unfold partsNumeral at bound
  rw [realValue, Option.isSome_map]
  refine Binary64.isSome_scale? fun natural => ?_
  generalize takeDigits 0 whole = read at *
  generalize takeDigits read.1 places = all at *
  generalize digitsValue (whole ++ places) = value at *
  generalize (Binary64.belowInfinity 3).grains = limit at *
  obtain ⟨exponent, exponent_eq⟩ := Int.eq_ofNat_of_zero_le natural
  rw [exponent_eq, Int.toNat_natCast]
  dsimp only at bound
  have positive : 0 < 10 ^ (-(power - places.length)).toNat := Nat.pow_pos (by decide)
  have exponents : exponent + (-(power - places.length)).toNat =
      read.2.length + all.2.length + (power - places.length).toNat := by
    omega
  generalize (-(power - places.length)).toNat = lowered at *
  generalize (power - places.length).toNat = raised at *
  refine Nat.le_of_mul_le_mul_right ?_ positive
  calc all.1 * 10 ^ exponent * Binary64.grainsPerOne * 10 ^ lowered
      = all.1 * 10 ^ (exponent + lowered) * Binary64.grainsPerOne := by ring
    _ = all.1 * 10 ^ (read.2.length + all.2.length) * 10 ^ raised * Binary64.grainsPerOne := by
        rw [exponents]
        ring
    _ ≤ value * 10 ^ raised * Binary64.grainsPerOne :=
        Nat.mul_le_mul_right _ (Nat.mul_le_mul_right _ taken)
    _ ≤ limit * 10 ^ lowered := bound.le

/-- A number that is read is finite. -/
theorem isFinite_of_realValue {x : Binary64}
    (read : realValue negative whole places power = some (.real x)) : x.isFinite = true := by
  obtain ⟨_, takes⟩ := exists_takes 0 whole
  obtain ⟨_, takesPlaces⟩ := exists_takes (takeDigits 0 whole).1 places
  have few : (takeDigits (takeDigits 0 whole).1 places).1 < 2 ^ 64 :=
    takesPlaces.fits (takes.fits (by decide))
  obtain ⟨y, scaled, same⟩ := Option.map_eq_some_iff.1 read
  cases same
  have finite := Binary64.isFinite_of_scale? few scaled
  rwa [Binary64.isFinite, Binary64.magnitude_ofMagnitude _ (Binary64.magnitude_lt _)]

/-- A number of at most fifty-three bits whose last digit has one of the first powers of ten is read
as the nearest number. -/
theorem realValue_eq (few : (partsNumeral whole places power).digits < 2 ^ 53)
    (low : -22 ≤ (partsNumeral whole places power).exponent)
    (high : (partsNumeral whole places power).exponent ≤ 22) :
    realValue negative whole places power =
      some (.real ((partsNumeral whole places power).toBinary64 negative)) := by
  have small : digitsValue (whole ++ places) < wordLimit := Nat.lt_trans few (by decide)
  obtain ⟨readWhole, readPlaces⟩ := takeDigits_eq small
  have exponent : power + (([] : List Char).length : Int) -
      ((places.length - ([] : List Char).length : Nat) : Int) = power - places.length := by
    rw [List.length_nil, Nat.sub_zero]
    omega
  rw [realValue, readWhole]
  dsimp only
  rw [readPlaces]
  dsimp only
  rw [exponent]
  rw [partsNumeral] at few low high ⊢
  rw [Binary64.scale?_eq_ofRatio few low high, Option.map_some, Option.some_inj,
    JsonNumber.real.injEq, Numeral.toBinary64_of_short negative few low high, Binary64.ofRatio,
    Binary64.ofRatio,
    Binary64.magnitude_ofMagnitude _ (Nat.lt_of_le_of_lt (Binary64.nearestMagnitude_le _ _)
      (by decide))]

end Json.Token
end Campus
