import Campus.Proofs.Json.Numbers
/-!
# What printed numbers are read as

An integer in the sixty-four-bit range is read as itself from its printed form. A finite binary64
number is read as a number in range, and as itself if its digits and places are few. In general its
printed form is the shortest one that the number is the nearest to, so the number comes back where
this form is read with correct rounding.
-/

namespace Campus

namespace Binary64

variable {x : Binary64}

/-- Digits are no letters. -/
theorem toLower_of_isDigit {c : Char} (digit : c.isDigit = true) : c.toLower = c := by
  simp only [Char.isDigit, Bool.and_eq_true, decide_eq_true_eq] at digit
  have upper : c.val.toNat ≤ 57 := digit.2
  have noLetter : ¬('A'.val ≤ c.val ∧ c.val ≤ 'Z'.val) := by
    rintro ⟨letter, -⟩
    have lower : 65 ≤ c.val.toNat := letter
    omega
  exact dif_neg noLetter

/-- What starts with a digit is read as a numeral. -/
theorem readUnsigned?_of_digit {negative : Bool} {text : List Char} {c : Char} {n : Numeral}
    (head : text.head? = some c) (digit : c.isDigit = true) (read : readNumeral? text = some n) :
    readUnsigned? negative text = some (n.toBinary64 negative) := by
  have first : ((String.ofList (text.map Char.toLower)).toList).head? = some c := by
    rw [String.toList_ofList, List.head?_map, head, Option.map_some, toLower_of_isDigit digit]
  have notWord {word : Char} {rest : List Char} (notDigit : word.isDigit = false) :
      (String.ofList (text.map Char.toLower)).toList ≠ word :: rest := by
    intro same
    rw [same] at first
    obtain rfl : word = c := Option.some.inj first
    rw [digit] at notDigit
    cases notDigit
  unfold readUnsigned?
  split
  · next word => exact absurd (congrArg String.toList word) (notWord (by decide))
  · next word => exact absurd (congrArg String.toList word) (notWord (by decide))
  · next word => exact absurd (congrArg String.toList word) (notWord (by decide))
  · rw [read, Option.map_some]

open Json Json.Token in
/-- The printed form of a finite number is a text to which the number is the nearest. -/
theorem ofText?_realText (finite : x.isFinite = true) : ofText? (realText x) = some x := by
  obtain ⟨zeros, -, body, whole, places, power, numeral, ⟨⟨c, head, digit⟩, -, read, -⟩, text⟩ :=
    exists_realText_eq finite
  have nearest : (partsNumeral whole places power).toBinary64 x.isNegative = x := by
    rw [numeral, Numeral.toBinary64_withZeros, toBinary64_shortest .even finite]
  have unsigned : readUnsigned? x.isNegative body.toList = some x := by
    rw [readUnsigned?_of_digit head digit read, nearest]
  rw [text, ofText?]
  cases negative : x.isNegative with
  | true =>
    rw [negative] at unsigned
    rw [if_pos rfl, String.toList_append]
    exact unsigned
  | false =>
    rw [negative] at unsigned
    rw [if_neg Bool.false_ne_true]
    split
    · next rest same =>
      rw [same] at head
      cases head
      exact absurd digit (by decide)
    · next rest same =>
      rw [same] at head
      cases head
      exact absurd digit (by decide)
    · exact unsigned

end Binary64

namespace JsonNumber

open Json Json.Token

/-- A number that is printed as one: any but NaN and the infinities. -/
def IsWritable : JsonNumber → Prop
  | .integer _ => True
  | .real value => value.isFinite = true

/-- The number that the printed form of a number is read as, if it is one and in range. -/
def reread? (n : JsonNumber) : Option JsonNumber :=
  match scan (Bytes.ofText (numberText n)) with
  | some [.number value] => value
  | _ => none

/-- What is read of a number that is scanned. -/
theorem reread?_eq {n : JsonNumber} {value : Option JsonNumber}
    (scans : ScansNumber (numberText n) value) : n.reread? = value := by
  rw [reread?, scans.scan_eq]

/-- An integer is read as what its digits are. -/
theorem reread?_integer (value : Int) : (integer value).reread? =
    integerValue (decide (value < 0)) (Nat.toDigits 10 value.natAbs) :=
  reread?_eq (scansNumber_integer value)

/-- An integer in the sixty-four-bit range is read as itself. -/
theorem reread?_integer_eq {value : Int} (lower : -0x8000000000000000 ≤ value)
    (upper : value < 0x10000000000000000) : (integer value).reread? = some (integer value) := by
  rw [reread?_integer, integerValue, digitsValue_toDigits]
  by_cases negative : value < 0
  · rw [decide_eq_true negative, if_pos rfl, if_pos ⟨by omega, by omega⟩]
    exact congrArg (some ∘ integer) (by omega)
  · have inRange : value.natAbs < wordLimit := by
      unfold wordLimit
      omega
    rw [decide_eq_false negative, if_neg Bool.false_ne_true, if_pos inRange]
    exact congrArg (some ∘ integer) (by omega)

/-- A larger integer is not read as an integer. -/
theorem reread?_integer_ne {n : Nat} (large : 0x10000000000000000 ≤ n) (m : Int) :
    (integer n).reread? ≠ some (integer m) := by
  have notNegative : ¬(n : Int) < 0 := by omega
  have beyond : ¬n < wordLimit := Nat.not_lt.2 large
  rw [reread?_integer, decide_eq_false notNegative, Int.natAbs_natCast, integerValue,
    digitsValue_toDigits, if_neg Bool.false_ne_true, if_neg beyond, realValue]
  intro read
  obtain ⟨_, -, same⟩ := Option.map_eq_some_iff.1 read
  cases same

section

variable {x : Binary64}

/-- A finite number is read by parts that make its shortest numeral, with zeros behind its digits
only up to the first place. -/
theorem exists_reread?_eq_realValue (finite : x.isFinite = true) :
    ∃ zeros ≤ ((x.shortest .even).exponent + 1).toNat, ∃ whole places power,
      partsNumeral whole places power = (x.shortest .even).withZeros zeros ∧
        ScansNumber (numberText (real x)) (realValue x.isNegative whole places power) ∧
          (real x).reread? = realValue x.isNegative whole places power := by
  obtain ⟨zeros, few, body, whole, places, power, numeral, spells, text⟩ :=
    exists_realText_eq finite
  have scans := spells.scansNumber x.isNegative
  rw [← text] at scans
  exact ⟨zeros, few, whole, places, power, numeral, scans, reread?_eq scans⟩

/-- The three largest finite numbers are read as numbers in range. -/
theorem isSome_reread?_belowInfinity (negative : Bool) : ∀ steps < 4, 0 < steps →
    (real (.ofMagnitude negative (Binary64.infinityMagnitude - steps))).reread?.isSome = true := by
  cases negative <;> decide +kernel

/-- A finite number is read as a number in range. -/
theorem isSome_reread?_real (finite : x.isFinite = true) : (real x).reread?.isSome = true := by
  by_cases small : x.magnitude < (Binary64.belowInfinity 3).magnitude
  · obtain ⟨zeros, -, whole, places, power, numeral, -, read⟩ := exists_reread?_eq_realValue finite
    have nearest : ((partsNumeral whole places power).toBinary64 false).magnitude =
        x.magnitude := by
      have readsBack := congrArg Binary64.magnitude (Binary64.toBinary64_shortest .even finite)
      rw [Numeral.toBinary64_eq_ofMagnitude,
        Binary64.magnitude_ofMagnitude _ (Binary64.magnitude_lt _)] at readsBack
      rw [numeral, Numeral.toBinary64_withZeros, readsBack]
    rw [read]
    exact isSome_realValue (nearest.trans_lt small)
  · have below : x.magnitude < Binary64.infinityMagnitude := of_decide_eq_true finite
    have near : Binary64.infinityMagnitude - x.magnitude < 4 := by
      have three : (Binary64.belowInfinity 3).magnitude = Binary64.infinityMagnitude - 3 := by
        decide
      omega
    have one := isSome_reread?_belowInfinity x.isNegative _ near (by omega)
    rwa [Nat.sub_sub_self below.le, Binary64.ofMagnitude_isNegative_magnitude] at one

/-- A finite number is read as a finite binary64 number. -/
theorem exists_reread?_real (finite : x.isFinite = true) :
    ∃ y, (real x).reread? = some (real y) ∧ y.isFinite = true := by
  obtain ⟨_, -, whole, places, power, -, -, read⟩ := exists_reread?_eq_realValue finite
  have some := isSome_reread?_real finite
  rw [read] at some ⊢
  obtain ⟨n, value⟩ := Option.isSome_iff_exists.1 some
  obtain ⟨y, -, rfl⟩ := Option.map_eq_some_iff.1 value
  exact ⟨_, value, isFinite_of_realValue value⟩

/-- NaN and the infinities are printed as no number. -/
theorem reread?_real_eq_none (infinite : ¬x.isFinite = true) : (real x).reread? = none := by
  rw [reread?, numberText, realText, if_neg infinite]
  decide

/-- A finite number of few digits and few places is read as itself. -/
theorem reread?_real_of_short (finite : x.isFinite = true)
    (few : (x.shortest .even).digits * 10 ^ ((x.shortest .even).exponent + 1).toNat < 2 ^ 53)
    (low : -22 ≤ (x.shortest .even).exponent) : (real x).reread? = some (real x) := by
  obtain ⟨zeros, most, whole, places, power, numeral, -, read⟩ := exists_reread?_eq_realValue finite
  have readsBack := Binary64.toBinary64_shortest .even finite
  have normal : (x.shortest .even).digits = 0 → (x.shortest .even).exponent = 0 := by
    intro none
    rw [Binary64.shortest_eq_of_digits_eq_zero finite none]
  rw [read]
  generalize x.shortest .even = n at *
  have high : n.exponent ≤ 22 := by
    by_contra beyond
    have positive : 0 < n.digits := Nat.pos_of_ne_zero fun none => beyond (by simp [normal none])
    refine Nat.not_le.2 few ?_
    calc 2 ^ 53 ≤ 10 ^ 23 := by decide
      _ ≤ 10 ^ (n.exponent + 1).toNat := Nat.pow_le_pow_right (by decide) (by omega)
      _ ≤ n.digits * 10 ^ (n.exponent + 1).toNat := Nat.le_mul_of_pos_left _ positive
  rw [realValue_eq, numeral, Numeral.toBinary64_withZeros, readsBack]
  · rw [numeral]
    calc n.digits * 10 ^ zeros ≤ n.digits * 10 ^ (n.exponent + 1).toNat :=
          Nat.mul_le_mul_left _ (Nat.pow_le_pow_right (by decide) most)
      _ < 2 ^ 53 := few
  all_goals
    rw [numeral, Numeral.withZeros]
    dsimp only
    omega

end

/-- A printed number is scanned as what it is read as. -/
theorem scansNumber_numberText {n : JsonNumber} (writable : n.IsWritable) :
    ScansNumber (numberText n) n.reread? := by
  cases n with
  | integer value =>
    rw [reread?_integer]
    exact scansNumber_integer value
  | real value =>
    obtain ⟨_, -, _, _, _, -, scans, read⟩ := exists_reread?_eq_realValue writable
    rwa [read]

end JsonNumber

namespace Binary64

variable {x : Binary64}

/-- The printed form of a number is read with correct rounding: as the number nearest to the
text. -/
def IsReadNearest (x : Binary64) : Prop :=
  (JsonNumber.real x).reread? = (ofText? (Json.realText x)).map .real

/-- Whether a number is read with correct rounding can be computed. -/
instance (x : Binary64) : Decidable x.IsReadNearest := inferInstanceAs (Decidable (_ = _))

/-- A finite number is read as itself exactly if its printed form is read with correct rounding. -/
theorem isReadNearest_iff (finite : x.isFinite = true) :
    x.IsReadNearest ↔ (JsonNumber.real x).reread? = some (.real x) := by
  rw [IsReadNearest, ofText?_realText finite, Option.map_some]

/-- A finite number of few digits and few places is read with correct rounding. -/
theorem isReadNearest_of_short (finite : x.isFinite = true)
    (few : (x.shortest .even).digits * 10 ^ ((x.shortest .even).exponent + 1).toNat < 2 ^ 53)
    (low : -22 ≤ (x.shortest .even).exponent) : x.IsReadNearest :=
  (isReadNearest_iff finite).2 (JsonNumber.reread?_real_of_short finite few low)

/-- In general a number is not read as itself. -/
example : ((ofText? "2015.0000000000002").map fun x => decide x.IsReadNearest) = some false := by
  decide +kernel

end Binary64
end Campus
