import Campus.Number.Reading
import Campus.Proofs.Json.Numbers
import Campus.Proofs.Number.Decimals
/-!
# The values of decimal texts

The plain text of a finite number has the value of its shortest numeral, and as many places as the
numeral. A number below one million has a text below `2 ^ 20`, because the text reads back; if it
has few places, the decimal taken from it has its value.
-/

namespace Campus

/-- The characters of a number's text after the point. -/
def placesOf (text : String) : List Char := (text.toList.dropWhile (· ≠ '.')).tail

/-- The number a plain decimal text spells: its digits over the power of ten of its places, below
zero after a minus sign. -/
def textValue (text : String) : ℚ :=
  signed (text.toList.head? == some '-')
    (digitsValue (text.toList.filter Char.isDigit) / 10 ^ (placesOf text).length)

/-- Digits with a point before the last of them, unless all of them stand before it. -/
def pointed (whole places : List Char) : List Char :=
  whole ++ if places = [] then [] else '.' :: places

section Pointed

variable {whole places : List Char} (areDigits : ∀ c ∈ whole ++ places, c.isDigit = true)

include areDigits

/-- The digits of a text with a point. -/
theorem filter_isDigit_pointed : (pointed whole places).filter Char.isDigit = whole ++ places := by
  have point : Char.isDigit '.' = false := by decide
  have kept : ∀ c ∈ whole, c.isDigit = true := fun c member =>
    areDigits c (List.mem_append_left _ member)
  have keptPlaces : ∀ c ∈ places, c.isDigit = true := fun c member =>
    areDigits c (List.mem_append_right _ member)
  unfold pointed
  rw [List.filter_append, List.filter_eq_self.2 kept]
  split
  · next none => rw [none]; rfl
  · rw [List.filter_cons_of_neg (by simp [point]), List.filter_eq_self.2 keptPlaces]

/-- What stands after the point. -/
theorem tail_dropWhile_pointed :
    ((pointed whole places).dropWhile (· ≠ '.')).tail = places := by
  have before : ∀ c ∈ whole, decide (c ≠ '.') = true := by
    intro c member
    rw [decide_eq_true_eq]
    rintro rfl
    exact absurd (areDigits '.' (List.mem_append_left _ member)) (by decide)
  unfold pointed
  rw [List.dropWhile_append_of_pos before]
  split
  · next none => rw [none]; rfl
  · simp

/-- A text with a point starts with no sign. -/
theorem head?_pointed : ((pointed whole places).head? == some '-') = false := by
  rw [beq_eq_false_iff_ne]
  intro first
  have member : '-' ∈ pointed whole places := List.mem_of_head? first
  have digit : '-' ∈ whole ++ places := by
    unfold pointed at member
    split at member
    · simpa [*] using member
    · simpa using member
  exact absurd (areDigits '-' digit) (by decide)

end Pointed

/-- The plain text of a numeral is its digits with a point before its places. -/
theorem Numeral.exists_plain_eq (n : Numeral) :
    ∃ whole places, n.plain.toList = pointed whole places ∧
      (∀ c ∈ whole ++ places, c.isDigit = true) ∧ places.length = (-n.exponent).toNat ∧
      digitsValue (whole ++ places) = n.digits * 10 ^ n.exponent.toNat := by
  unfold plain
  dsimp only
  split
  · next natural =>
    refine ⟨Nat.toDigits 10 n.digits ++ List.replicate n.exponent.toNat '0', [], ?_, ?_, ?_, ?_⟩
    · rw [String.toList_ofList, pointed, if_pos rfl, List.append_nil]
    · rw [List.append_nil]
      intro c member
      exact (List.mem_append.1 member).elim (Json.Token.isDigit_of_mem_toDigits c)
        (Json.Token.isDigit_of_mem_zeros c)
    · rw [List.length_nil]
      omega
    · rw [List.append_nil, digitsValue_append_zeros, digitsValue_toDigits]
  · next broken =>
    generalize count : (-n.exponent).toNat = places
    generalize padding : List.replicate (places + 1 - (Nat.toDigits 10 n.digits).length) '0' ++
      Nat.toDigits 10 n.digits = padded
    have long : places ≤ padded.length := by
      rw [← padding, List.length_append, List.length_replicate]
      omega
    have length : (padded.drop (padded.length - places)).length = places := by
      rw [List.length_drop]
      omega
    have notNone : padded.drop (padded.length - places) ≠ [] :=
      List.ne_nil_of_length_pos (by omega)
    refine ⟨padded.take (padded.length - places), padded.drop (padded.length - places), ?_, ?_,
      length, ?_⟩
    · rw [String.toList_ofList, pointed, if_neg notNone]
    · rw [List.take_append_drop, ← padding]
      intro c member
      exact (List.mem_append.1 member).elim (Json.Token.isDigit_of_mem_zeros c)
        (Json.Token.isDigit_of_mem_toDigits c)
    · have none : n.exponent.toNat = 0 := by omega
      rw [List.take_append_drop, ← padding, digitsValue_zeros_append, digitsValue_toDigits, none,
        pow_zero, mul_one]

namespace Binary64

variable {x : Binary64}

/-- The plain text of a finite number. -/
theorem toList_display (finite : x.isFinite = true) :
    x.display.toList = (if x.isNegative then ['-'] else []) ++ (x.shortest .up).plain.toList := by
  have notNaN : x.isNaN = false := by
    have below : x.magnitude < infinityMagnitude := by simpa [isFinite] using finite
    simp only [isNaN, decide_eq_false_iff_not]
    omega
  rw [display, notNaN, if_neg Bool.false_ne_true, finite, if_pos rfl]
  cases x.isNegative
  · simp
  · simp [String.toList_append]

/-- The places of a finite number's text are those of its shortest numeral. -/
theorem length_placesOf_display (finite : x.isFinite = true) :
    (placesOf x.display).length = (-(x.shortest .up).exponent).toNat := by
  obtain ⟨whole, places, plain, areDigits, length, -⟩ := (x.shortest .up).exists_plain_eq
  rw [placesOf, toList_display finite, plain, ← length]
  have minus : (['-'] ++ pointed whole places).dropWhile (· ≠ '.') =
      (pointed whole places).dropWhile (· ≠ '.') := rfl
  cases x.isNegative
  · rw [if_neg Bool.false_ne_true, List.nil_append, tail_dropWhile_pointed areDigits]
  · rw [if_pos rfl, minus, tail_dropWhile_pointed areDigits]

/-- The text of a finite number has the value of its shortest numeral. -/
theorem textValue_display (finite : x.isFinite = true) :
    textValue x.display = signed x.isNegative
      (((x.shortest .up).digits * 10 ^ (x.shortest .up).exponent.toNat : ℕ) /
        (10 ^ (-(x.shortest .up).exponent).toNat : ℕ) : ℚ) := by
  obtain ⟨whole, places, plain, areDigits, -, value⟩ := (x.shortest .up).exists_plain_eq
  have digits := filter_isDigit_pointed areDigits
  have minus : (['-'] ++ pointed whole places).filter Char.isDigit =
      (pointed whole places).filter Char.isDigit := rfl
  rw [textValue, length_placesOf_display finite, toList_display finite, plain]
  cases x.isNegative
  · rw [if_neg Bool.false_ne_true, List.nil_append, head?_pointed areDigits, digits, value]
    push_cast
    rfl
  · rw [if_pos rfl, minus, digits, value]
    push_cast
    rfl

/-- A power of two. -/
def powerOfTwo (count : ℕ) : Binary64 := ofMagnitude false ((count + 1023) * 0x10000000000000)

/-- The finite powers of two. -/
theorem powerOfTwo_spec {count : ℕ} (inRange : count ≤ 1023) :
    (powerOfTwo count).isFinite = true ∧
      (powerOfTwo count).magnitude = (count + 1023) * 0x10000000000000 ∧
        (powerOfTwo count).grains = 2 ^ count * grainsPerOne := by
  have unit : count + 1022 < 0x7FE := by omega
  obtain ⟨finite, grains⟩ := grains_ofMagnitude (Nat.le_refl 0x10000000000000) (by decide) unit false
  rw [powerOfTwo, Nat.succ_mul (count + 1022)]
  refine ⟨finite, magnitude_ofMagnitude _ (by omega), grains.trans ?_⟩
  rw [grainsPerOne_eq, ← pow_add, show count + 1074 = 52 + (count + 1022) by omega, pow_add 2 52]
  norm_num

/-- A ratio of at least a power of two is rounded to at least that power. -/
theorem le_nearestMagnitude {num den count : ℕ} (positive : 0 < den) (inRange : count ≤ 1023)
    (large : 2 ^ count * den ≤ num) :
    (count + 1023) * 0x10000000000000 ≤ nearestMagnitude num den := by
  obtain ⟨finite, magnitude, grains⟩ := powerOfTwo_spec inRange
  rw [← magnitude]
  refine magnitude_le_nearestMagnitude finite positive ?_
  rw [grains, mul_right_comm]
  exact Nat.mul_le_mul_right _ large

/-- A numeral that is read as a number below a power of two is below that power. -/
theorem lt_of_toBinary64 {n : Numeral} {count : ℕ} (inRange : count ≤ 1023)
    (below : (n.toBinary64 false).magnitude < (count + 1023) * 0x10000000000000) :
    n.digits * 10 ^ n.exponent.toNat < 2 ^ count * 10 ^ (-n.exponent).toNat := by
  obtain ⟨finite, magnitude, grains⟩ := powerOfTwo_spec inRange
  rw [← magnitude] at below
  have less := value_lt_of_magnitude_lt finite below
  rw [grains, mul_right_comm (2 ^ count)] at less
  exact Nat.lt_of_mul_lt_mul_right less

/-- A finite number below one million with at most twelve places in its text. -/
structure IsModest (x : Binary64) : Prop where
  finite : x.isFinite = true
  below : x.abs.less (.ofNat 1000000) = true
  places : (placesOf x.display).length ≤ 12

/-- Whether a number is modest can be computed. -/
instance (x : Binary64) : Decidable x.IsModest :=
  decidable_of_iff (x.isFinite = true ∧ x.abs.less (.ofNat 1000000) = true ∧
      (placesOf x.display).length ≤ 12)
    ⟨fun ⟨finite, below, places⟩ => ⟨finite, below, places⟩,
      fun ⟨finite, below, places⟩ => ⟨finite, below, places⟩⟩

/-- The shortest numeral of a number below one million. -/
theorem shortest_lt (finite : x.isFinite = true) (below : x.abs.less (.ofNat 1000000) = true) :
    (x.shortest .up).digits * 10 ^ (x.shortest .up).exponent.toNat <
      2 ^ 20 * 10 ^ (-(x.shortest .up).exponent).toNat := by
  have bound : (ofNat 1000000).key ≤ (20 + 1023) * 0x10000000000000 := by decide +kernel
  simp only [less, Bool.and_eq_true, decide_eq_true_eq] at below
  rw [key_abs] at below
  have readsBack : ((x.shortest .up).toBinary64 false).magnitude = x.magnitude := by
    have whole := congrArg magnitude (toBinary64_shortest .up finite)
    rwa [Numeral.toBinary64_eq_ofMagnitude, magnitude_ofMagnitude _ (magnitude_lt _)] at whole
  exact lt_of_toBinary64 (by decide) (by rw [readsBack]; omega)

/-- The decimal taken from a number has the value of its text. -/
theorem IsModest.exists_ofBinary64? (modest : x.IsModest) :
    ∃ a, Decimal.ofBinary64? x = some a ∧ a.Holds 12 (textValue x.display) := by
  have places := length_placesOf_display modest.finite ▸ modest.places
  have small : (x.shortest .up).digits * 10 ^ (x.shortest .up).exponent.toNat < 2 ^ 96 := by
    calc (x.shortest .up).digits * 10 ^ (x.shortest .up).exponent.toNat
        < 2 ^ 20 * 10 ^ (-(x.shortest .up).exponent).toNat := shortest_lt modest.finite modest.below
      _ ≤ 2 ^ 20 * 10 ^ 12 := Nat.mul_le_mul_left _ (Nat.pow_le_pow_right (by decide) places)
      _ ≤ 2 ^ 96 := by norm_num
  rw [textValue_display modest.finite, Decimal.ofBinary64?, if_pos modest.finite]
  exact Decimal.exists_ofNumeral? x.isNegative (by decide) places small

/-- The text of a number below one million has a value below `2 ^ 20`. -/
theorem IsModest.abs_textValue_lt (modest : x.IsModest) : |textValue x.display| < 2 ^ 20 := by
  have small := shortest_lt modest.finite modest.below
  have power : (0 : ℚ) < (10 ^ (-(x.shortest .up).exponent).toNat : ℕ) := by positivity
  rw [textValue_display modest.finite, abs_signed _ (by positivity), div_lt_iff₀ power]
  exact_mod_cast small

end Binary64

end Campus
