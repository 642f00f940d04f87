import Campus.Proofs.Json.Digits
import Campus.Proofs.Json.Quoting
/-!
# Number texts

The printed forms of numbers are scanned to numbers again: integers in the sixty-four-bit range to
themselves, and finite binary64 numbers, positional or with an exponent, to what scaling their
digits yields. This is the number itself if its digits and places are few, but it need not be. A
number ends where a byte follows that cannot continue it.
-/

namespace Campus.Json

namespace Token

/-- What follows a number does not continue it. -/
def EndsNumber (rest : List UInt8) : Prop :=
  ∀ b ∈ rest.head?, isDigit b = false ∧ b ≠ ascii '.' ∧ b ≠ ascii 'e' ∧ b ≠ ascii 'E'

/-- Digits are ASCII. -/
theorem toNat_lt_of_isDigit {c : Char} (digit : c.isDigit = true) : c.toNat < 0x80 := by
  simp only [Char.isDigit, Bool.and_eq_true, decide_eq_true_eq] at digit
  have upper : c.val.toNat ≤ 57 := digit.2
  exact Nat.lt_of_le_of_lt upper (by decide)

/-- The byte of a digit is one. -/
theorem isDigit_ascii {c : Char} (digit : c.isDigit = true) : isDigit (ascii c) = true := by
  have small := toNat_lt_of_isDigit digit
  simp only [Char.isDigit, Bool.and_eq_true, decide_eq_true_eq] at digit
  have lower : 48 ≤ c.toNat := digit.1
  have upper : c.toNat ≤ 57 := digit.2
  simp only [isDigit, ascii, Bool.and_eq_true, decide_eq_true_eq, UInt8.le_iff_toNat_le,
    UInt8.toNat_ofNat']
  have value : c.toNat % 2 ^ 8 = c.toNat := Nat.mod_eq_of_lt (by omega)
  rw [value]
  exact ⟨lower, upper⟩

/-- ASCII characters are got back from their bytes. -/
theorem toChars_map_ascii {chars : List Char} (small : ∀ c ∈ chars, c.toNat < 0x80) :
    toChars (chars.map ascii) = chars := by
  rw [toChars, List.map_map]
  refine (List.map_congr_left fun c member => ?_).trans (List.map_id _)
  have value : c.toNat % 2 ^ 8 = c.toNat := Nat.mod_eq_of_lt (by have := small c member; omega)
  simp only [Function.comp_apply, ascii, UInt8.toNat_ofNat', value, Char.ofNat_toNat, id_eq]

/-- Digits are taken up to the first element that is none. -/
theorem takeWhile_digits {α : Type} {isDigit : α → Bool} {digits tail : List α}
    (areDigits : ∀ b ∈ digits, isDigit b = true) (stops : ∀ b ∈ tail.head?, isDigit b = false) :
    (digits ++ tail).takeWhile isDigit = digits ∧ (digits ++ tail).dropWhile isDigit = tail := by
  have none : tail.takeWhile isDigit = [] ∧ tail.dropWhile isDigit = tail := by
    cases tail with
    | nil => exact ⟨rfl, rfl⟩
    | cons b others =>
      have stop := stops b rfl
      simp [stop]
  constructor
  · rw [List.takeWhile_append_of_pos areDigits, none.1, List.append_nil]
  · rw [List.dropWhile_append_of_pos areDigits, none.2]

variable {digits rest : List Char} {tail : List UInt8}

/-- Digits are taken up to the first byte that is none. -/
theorem takeWhile_isDigit (areDigits : ∀ c ∈ digits, c.isDigit = true)
    (stops : ∀ b ∈ tail.head?, isDigit b = false) :
    (digits.map ascii ++ tail).takeWhile isDigit = digits.map ascii ∧
      (digits.map ascii ++ tail).dropWhile isDigit = tail := by
  refine takeWhile_digits (fun b member => ?_) stops
  obtain ⟨c, stands, rfl⟩ := List.mem_map.1 member
  exact isDigit_ascii (areDigits c stands)

/-- Without a point there is no fraction. -/
theorem scanFraction_none (stops : ∀ b ∈ tail.head?, b ≠ ascii '.') :
    scanFraction tail = some (none, tail) := by
  cases tail with
  | nil => rfl
  | cons b others => rw [scanFraction, if_neg (stops b rfl)]

/-- Digits after a point are a fraction. -/
theorem scanFraction_digits (nonEmpty : digits ≠ []) (areDigits : ∀ c ∈ digits, c.isDigit = true)
    (stops : ∀ b ∈ tail.head?, isDigit b = false) :
    scanFraction (ascii '.' :: (digits.map ascii ++ tail)) =
      some (some (digits.map ascii), tail) := by
  obtain ⟨taken, dropped⟩ := takeWhile_isDigit areDigits stops
  have someDigits : (digits.map ascii).isEmpty = false := by simpa [List.isEmpty_iff] using nonEmpty
  rw [scanFraction, if_pos rfl]
  simp only [taken, dropped, someDigits]
  rfl

/-- Without its letter there is no power of ten. -/
theorem scanPower_none (stops : ∀ b ∈ tail.head?, b ≠ ascii 'e' ∧ b ≠ ascii 'E') :
    scanPower tail = some (none, tail) := by
  cases tail with
  | nil => rfl
  | cons b others =>
    obtain ⟨notLower, notUpper⟩ := stops b rfl
    simp only [scanPower, notLower, notUpper, decide_false, Bool.or_self, Bool.false_eq_true,
      ↓reduceIte]

/-- A letter, a sign and digits are a power of ten. -/
theorem scanPower_digits (negative : Bool) (nonEmpty : digits ≠ [])
    (areDigits : ∀ c ∈ digits, c.isDigit = true) (stops : ∀ b ∈ tail.head?, isDigit b = false) :
    scanPower (ascii 'e' :: ascii (if negative then '-' else '+') :: (digits.map ascii ++ tail)) =
      some (some (if negative then -(digitsValue digits : Int) else digitsValue digits), tail) := by
  obtain ⟨taken, dropped⟩ := takeWhile_isDigit areDigits stops
  have someDigits : (digits.map ascii).isEmpty = false := by simpa [List.isEmpty_iff] using nonEmpty
  have chars := toChars_map_ascii fun c member => toNat_lt_of_isDigit (areDigits c member)
  have notMinus : ascii '+' ≠ ascii '-' := by decide
  cases negative <;>
    simp only [scanPower, decide_true, Bool.true_or, ↓reduceIte, Bool.false_eq_true,
      if_neg notMinus, taken, dropped, someDigits, chars]

/-- With a fraction a number is no integer. -/
theorem partsValue_places (negative : Bool) (whole places : List Char) (power : Option Int) :
    partsValue negative whole (some places) power =
      realValue negative whole places (power.getD 0) := by
  cases power <;> rfl

/-- The bytes of a number are its digits, which do not start with a superfluous zero, and its
fraction and power of ten. -/
theorem scanNumber_parts (negative : Bool) {whole : List UInt8} {fraction : Option (List UInt8)}
    {power : Option Int} {after last : List UInt8} (nonEmpty : whole ≠ [])
    (areDigits : ∀ b ∈ whole, isDigit b = true)
    (noZero : whole.length = 1 ∨ whole.head? ≠ some (ascii '0'))
    (stops : ∀ b ∈ tail.head?, isDigit b = false)
    (hasFraction : scanFraction tail = some (fraction, after))
    (hasPower : scanPower after = some (power, last)) :
    scanNumber negative (whole ++ tail) =
      some (.number (partsValue negative (toChars whole) (fraction.map toChars) power), last) := by
  obtain ⟨taken, dropped⟩ := takeWhile_digits areDigits stops
  have someDigits : whole.isEmpty = false := by simpa [List.isEmpty_iff] using nonEmpty
  have noLeadingZero : ¬(1 < whole.length ∧ whole.head? = some (ascii '0')) := by
    rintro ⟨several, zero⟩
    rcases noZero with one | notZero
    · omega
    · exact notZero zero
  unfold scanNumber
  simp only [taken, dropped, someDigits, noLeadingZero, hasFraction, Bool.false_eq_true,
    ↓reduceIte, Option.bind_eq_bind, Option.bind_some, hasPower, Option.pure_def]

/-- A number is its digits, which do not start with a superfluous zero, and its fraction and power
of ten. -/
theorem scanNumber_eq (negative : Bool) {whole : List Char} (fraction : Option (List Char))
    {power : Option Int} {after last : List UInt8} (nonEmpty : whole ≠ [])
    (areDigits : ∀ c ∈ whole ++ fraction.getD [], c.isDigit = true)
    (noZero : whole.length = 1 ∨ whole.head? ≠ some '0')
    (stops : ∀ b ∈ tail.head?, isDigit b = false)
    (hasFraction : scanFraction tail = some (fraction.map (List.map ascii), after))
    (hasPower : scanPower after = some (power, last)) :
    scanNumber negative (whole.map ascii ++ tail) =
      some (.number (partsValue negative whole fraction power), last) := by
  have small {chars : List Char} (within : ∀ c ∈ chars, c ∈ whole ++ fraction.getD []) :
      toChars (chars.map ascii) = chars :=
    toChars_map_ascii fun c member => toNat_lt_of_isDigit (areDigits c (within c member))
  have wholeDigits : ∀ c ∈ whole, c.isDigit = true := fun c member =>
    areDigits c (List.mem_append_left _ member)
  have bytes : ∀ b ∈ whole.map ascii, isDigit b = true := by
    intro b member
    obtain ⟨c, stands, rfl⟩ := List.mem_map.1 member
    exact isDigit_ascii (wholeDigits c stands)
  have noLeadingZero : (whole.map ascii).length = 1 ∨
      (whole.map ascii).head? ≠ some (ascii '0') := by
    refine noZero.imp (fun one => by rwa [List.length_map]) fun notZero zero => ?_
    rw [List.head?_map, Option.map_eq_some_iff] at zero
    obtain ⟨c, first, same⟩ := zero
    have digit := wholeDigits c (List.mem_of_head? first)
    exact notZero (eq_of_ascii_eq (toNat_lt_of_isDigit digit) (by decide) same ▸ first)
  have scanned := scanNumber_parts negative (by simpa using nonEmpty) bytes noLeadingZero stops
    hasFraction hasPower
  rw [scanned, small fun c member => List.mem_append_left _ member]
  cases fraction with
  | none => rfl
  | some places =>
    have places_eq : toChars (places.map ascii) = places :=
      small fun c member => List.mem_append_right _ member
    rw [Option.map_some, Option.map_some, places_eq]

/-- Characters that are scanned, with either sign before them, as a number of some parts, and are
read as the numeral that the parts make. -/
structure SpellsParts (chars whole places : List Char) (power : Int) : Prop where
  starts : ∃ c, chars.head? = some c ∧ c.isDigit = true
  ascii : ∀ c ∈ chars, c.toNat < 0x80
  read : readNumeral? chars = some (partsNumeral whole places power)
  scanned : ∀ negative rest, EndsNumber rest → scanNumber negative (chars.map Token.ascii ++ rest) =
    some (.number (realValue negative whole places power), rest)

/-- Characters that are scanned as a number whose parts make a numeral. -/
def SpellsNumeral (chars : List Char) (n : Numeral) : Prop :=
  ∃ whole places power, partsNumeral whole places power = n ∧ SpellsParts chars whole places power

/-- Characters that are scanned, where a number ends, as a power of ten or as none, and are read as
it. -/
structure SpellsPower (chars : List Char) (power : Option Int) : Prop where
  ascii : ∀ c ∈ chars, c.toNat < 0x80
  starts : ∀ c ∈ chars.head?, c.isDigit = false ∧ c ≠ '.'
  read : readScale? chars = some (power.getD 0)
  apart : ∀ rest, EndsNumber rest → ∀ b ∈ (chars.map Token.ascii ++ rest).head?,
    isDigit b = false ∧ b ≠ Token.ascii '.'
  scanned : ∀ rest, EndsNumber rest →
    scanPower (chars.map Token.ascii ++ rest) = some (power, rest)

/-- The digits of numbers are digits. -/
theorem isDigit_of_mem_toDigits {n : Nat} : ∀ c ∈ Nat.toDigits 10 n, c.isDigit = true :=
  fun _ member => Nat.isDigit_of_mem_toDigits (by decide) (by decide) member

/-- The first digit of a number. -/
theorem exists_head?_toDigits (n : Nat) :
    ∃ c, (Nat.toDigits 10 n).head? = some c ∧ c.isDigit = true := by
  obtain ⟨c, rest, digits⟩ := List.exists_cons_of_ne_nil (Nat.toDigits_ne_nil (n := n) (b := 10))
  have digit := isDigit_of_mem_toDigits (n := n) c
  rw [digits] at digit
  exact ⟨c, by rw [digits]; rfl, digit List.mem_cons_self⟩

/-- Zeros are digits. -/
theorem isDigit_of_mem_zeros {count : Nat} : ∀ c ∈ List.replicate count '0', c.isDigit = true := by
  intro c member
  rw [List.eq_of_mem_replicate member]
  decide

/-- A number may end without a power of ten. -/
theorem spellsPower_nil : SpellsPower [] none where
  ascii c member := by cases member
  starts c first := by cases first
  read := rfl
  apart rest ends b first := ⟨(ends b first).1, (ends b first).2.1⟩
  scanned rest ends := scanPower_none fun b first => (ends b first).2.2

/-- A letter, a sign and the digits of a power of ten. -/
def powerChars (power : Int) : List Char :=
  'e' :: (if decide (power < 0) then '-' else '+') :: Nat.toDigits 10 power.natAbs

/-- A power of ten is spelled by its letter, sign and digits. -/
theorem spellsPower_powerChars (power : Int) : SpellsPower (powerChars power) (some power) := by
  constructor
  · intro c member
    rcases List.mem_cons.1 member with rfl | member
    · decide
    · rcases List.mem_cons.1 member with rfl | member
      · by_cases negative : power < 0 <;> simp [negative]
      · exact toNat_lt_of_isDigit (isDigit_of_mem_toDigits c member)
  · rintro c ⟨rfl⟩
    exact ⟨by decide, by decide⟩
  · have allDigits : (Nat.toDigits 10 power.natAbs).all Char.isDigit = true :=
      List.all_eq_true.2 isDigit_of_mem_toDigits
    have some : (Nat.toDigits 10 power.natAbs).isEmpty = false :=
      List.isEmpty_eq_false_iff.2 Nat.toDigits_ne_nil
    by_cases negative : power < 0
    · simp [powerChars, negative, readScale?, readPower?, some, allDigits, digitsValue_toDigits,
        abs_of_neg negative]
    · simp [powerChars, negative, readScale?, readPower?, some, allDigits, digitsValue_toDigits,
        abs_of_nonneg (Int.not_lt.1 negative)]
  · rintro rest ends b ⟨rfl⟩
    exact ⟨by decide, by decide⟩
  · intro rest ends
    have scanned := scanPower_digits (decide (power < 0)) Nat.toDigits_ne_nil
      (isDigit_of_mem_toDigits (n := power.natAbs)) fun b member => (ends b member).1
    have signed : (if decide (power < 0) = true then
        -(digitsValue (Nat.toDigits 10 power.natAbs) : Int)
        else (digitsValue (Nat.toDigits 10 power.natAbs) : Int)) = power := by
      rw [digitsValue_toDigits]
      by_cases negative : power < 0
      · rw [if_pos (decide_eq_true negative)]
        omega
      · rw [if_neg (by simpa using negative)]
        omega
    rw [signed] at scanned
    exact scanned

/-- Digits with a power of ten or none are read as a numeral. -/
theorem readNumeral?_digits {whole scale : List Char} {power : Option Int}
    (areDigits : ∀ c ∈ whole, c.isDigit = true) (someWhole : whole ≠ [])
    (spells : SpellsPower scale power) :
    readNumeral? (whole ++ scale) = some (partsNumeral whole [] (power.getD 0)) := by
  obtain ⟨taken, dropped⟩ := takeWhile_digits areDigits fun c first => (spells.starts c first).1
  have someDigits : whole.isEmpty = false := List.isEmpty_eq_false_iff.2 someWhole
  unfold readNumeral?
  rw [taken, dropped]
  dsimp only
  split
  · exact absurd rfl (spells.starts '.' rfl).2
  · simp [someDigits, spells.read, partsNumeral]

/-- Digits on both sides of a point with a power of ten or none are read as a numeral. -/
theorem readNumeral?_point {whole places scale : List Char} {power : Option Int}
    (areDigits : ∀ c ∈ whole, c.isDigit = true) (arePlaces : ∀ c ∈ places, c.isDigit = true)
    (someWhole : whole ≠ []) (spells : SpellsPower scale power) :
    readNumeral? (whole ++ '.' :: (places ++ scale)) =
      some (partsNumeral whole places (power.getD 0)) := by
  have stops : ∀ c ∈ ('.' :: (places ++ scale)).head?, c.isDigit = false := by
    rintro c ⟨rfl⟩
    decide
  obtain ⟨taken, dropped⟩ := takeWhile_digits areDigits stops
  obtain ⟨takenPlaces, droppedPlaces⟩ :=
    takeWhile_digits arePlaces fun c first => (spells.starts c first).1
  have someDigits : whole.isEmpty = false := List.isEmpty_eq_false_iff.2 someWhole
  unfold readNumeral?
  rw [taken, dropped]
  simp [takenPlaces, droppedPlaces, someDigits, spells.read, partsNumeral]

/-- A digit and a power of ten are the parts of a number. -/
theorem spellsParts_digit {first : Char} {scale : List Char} {power : Int}
    (digit : first.isDigit = true) (spells : SpellsPower scale (some power)) :
    SpellsParts (first :: scale) [first] [] power := by
  refine ⟨⟨first, rfl, digit⟩, ?_, ?_, fun negative rest ends => ?_⟩
  · exact List.forall_mem_cons.2 ⟨toNat_lt_of_isDigit digit, spells.ascii⟩
  · exact readNumeral?_digits (List.forall_mem_singleton.2 digit) (List.cons_ne_nil _ _) spells
  · have fraction := scanFraction_none fun b first => (spells.apart rest ends b first).2
    have scanned := scanNumber_eq negative none (List.cons_ne_nil first []) (by simpa using digit)
      (Or.inl rfl) (fun b first => (spells.apart rest ends b first).1) fraction
      (spells.scanned rest ends)
    exact scanned

/-- Digits before and behind a point, and possibly a power of ten, are the parts of a number. -/
theorem spellsParts_point {whole places scale : List Char} {power : Option Int}
    (someWhole : whole ≠ []) (somePlaces : places ≠ [])
    (areDigits : ∀ c ∈ whole ++ places, c.isDigit = true)
    (noZero : whole.length = 1 ∨ whole.head? ≠ some '0') (spells : SpellsPower scale power) :
    SpellsParts (whole ++ '.' :: (places ++ scale)) whole places (power.getD 0) := by
  have wholeDigits : ∀ c ∈ whole, c.isDigit = true := fun c member =>
    areDigits c (List.mem_append_left _ member)
  have placeDigits : ∀ c ∈ places, c.isDigit = true := fun c member =>
    areDigits c (List.mem_append_right _ member)
  constructor
  · obtain ⟨first, others, rfl⟩ := List.exists_cons_of_ne_nil someWhole
    exact ⟨first, rfl, wholeDigits first List.mem_cons_self⟩
  · intro c member
    rcases List.mem_append.1 member with member | member
    · exact toNat_lt_of_isDigit (wholeDigits c member)
    · rcases List.mem_cons.1 member with rfl | member
      · decide
      · rcases List.mem_append.1 member with member | member
        · exact toNat_lt_of_isDigit (placeDigits c member)
        · exact spells.ascii c member
  · exact readNumeral?_point wholeDigits placeDigits someWhole spells
  · intro negative rest ends
    have fraction := scanFraction_digits somePlaces placeDigits fun b first =>
      (spells.apart rest ends b first).1
    have stops : ∀ b ∈ (ascii '.' :: (places.map ascii ++ (scale.map ascii ++ rest))).head?,
        isDigit b = false := by
      rintro b ⟨rfl⟩
      decide
    have scanned := scanNumber_eq negative (some places) someWhole areDigits noZero stops fraction
      (spells.scanned rest ends)
    rw [List.map_append, List.append_assoc, List.map_cons, List.map_append, List.cons_append,
      List.append_assoc, ← partsValue_places]
    exact scanned

/-- Digits, zeros up to the point, and one place spell a numeral without places, with the zeros
behind its digits. -/
theorem spellsNumeral_whole {n : Numeral} (natural : 0 ≤ n.exponent)
    (normal : n.digits = 0 → n.exponent = 0) :
    SpellsNumeral (n.plain ++ ".0").toList (n.withZeros (n.exponent + 1).toNat) := by
  obtain ⟨digits, exponent⟩ := n
  obtain ⟨zeros, rfl⟩ := Int.eq_ofNat_of_zero_le natural
  have chars : ((Numeral.mk digits zeros).plain ++ ".0").toList =
      (Nat.toDigits 10 digits ++ List.replicate zeros '0') ++ '.' :: (['0'] ++ []) := by
    rw [String.toList_append, Numeral.plain, if_pos natural, String.toList_ofList]
    rfl
  have areDigits : ∀ c ∈ Nat.toDigits 10 digits ++ List.replicate zeros '0' ++ ['0'],
      c.isDigit = true := by
    intro c member
    rw [List.append_assoc, ← List.replicate_succ'] at member
    exact (List.mem_append.1 member).elim (isDigit_of_mem_toDigits c) (isDigit_of_mem_zeros c)
  have noZero : (Nat.toDigits 10 digits ++ List.replicate zeros '0').length = 1 ∨
      (Nat.toDigits 10 digits ++ List.replicate zeros '0').head? ≠ some '0' := by
    by_cases zero : digits = 0
    · subst zero
      obtain rfl : zeros = 0 := by simpa using normal rfl
      exact Or.inl rfl
    · obtain ⟨first, head, -⟩ := exists_head?_toDigits digits
      have notZero := head?_toDigits (Nat.pos_of_ne_zero zero)
      rw [head] at notZero
      rw [List.head?_append, head]
      exact Or.inr notZero
  have value : digitsValue (Nat.toDigits 10 digits ++ List.replicate zeros '0' ++ ['0']) =
      digits * 10 ^ (zeros + 1) := by
    rw [List.append_assoc, ← List.replicate_succ', digitsValue_append_zeros, digitsValue_toDigits]
  have count : ((zeros : Int) + 1).toNat = zeros + 1 := by omega
  rw [chars]
  refine ⟨_, _, _, ?_, spellsParts_point (by simp) (List.cons_ne_nil _ _) areDigits noZero
    spellsPower_nil⟩
  rw [partsNumeral, Numeral.withZeros, value, count, Numeral.mk.injEq, Option.getD_none,
    List.length_singleton]
  exact ⟨rfl, by dsimp only; omega⟩

/-- Digits with a point between them spell a numeral with places. -/
theorem spellsNumeral_places {n : Numeral} (broken : n.exponent < 0) (nonZero : n.digits ≠ 0) :
    SpellsNumeral n.plain.toList n := by
  obtain ⟨digits, exponent⟩ := n
  obtain ⟨places, rfl⟩ : ∃ places : Nat, exponent = -((places + 1 : Nat) : Int) :=
    ⟨(-exponent).toNat - 1, by simp only at broken; omega⟩
  -- The digits, with zeros before them if there are too few for a digit before the point.
  let padded := List.replicate (places + 1 + 1 - (Nat.toDigits 10 digits).length) '0' ++
    Nat.toDigits 10 digits
  let split := padded.length - (places + 1)
  have long : places + 1 + 1 ≤ padded.length := by
    simp only [padded, List.length_append, List.length_replicate]
    omega
  have chars : (Numeral.mk digits (-((places + 1 : Nat) : Int))).plain.toList =
      padded.take split ++ '.' :: (padded.drop split ++ []) := by
    rw [Numeral.plain, if_neg (Int.not_le.2 broken), String.toList_ofList, List.append_nil]
    have count : (-(-((places + 1 : Nat) : Int))).toNat = places + 1 := by omega
    simp only [count]
    rfl
  have areDigits : ∀ c ∈ padded.take split ++ padded.drop split, c.isDigit = true := by
    rw [List.take_append_drop]
    intro c member
    exact (List.mem_append.1 member).elim (isDigit_of_mem_zeros c) (isDigit_of_mem_toDigits c)
  have someWhole : padded.take split ≠ [] := by
    apply List.ne_nil_of_length_pos
    rw [List.length_take]
    omega
  have placesLength : (padded.drop split).length = places + 1 := by
    rw [List.length_drop]
    omega
  have noZero : (padded.take split).length = 1 ∨ (padded.take split).head? ≠ some '0' := by
    by_cases few : (Nat.toDigits 10 digits).length ≤ places + 1
    · refine Or.inl ?_
      have length : padded.length = places + 1 + 1 := by
        simp only [padded, List.length_append, List.length_replicate]
        omega
      rw [List.length_take]
      omega
    · refine Or.inr ?_
      have none : places + 1 + 1 - (Nat.toDigits 10 digits).length = 0 := by omega
      have same : padded = Nat.toDigits 10 digits := by
        simp only [padded, none, List.replicate_zero, List.nil_append]
      rw [List.head?_take, if_neg (by omega), same]
      exact head?_toDigits (Nat.pos_of_ne_zero nonZero)
  have value : digitsValue padded = digits := by
    rw [digitsValue_zeros_append, digitsValue_toDigits]
  rw [chars]
  refine ⟨_, _, _, ?_, spellsParts_point someWhole (List.ne_nil_of_length_pos (by omega)) areDigits
    noZero spellsPower_nil⟩
  rw [partsNumeral, List.take_append_drop, value, Numeral.mk.injEq, Option.getD_none, placesLength]
  exact ⟨rfl, by omega⟩

/-- A first digit with any further digits behind a point. -/
def mantissaChars (first : Char) : List Char → List Char
  | [] => [first]
  | second :: others => first :: '.' :: second :: others

/-- The parts of a numeral in scientific form: the power of ten is the one of its first digit. -/
theorem toList_scientific {n : Numeral} {first : Char} {others : List Char}
    (cons : Nat.toDigits 10 n.digits = first :: others) :
    n.scientific.toList =
      mantissaChars first others ++ powerChars (others.length + n.exponent) := by
  have power : n.ceiling - 1 = others.length + n.exponent := by
    simp only [Numeral.ceiling, digitCount, cons, List.length_cons]
    omega
  have signed : (if (others.length + n.exponent : Int) < 0 then "-" else "+").toList =
      [if decide ((others.length + n.exponent : Int) < 0) then '-' else '+'] := by
    by_cases negative : (others.length + n.exponent : Int) < 0 <;> simp [negative]
  simp only [Numeral.scientific, cons, power, String.toList_append, String.toList_ofList]
  rw [signed, Nat.toString_eq_repr, Nat.toList_repr]
  cases others <;> simp [mantissaChars, powerChars]

/-- One digit, further digits behind a point, and a power of ten spell any numeral. -/
theorem spellsNumeral_scientific (n : Numeral) : SpellsNumeral n.scientific.toList n := by
  obtain ⟨first, others, cons⟩ := List.exists_cons_of_ne_nil
    (Nat.toDigits_ne_nil (n := n.digits) (b := 10))
  have areDigits := isDigit_of_mem_toDigits (n := n.digits)
  have value := digitsValue_toDigits n.digits
  rw [cons] at areDigits value
  rw [toList_scientific cons]
  cases others with
  | nil =>
    refine ⟨_, _, _, ?_, spellsParts_digit (areDigits first List.mem_cons_self)
      (spellsPower_powerChars _)⟩
    rw [partsNumeral, List.append_nil, value, List.length_nil, Int.natCast_zero, Int.zero_add,
      Int.sub_zero]
  | cons second others =>
    refine ⟨_, _, _, ?_, spellsParts_point (List.cons_ne_nil first [])
      (List.cons_ne_nil second others) areDigits (Or.inl rfl) (spellsPower_powerChars _)⟩
    have digits : digitsValue ([first] ++ second :: others) = n.digits := value
    rw [partsNumeral, digits, Option.getD_some, add_sub_cancel_left]

/-- A digit is no blank and starts a number. -/
theorem scanOne_digit {b : UInt8} (digit : isDigit b = true) (rest : List UInt8) :
    isBlank b = false ∧ scanOne b rest = scanNumber false (b :: rest) := by
  have apart {other : UInt8} (notDigit : isDigit other = false) : b ≠ other := by
    rintro rfl
    rw [digit] at notDigit
    cases notDigit
  constructor
  · simp only [isBlank, Bool.or_eq_false_iff, beq_eq_false_iff_ne]
    exact ⟨⟨⟨apart (by decide), apart (by decide)⟩, apart (by decide)⟩, apart (by decide)⟩
  · rw [scanOne, if_neg (apart (by decide)), if_neg (apart (by decide)), if_neg (apart (by decide)),
      if_neg (apart (by decide)), if_neg (apart (by decide)), if_neg (apart (by decide)),
      if_neg (apart (by decide)), if_neg (apart (by decide)), if_pos digit]

/-- A text is scanned as a number: its first byte is not blank and starts the number, which ends
where nothing continues it. The number may be out of range. -/
def ScansNumber (text : String) (value : Option JsonNumber) : Prop :=
  ∃ first tail, Bytes.ofText text = first :: tail ∧ isBlank first = false ∧
    ∀ rest, EndsNumber rest → scanOne first (tail ++ rest) = some (.number value, rest)

/-- An unsigned number is scanned from its first digit on. -/
theorem scansNumber_unsigned {text : String} {value : Option JsonNumber} {c : Char}
    (head : text.toList.head? = some c) (digit : c.isDigit = true)
    (small : ∀ c ∈ text.toList, c.toNat < 0x80)
    (scanned : ∀ rest, EndsNumber rest → scanNumber false (text.toList.map ascii ++ rest) =
      some (.number value, rest)) : ScansNumber text value := by
  obtain ⟨others, chars⟩ := List.head?_eq_some_iff.1 head
  refine ⟨ascii c, others.map ascii, ?_, (scanOne_digit (isDigit_ascii digit) []).1,
    fun rest ends => ?_⟩
  · rw [Bytes.ofText_eq_flatMap, flatMap_utf8EncodeChar small, chars, List.map_cons]
  · have number := scanned rest ends
    rw [chars] at number
    rw [(scanOne_digit (isDigit_ascii digit) _).2]
    exact number

/-- A negative number is scanned from its sign on. -/
theorem scansNumber_negative {text : String} {value : Option JsonNumber}
    (small : ∀ c ∈ text.toList, c.toNat < 0x80)
    (scanned : ∀ rest, EndsNumber rest → scanNumber true (text.toList.map ascii ++ rest) =
      some (.number value, rest)) : ScansNumber ("-" ++ text) value := by
  have sign : Bytes.ofText "-" = [ascii '-'] := by decide
  refine ⟨ascii '-', text.toList.map ascii, ?_, by decide, fun rest ends => ?_⟩
  · rw [Bytes.ofText_append, sign, Bytes.ofText_eq_flatMap, flatMap_utf8EncodeChar small]
    rfl
  · rw [scanOne, if_neg (by decide), if_neg (by decide), if_neg (by decide), if_neg (by decide),
      if_neg (by decide), if_neg (by decide), if_neg (by decide), if_pos rfl]
    exact scanned rest ends

/-- The digits of a natural number are scanned as an integer. -/
theorem scanNumber_toDigits (negative : Bool) (n : Nat) {rest : List UInt8}
    (ends : EndsNumber rest) :
    scanNumber negative ((Nat.toDigits 10 n).map ascii ++ rest) =
      some (.number (integerValue negative (Nat.toDigits 10 n)), rest) := by
  have noZero : (Nat.toDigits 10 n).length = 1 ∨ (Nat.toDigits 10 n).head? ≠ some '0' := by
    by_cases zero : n = 0
    · subst zero
      exact Or.inl rfl
    · exact Or.inr (head?_toDigits (Nat.pos_of_ne_zero zero))
  have fraction := scanFraction_none fun b member => (ends b member).2.1
  have power := scanPower_none fun b member => (ends b member).2.2
  have scanned := scanNumber_eq negative none Nat.toDigits_ne_nil
    (by simpa using isDigit_of_mem_toDigits) noZero (fun b member => (ends b member).1) fraction
    power
  rw [scanned, partsValue]

/-- What is read of a text that is scanned as a number. -/
theorem ScansNumber.scan_eq {text : String} {value : Option JsonNumber}
    (scans : ScansNumber text value) : scan (Bytes.ofText text) = some [.number value] := by
  obtain ⟨first, tail, bytes, visible, scanned⟩ := scans
  have alone := scanned [] nofun
  rw [List.append_nil] at alone
  rw [bytes, scan, List.length_cons, scanAll, if_neg (Bool.eq_false_iff.1 visible), alone]
  dsimp only
  rw [scanAll, List.reverse_singleton]

/-- A printed integer is scanned by its digits. -/
theorem scansNumber_integer (value : Int) :
    ScansNumber (numberText (.integer value))
      (integerValue (decide (value < 0)) (Nat.toDigits 10 value.natAbs)) := by
  have small (n : Nat) : ∀ c ∈ (Nat.toDigits 10 n), c.toNat < 0x80 := fun c member =>
    toNat_lt_of_isDigit (isDigit_of_mem_toDigits c member)
  cases value with
  | ofNat n =>
    have chars : (numberText (.integer (Int.ofNat n))).toList = Nat.toDigits 10 n :=
      Nat.toList_repr
    obtain ⟨c, head, digit⟩ := exists_head?_toDigits n
    refine scansNumber_unsigned (by rw [chars]; exact head) digit (by rw [chars]; exact small n)
      fun rest ends => ?_
    rw [chars, scanNumber_toDigits false n ends]
    rfl
  | negSucc n =>
    have text : numberText (.integer (Int.negSucc n)) = "-" ++ Nat.repr (n + 1) := rfl
    rw [text]
    refine scansNumber_negative (by rw [Nat.toList_repr]; exact small (n + 1)) fun rest ends => ?_
    rw [Nat.toList_repr, scanNumber_toDigits true (n + 1) ends,
      decide_eq_true (Int.negSucc_lt_zero n), Int.natAbs_negSucc]

/-- The body of the printed form of a finite number spells its shortest numeral, with zeros behind
its digits only up to the first place. -/
theorem exists_spellsNumeral_body {n : Numeral} (normal : n.digits = 0 → n.exponent = 0) :
    ∃ zeros ≤ (n.exponent + 1).toNat,
      SpellsNumeral (if isPositional (n.ceiling - 1) || n.digits == 0 then
        if 0 ≤ n.exponent then n.plain ++ ".0" else n.plain
      else n.scientific).toList (n.withZeros zeros) := by
  split
  · split
    · next natural => exact ⟨_, Nat.le_refl _, spellsNumeral_whole natural normal⟩
    · next broken =>
      refine ⟨0, Nat.zero_le _, ?_⟩
      rw [Numeral.withZeros_zero]
      exact spellsNumeral_places (Int.not_le.1 broken) fun zero => broken (normal zero).ge
  · refine ⟨0, Nat.zero_le _, ?_⟩
    rw [Numeral.withZeros_zero]
    exact spellsNumeral_scientific n

/-- A number that is spelled by its parts is scanned, with either sign. -/
theorem SpellsParts.scansNumber {body : String} {whole places : List Char} {power : Int}
    (spells : SpellsParts body.toList whole places power) (negative : Bool) :
    ScansNumber (if negative then "-" ++ body else body)
      (realValue negative whole places power) := by
  obtain ⟨⟨c, head, digit⟩, small, -, scanned⟩ := spells
  cases negative with
  | false =>
    rw [if_neg Bool.false_ne_true]
    exact scansNumber_unsigned head digit small fun rest ends => scanned false rest ends
  | true =>
    rw [if_pos rfl]
    exact scansNumber_negative small fun rest ends => scanned true rest ends

/-- A printed finite number is its sign and parts that make its shortest numeral, with zeros behind
its digits only up to the first place. -/
theorem exists_realText_eq {x : Binary64} (finite : x.isFinite = true) :
    ∃ zeros ≤ ((x.shortest .even).exponent + 1).toNat, ∃ body whole places power,
      partsNumeral whole places power = (x.shortest .even).withZeros zeros ∧
        SpellsParts body.toList whole places power ∧
          realText x = if x.isNegative then "-" ++ body else body := by
  have normal : (x.shortest .even).digits = 0 → (x.shortest .even).exponent = 0 := by
    intro zero
    rw [Binary64.shortest_eq_of_digits_eq_zero finite zero]
  obtain ⟨zeros, few, whole, places, power, numeral, spells⟩ := exists_spellsNumeral_body normal
  refine ⟨zeros, few, _, whole, places, power, numeral, spells, ?_⟩
  rw [realText, if_pos finite]

end Token
end Campus.Json
