import Campus.Data.Base64
/-!
# Reading base64

Bytes are read back from their written form, so different bytes have different forms, and nothing
but the written form of some bytes is read. A form is usable when its sixty-four digits are told
apart and none of them is the one that fills up groups.
-/

namespace Campus.Base64.Form

/-- Digits stand for the numbers they are written for, and none fills up a group. -/
structure IsUsable (form : Form) : Prop where
  value : ∀ n < 64, form.value? (form.digit n) = some n
  notFilling : ∀ n < 64, form.digit n ≠ '='

/-- The usual form is usable. -/
theorem isUsable_standard : standard.IsUsable := ⟨by decide, by decide⟩

/-- The form for file names is usable. -/
theorem isUsable_urlSafe : urlSafe.IsUsable := ⟨by decide, by decide⟩

variable {form : Form}

/-- One byte at the end is read back from its two digits. -/
theorem lastBytes?_one (usable : form.IsUsable) (x : UInt8) :
    form.lastBytes? [form.digit (x.toNat / 4), form.digit (x.toNat % 4 * 16)] = some [x] := by
  have small := x.toNat_lt
  have spare : x.toNat % 4 * 16 % 16 = 0 := by omega
  have byte : x.toNat / 4 * 4 + x.toNat % 4 * 16 / 16 = x.toNat := by omega
  rw [lastBytes?, usable.value _ (by omega), usable.value _ (by omega)]
  simp only [Option.bind_eq_bind, Option.bind_some, spare, byte, ↓reduceIte, UInt8.ofNat_toNat]

/-- Two bytes at the end are read back from their three digits. -/
theorem lastBytes?_two (usable : form.IsUsable) (x y : UInt8) :
    form.lastBytes? [form.digit (x.toNat / 4), form.digit (x.toNat % 4 * 16 + y.toNat / 16),
      form.digit (y.toNat % 16 * 4)] = some [x, y] := by
  have smallFirst := x.toNat_lt
  have smallSecond := y.toNat_lt
  have spare : y.toNat % 16 * 4 % 4 = 0 := by omega
  have first : x.toNat / 4 * 4 + (x.toNat % 4 * 16 + y.toNat / 16) / 16 = x.toNat := by omega
  have second : (x.toNat % 4 * 16 + y.toNat / 16) % 16 * 16 + y.toNat % 16 * 4 / 4 = y.toNat := by
    omega
  rw [lastBytes?, usable.value _ (by omega), usable.value _ (by omega), usable.value _ (by omega)]
  simp only [Option.bind_eq_bind, Option.bind_some, spare, first, second, ↓reduceIte,
    UInt8.ofNat_toNat]

/-- Three bytes are read back from their four digits. -/
theorem group?_three (usable : form.IsUsable) (x y z : UInt8) :
    form.group? (form.digit (x.toNat / 4)) (form.digit (x.toNat % 4 * 16 + y.toNat / 16))
      (form.digit (y.toNat % 16 * 4 + z.toNat / 64)) (form.digit (z.toNat % 64)) =
        some [x, y, z] := by
  have smallFirst := x.toNat_lt
  have smallSecond := y.toNat_lt
  have smallThird := z.toNat_lt
  have first : x.toNat / 4 * 4 + (x.toNat % 4 * 16 + y.toNat / 16) / 16 = x.toNat := by omega
  have second : (x.toNat % 4 * 16 + y.toNat / 16) % 16 * 16 +
      (y.toNat % 16 * 4 + z.toNat / 64) / 4 = y.toNat := by omega
  have third : (y.toNat % 16 * 4 + z.toNat / 64) % 4 * 64 + z.toNat % 64 = z.toNat := by omega
  rw [group?, usable.value _ (by omega), usable.value _ (by omega), usable.value _ (by omega),
    usable.value _ (by omega)]
  simp only [Option.bind_eq_bind, Option.bind_some, first, second, third, UInt8.ofNat_toNat,
    Option.pure_def]

/-- Bytes are read back from their written form. -/
theorem decode?_encode (usable : form.IsUsable) (bytes : List UInt8) :
    form.decode? (form.encode bytes) = some bytes := by
  induction bytes using encode.induct with
  | case1 => rfl
  | case2 x =>
    have last := lastBytes?_one usable x
    cases padded : form.isPadded with
    | true =>
      simp only [encode, padding, padded, if_true, List.replicate, List.cons_append,
        List.nil_append, decode?, and_self, last]
    | false =>
      simp only [encode, padding, padded, Bool.false_eq_true, if_false, List.append_nil, decode?,
        last]
  | case3 x y =>
    have last := lastBytes?_two usable x y
    have notFilling := usable.notFilling (y.toNat % 16 * 4) (by omega)
    cases padded : form.isPadded with
    | true =>
      simp only [encode, padding, padded, if_true, List.replicate, List.cons_append,
        List.nil_append, decode?, and_self, notFilling, if_false, last]
    | false =>
      simp only [encode, padding, padded, Bool.false_eq_true, if_false, List.append_nil, decode?,
        last]
  | case4 x y z rest ih =>
    have notFilling := usable.notFilling (z.toNat % 64) (by omega)
    simp only [encode, decode?, notFilling, and_false, if_false, group?_three usable, ih,
      Option.bind_eq_bind, Option.bind_some, Option.pure_def, List.cons_append, List.nil_append]

/-- What stands for a number is the digit that is written for it. -/
theorem digit_of_value? {c : Char} {n : Nat} (stands : form.value? c = some n) :
    n < 64 ∧ form.digit n = c := by
  have self : Char.ofNat c.toNat = c := Char.ofNat_toNat c
  unfold value? at stands
  unfold digit
  dsimp only at stands
  split at stands
  · cases stands
    refine ⟨by omega, ?_⟩
    rw [if_pos (by omega), show 65 + (c.toNat - 65) = c.toNat by omega, self]
  · split at stands
    · cases stands
      refine ⟨by omega, ?_⟩
      rw [if_neg (by omega), if_pos (by omega),
        show 97 + (c.toNat - 97 + 26 - 26) = c.toNat by omega, self]
    · split at stands
      · cases stands
        refine ⟨by omega, ?_⟩
        rw [if_neg (by omega), if_neg (by omega), if_pos (by omega),
          show 48 + (c.toNat - 48 + 52 - 52) = c.toNat by omega, self]
      · split at stands
        · next is62 =>
          cases stands
          exact ⟨by decide, is62.symm⟩
        · split at stands
          · next is63 =>
            cases stands
            exact ⟨by decide, is63.symm⟩
          · cases stands

/-- What is read as the last bytes is written for them, without what fills it up. -/
theorem eq_of_lastBytes? {digits : List Char} {bytes : List UInt8}
    (read : form.lastBytes? digits = some bytes) :
    (∃ x : UInt8, bytes = [x] ∧
      digits = [form.digit (x.toNat / 4), form.digit (x.toNat % 4 * 16)]) ∨
    ∃ x y : UInt8, bytes = [x, y] ∧
      digits = [form.digit (x.toNat / 4), form.digit (x.toNat % 4 * 16 + y.toNat / 16),
        form.digit (y.toNat % 16 * 4)] := by
  unfold lastBytes? at read
  split at read
  · next c d =>
    simp only [Option.bind_eq_bind, Option.bind_eq_some_iff, Option.ite_none_right_eq_some,
      Option.some.injEq] at read
    obtain ⟨a, first, b, second, spare, rfl⟩ := read
    obtain ⟨smallFirst, rfl⟩ := digit_of_value? first
    obtain ⟨smallSecond, rfl⟩ := digit_of_value? second
    left
    refine ⟨_, rfl, ?_⟩
    rw [UInt8.toNat_ofNat_of_lt' (by omega : a * 4 + b / 16 < 256),
      show (a * 4 + b / 16) / 4 = a by omega, show (a * 4 + b / 16) % 4 * 16 = b by omega]
  · next c d e =>
    simp only [Option.bind_eq_bind, Option.bind_eq_some_iff, Option.ite_none_right_eq_some,
      Option.some.injEq] at read
    obtain ⟨a, first, b, second, c, third, spare, rfl⟩ := read
    obtain ⟨smallFirst, rfl⟩ := digit_of_value? first
    obtain ⟨smallSecond, rfl⟩ := digit_of_value? second
    obtain ⟨smallThird, rfl⟩ := digit_of_value? third
    right
    refine ⟨_, _, rfl, ?_⟩
    rw [UInt8.toNat_ofNat_of_lt' (by omega : a * 4 + b / 16 < 256),
      UInt8.toNat_ofNat_of_lt' (by omega : b % 16 * 16 + c / 4 < 256),
      show (a * 4 + b / 16) / 4 = a by omega,
      show (a * 4 + b / 16) % 4 * 16 + (b % 16 * 16 + c / 4) / 16 = b by omega,
      show (b % 16 * 16 + c / 4) % 16 * 4 = c by omega]
  · cases read

/-- What is read as three bytes is written for them. -/
theorem eq_of_group? {a b c d : Char} {bytes : List UInt8}
    (read : form.group? a b c d = some bytes) :
    ∃ x y z : UInt8, bytes = [x, y, z] ∧ a = form.digit (x.toNat / 4) ∧
      b = form.digit (x.toNat % 4 * 16 + y.toNat / 16) ∧
      c = form.digit (y.toNat % 16 * 4 + z.toNat / 64) ∧ d = form.digit (z.toNat % 64) := by
  simp only [group?, Option.bind_eq_bind, Option.bind_eq_some_iff, Option.pure_def,
    Option.some.injEq] at read
  obtain ⟨k, first, l, second, m, third, n, fourth, rfl⟩ := read
  obtain ⟨smallFirst, rfl⟩ := digit_of_value? first
  obtain ⟨smallSecond, rfl⟩ := digit_of_value? second
  obtain ⟨smallThird, rfl⟩ := digit_of_value? third
  obtain ⟨smallFourth, rfl⟩ := digit_of_value? fourth
  refine ⟨_, _, _, rfl, ?_⟩
  rw [UInt8.toNat_ofNat_of_lt' (by omega : k * 4 + l / 16 < 256),
    UInt8.toNat_ofNat_of_lt' (by omega : l % 16 * 16 + m / 4 < 256),
    UInt8.toNat_ofNat_of_lt' (by omega : m % 4 * 64 + n < 256),
    show (k * 4 + l / 16) / 4 = k by omega,
    show (k * 4 + l / 16) % 4 * 16 + (l % 16 * 16 + m / 4) / 16 = l by omega,
    show (l % 16 * 16 + m / 4) % 16 * 4 + (m % 4 * 64 + n) / 64 = m by omega,
    show (m % 4 * 64 + n) % 64 = n by omega]
  exact ⟨rfl, rfl, rfl, rfl⟩

/-- A text that is read is the written form of the bytes that are read. -/
theorem eq_encode_of_decode? {text : List Char} {bytes : List UInt8}
    (read : form.decode? text = some bytes) : text = form.encode bytes := by
  induction text using decode?.induct form generalizing bytes with
  | case1 =>
    cases read
    rfl
  | case2 a b d rest last =>
    obtain ⟨isPadded, rfl, rfl⟩ := last
    rw [decode?, if_pos ⟨isPadded, rfl, rfl⟩, if_pos rfl] at read
    obtain ⟨x, rfl, digits⟩ | ⟨x, y, rfl, digits⟩ := eq_of_lastBytes? read
    · cases digits
      rw [encode, padding, if_pos isPadded]
      rfl
    · cases digits
  | case3 a b c d rest last notFilling =>
    obtain ⟨isPadded, rfl, rfl⟩ := last
    rw [decode?, if_pos ⟨isPadded, rfl, rfl⟩, if_neg notFilling] at read
    obtain ⟨x, rfl, digits⟩ | ⟨x, y, rfl, digits⟩ := eq_of_lastBytes? read
    · cases digits
    · cases digits
      rw [encode, padding, if_pos isPadded]
      rfl
  | case4 a b c d rest inner ih =>
    rw [decode?, if_neg inner] at read
    simp only [Option.bind_eq_bind, Option.bind_eq_some_iff, Option.pure_def,
      Option.some.injEq] at read
    obtain ⟨group, front, others, back, rfl⟩ := read
    obtain ⟨x, y, z, rfl, rfl, rfl, rfl, rfl⟩ := eq_of_group? front
    rw [ih back]
    rfl
  | case5 short nonEmpty isShort isPadded =>
    rw [decode?, if_pos isPadded] at read
    · cases read
    · exact nonEmpty
    · exact isShort
  | case6 short nonEmpty isShort notPadded =>
    rw [decode?, if_neg notPadded] at read
    · obtain ⟨x, rfl, rfl⟩ | ⟨x, y, rfl, rfl⟩ := eq_of_lastBytes? read
      · rw [encode, padding, if_neg notPadded, List.append_nil]
      · rw [encode, padding, if_neg notPadded, List.append_nil]
    · exact nonEmpty
    · exact isShort

/-- A text is read as bytes exactly if it is their written form. -/
theorem decode?_eq_some_iff (usable : form.IsUsable) {text : List Char} {bytes : List UInt8} :
    form.decode? text = some bytes ↔ text = form.encode bytes := by
  constructor
  · exact eq_encode_of_decode?
  · rintro rfl
    exact decode?_encode usable bytes

/-- Different bytes have different written forms. -/
theorem encode_injective (usable : form.IsUsable) : Function.Injective form.encode := by
  intro left right same
  have read := decode?_encode usable left
  rw [same, decode?_encode usable right] at read
  exact (Option.some.inj read).symm

/-- Only no bytes are written as nothing. -/
theorem encode_eq_nil_iff {bytes : List UInt8} : form.encode bytes = [] ↔ bytes = [] := by
  cases bytes using encode.fun_cases <;> simp [encode]

end Campus.Base64.Form
