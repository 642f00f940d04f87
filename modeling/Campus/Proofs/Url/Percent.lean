import Campus.Proofs.Data.Bytes
import Campus.Url.Percent
/-!
# Escapes are decoded

Escaped bytes are decoded to themselves. So a text as a place takes it, some characters kept and the
others escaped, is decoded to the bytes of the text, unless the place keeps the percent sign.
-/

namespace Campus.Percent

/-- The digit of a number has its value. -/
theorem value?_digit {n : Nat} (small : n < 16) : value? (digit n) = some n := by
  have all : ∀ n < 16, value? (digit n) = some n := by decide
  exact all n small

/-- An escaped byte is decoded. -/
theorem decode_escape (b : UInt8) (rest : List Char) :
    decode (escape b ++ rest) = b :: decode rest := by
  have bound := b.toNat_lt
  have high := value?_digit (n := b.toNat / 16) (by omega)
  have low := value?_digit (n := b.toNat % 16) (by omega)
  have whole : 16 * (b.toNat / 16) + b.toNat % 16 = b.toNat := Nat.div_add_mod ..
  simp only [escape, List.cons_append, List.nil_append, decode, high, low, whole]
  rw [UInt8.ofNat_toNat]

/-- Escaped bytes are decoded, whatever follows them. -/
theorem decode_flatMap_escape_append (bytes : List UInt8) (rest : List Char) :
    decode (bytes.flatMap escape ++ rest) = bytes ++ decode rest := by
  induction bytes with
  | nil => rfl
  | cons b others ih =>
    rw [List.flatMap_cons, List.append_assoc, decode_escape, ih, List.cons_append]

/-- Escaped bytes are decoded. -/
theorem decode_flatMap_escape (bytes : List UInt8) : decode (bytes.flatMap escape) = bytes := by
  have decoded := decode_flatMap_escape_append bytes []
  rwa [List.append_nil, decode, List.append_nil] at decoded

/-- An escaped byte is a percent sign and two hexadecimal digits. -/
theorem exists_of_mem_escape {b : UInt8} {c : Char} (member : c ∈ escape b) :
    c = '%' ∨ ∃ n < 16, c = digit n := by
  have bound := b.toNat_lt
  simp only [escape, List.mem_cons, List.not_mem_nil, or_false] at member
  rcases member with rfl | rfl | rfl
  · exact .inl rfl
  · exact .inr ⟨_, by omega, rfl⟩
  · exact .inr ⟨_, by omega, rfl⟩

section

variable {place : Place}

/-- What a place takes of a text is decoded to the bytes of the text. -/
theorem decode_encode (noPercent : place.keeps '%' = false) (chars : List Char) :
    decode (encode place chars) = Bytes.ofText (String.ofList chars) := by
  have single (c : Char) : Bytes.ofText (String.singleton c) = String.utf8EncodeChar c := by
    rw [Bytes.ofText_eq_flatMap, String.toList_singleton, List.flatMap_singleton]
  rw [Bytes.ofText_ofList]
  induction chars with
  | nil => rfl
  | cons c rest ih =>
    rw [encode, List.flatMap_cons, ← encode, List.flatMap_cons, ← ih]
    cases keeps : place.keeps c with
    | true =>
      have notPercent : c ≠ '%' := by
        rintro rfl
        rw [noPercent] at keeps
        cases keeps
      rw [if_pos rfl, List.singleton_append, decode, single]
      exact fun _ _ _ same => absurd same notPercent
    | false => rw [if_neg Bool.false_ne_true, decode_flatMap_escape_append, single]

/-- A character that is no hexadecimal digit and not the percent sign only stands in what a place
takes of a text if the place keeps it. -/
theorem notMem_encode {c : Char} (noEscape : c ≠ '%' ∧ value? c = none)
    (dropped : place.keeps c = false) (chars : List Char) : c ∉ encode place chars := by
  intro member
  obtain ⟨source, -, written⟩ := List.mem_flatMap.1 member
  split at written
  · next keeps =>
    rw [List.mem_singleton] at written
    rw [written, keeps] at dropped
    cases dropped
  · obtain ⟨b, -, inEscape⟩ := List.mem_flatMap.1 written
    rcases exists_of_mem_escape inEscape with same | ⟨n, small, rfl⟩
    · exact noEscape.1 same
    · exact absurd (value?_digit small) (by rw [noEscape.2]; exact nofun)

end

end Campus.Percent
