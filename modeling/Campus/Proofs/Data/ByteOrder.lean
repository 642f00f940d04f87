import Campus.Proofs.Data.Bytes
/-!
# The order of bytes

Texts are ordered by their characters. UTF-8 is laid out so that their bytes have the same order: a
character with a greater code has more bytes and then a greater first one, or as many bytes and the
first of them that differs is greater.
-/

namespace Campus.Bytes

/-- Bytes are ordered by the first one, and by the others if there is no difference in it. -/
theorem cons_lt_cons {m n : Nat} {front back : List UInt8} (fits : n < 256) (ordered : m ≤ n)
    (others : m = n → front < back) : UInt8.ofNat m :: front < UInt8.ofNat n :: back := by
  rw [List.cons_lt_cons_iff, UInt8.lt_iff_toNat_lt]
  by_cases same : m = n
  · exact .inr ⟨by rw [same], others same⟩
  · left
    rw [UInt8.toNat_ofNat', UInt8.toNat_ofNat']
    omega

/-- The bytes of a character with a smaller code come first, whatever follows. -/
theorem utf8EncodeChar_append_lt {c d : Char} (less : c < d) (front back : List UInt8) :
    String.utf8EncodeChar c ++ front < String.utf8EncodeChar d ++ back := by
  have codes : c.val.toNat < d.val.toNat := UInt32.lt_iff_toNat_lt.1 (Char.lt_def.1 less)
  have bound := val_toNat_lt d
  unfold String.utf8EncodeChar
  generalize c.val.toNat = m at codes
  generalize d.val.toNat = n at codes bound
  dsimp only
  -- In each combination of lengths the bytes do not descend, and they cannot all be equal.
  repeat' split
  all_goals
    simp only [List.cons_append, List.nil_append]
    repeat refine cons_lt_cons (by omega) (by omega) fun _ => ?_
    omega

/-- The bytes of characters that come first come first. -/
theorem flatMap_utf8EncodeChar_lt {left right : List Char} (less : left < right) :
    left.flatMap String.utf8EncodeChar < right.flatMap String.utf8EncodeChar := by
  induction less with
  | @nil c others =>
    have encoded := List.exists_cons_of_ne_nil (String.utf8EncodeChar_ne_nil (c := c))
    obtain ⟨first, more, encoded⟩ := encoded
    rw [List.flatMap_nil, List.flatMap_cons, encoded]
    exact List.nil_lt_cons _ _
  | rel less =>
    rw [List.flatMap_cons, List.flatMap_cons]
    exact utf8EncodeChar_append_lt less _ _
  | cons _ ih =>
    rw [List.flatMap_cons, List.flatMap_cons]
    exact List.append_left_lt ih

/-- Texts have the order of their bytes. -/
theorem ofText_lt_iff {left right : String} : ofText left < ofText right ↔ left < right := by
  have kept {front back : String} (less : front < back) : ofText front < ofText back := by
    rw [ofText_eq_flatMap, ofText_eq_flatMap]
    exact flatMap_utf8EncodeChar_lt less
  constructor
  · intro less
    apply Decidable.byContradiction
    intro notLess
    have above : right ≤ left := String.not_lt.1 notLess
    by_cases turned : right < left
    · exact List.lt_asymm less (kept turned)
    · have same : left = right := String.le_antisymm (String.not_lt.1 turned) above
      rw [same] at less
      exact List.lt_irrefl _ less
  · exact kept

end Campus.Bytes
