import Campus.Data.Bytes
/-!
# The bytes of texts

The bytes of a text are the bytes of its characters one after another, and a text is read back from
its bytes. An ASCII character is one byte; every byte of any other character is beyond ASCII.
-/

namespace Campus.Bytes

/-- The bytes of a text come from its characters one by one. -/
theorem ofText_eq_flatMap (text : String) :
    ofText text = text.toList.flatMap String.utf8EncodeChar := by
  have encoded (chars : List Char) :
      chars.utf8Encode.data.toList = chars.flatMap String.utf8EncodeChar := by
    simp [List.utf8Encode]
  rw [ofText, String.toUTF8_eq_toByteArray, ← String.utf8Encode_toList]
  exact encoded text.toList

/-- The bytes of a text made of characters. -/
theorem ofText_ofList (chars : List Char) :
    ofText (String.ofList chars) = chars.flatMap String.utf8EncodeChar := by
  rw [ofText_eq_flatMap, String.toList_ofList]

/-- The bytes of joined texts are joined. -/
theorem ofText_append (front back : String) :
    ofText (front ++ back) = ofText front ++ ofText back := by
  simp only [ofText_eq_flatMap, String.toList_append, List.flatMap_append]

/-- A text is read back from its bytes. -/
theorem text?_ofText (text : String) : text? (ofText text) = some text := by
  have same : (⟨(ofText text).toArray⟩ : ByteArray) = text.toByteArray := by
    simp [ofText]
  have valid : text.toByteArray.IsValidUTF8 := text.isValidUTF8
  rw [text?, same, String.fromUTF8?, dif_pos valid]
  rfl

/-- Texts of the same bytes are equal. -/
theorem ofText_injective {left right : String} (same : ofText left = ofText right) :
    left = right := by
  have read := text?_ofText left
  rw [same, text?_ofText right] at read
  exact (Option.some.inj read).symm

/-- The code of a character is within the range of codes. -/
theorem val_toNat_lt (c : Char) : c.val.toNat < 0x110000 := by
  have valid : c.val.toNat < 0xD800 ∨ 0xDFFF < c.val.toNat ∧ c.val.toNat < 0x110000 := c.valid
  omega

/-- An ASCII character is one byte. -/
theorem utf8EncodeChar_of_lt {c : Char} (small : c.toNat < 0x80) :
    String.utf8EncodeChar c = [UInt8.ofNat c.toNat] := by
  have bound : c.val.toNat ≤ 0x7F := Nat.le_of_lt_succ small
  simp only [String.utf8EncodeChar, if_pos bound]
  rfl

/-- Every byte of another character is beyond ASCII. -/
theorem le_of_mem_utf8EncodeChar {c : Char} (large : 0x80 ≤ c.toNat) {b : UInt8}
    (member : b ∈ String.utf8EncodeChar c) : 0x80 ≤ b.toNat := by
  have bound : ¬c.val.toNat ≤ 0x7F := Nat.not_le.2 large
  simp only [String.utf8EncodeChar, if_neg bound] at member
  split at member
  · simp only [List.mem_cons, List.not_mem_nil, or_false] at member
    rcases member with rfl | rfl <;> simp <;> omega
  · split at member
    · simp only [List.mem_cons, List.not_mem_nil, or_false] at member
      rcases member with rfl | rfl | rfl <;> simp <;> omega
    · simp only [List.mem_cons, List.not_mem_nil, or_false] at member
      rcases member with rfl | rfl | rfl | rfl <;> simp <;> omega

end Campus.Bytes
