import Campus.Json.Printer
import Campus.Json.Token
import Campus.Proofs.Data.Bytes
/-!
# Texts between quotes

What a text is escaped to is scanned to pieces that spell the bytes of the text again. This is shown
stretch by stretch: a stretch of written bytes spells some bytes wherever it stands, and stretches
may be joined.
-/

namespace Campus.Json

namespace Token

/-- Written bytes are scanned to pieces that spell some bytes, whatever comes before and after. -/
def Spells (written spelled : List UInt8) : Prop :=
  ∃ pieces : List Piece,
    (∀ before rest,
      scanPieces before (written ++ rest) = scanPieces (pieces.reverse ++ before) rest)
    ∧ ∀ bytes more, spell bytes (pieces ++ more) = spell (spelled.reverse ++ bytes) more

/-- Nothing written spells nothing. -/
theorem spells_nil : Spells [] [] := ⟨[], fun _ _ => rfl, fun _ _ => rfl⟩

/-- Stretches one after another spell what they spell one after another. -/
theorem spells_append {written spelled otherWritten otherSpelled : List UInt8}
    (first : Spells written spelled) (second : Spells otherWritten otherSpelled) :
    Spells (written ++ otherWritten) (spelled ++ otherSpelled) := by
  obtain ⟨pieces, scanFirst, spellFirst⟩ := first
  obtain ⟨others, scanSecond, spellSecond⟩ := second
  refine ⟨pieces ++ others, fun before rest => ?_, fun bytes more => ?_⟩
  · rw [List.append_assoc, scanFirst, scanSecond, List.reverse_append, List.append_assoc]
  · rw [List.append_assoc, spellFirst, spellSecond, List.reverse_append, List.append_assoc]

/-- A byte that is no control character, quote or backslash spells itself. -/
theorem spells_byte {b : UInt8} (printable : 0x20 ≤ b.toNat) (notQuote : b ≠ ascii '"')
    (notEscape : b ≠ ascii '\\') : Spells [b] [b] := by
  have notControl : ¬b < 0x20 := by
    rw [UInt8.lt_iff_toNat_lt]
    exact Nat.not_lt.2 printable
  refine ⟨[.byte b], fun before rest => ?_, fun bytes more => rfl⟩
  rw [List.singleton_append, scanPieces.eq_def before (b :: rest)]
  simp only [if_neg notQuote, if_neg notControl, if_neg notEscape]
  rfl

/-- A one-letter escape spells the byte it stands for. -/
theorem spells_simpleEscape {letter byte : UInt8} (notUnit : letter ≠ ascii 'u')
    (escape : simpleEscape? letter = some byte) : Spells [ascii '\\', letter] [byte] := by
  have notQuote : ascii '\\' ≠ ascii '"' := by decide
  have notControl : ¬ascii '\\' < 0x20 := by decide
  refine ⟨[.byte byte], fun before rest => ?_, fun bytes more => rfl⟩
  rw [List.cons_append, List.singleton_append,
    scanPieces.eq_def before (ascii '\\' :: letter :: rest)]
  simp only [if_neg notQuote, if_neg notControl, ↓reduceIte, if_neg notUnit, escape]
  rfl

/-- An escaped control character spells the byte it is. -/
theorem spells_unit {n : Nat} (control : n < 0x20) :
    Spells (['\\', 'u', '0', '0', hexDigit (n / 16), hexDigit (n % 16)].map ascii)
      [UInt8.ofNat n] := by
  have digits : ∀ m < 0x20, hexUnit? (ascii '0') (ascii '0') (ascii (hexDigit (m / 16)))
      (ascii (hexDigit (m % 16))) = some m := by decide
  have bytes : ∀ m < 0x20, utf8 m = [UInt8.ofNat m] := by decide
  have notQuote : ascii '\\' ≠ ascii '"' := by decide
  have notControl : ¬ascii '\\' < 0x20 := by decide
  refine ⟨[.unit n], fun before rest => ?_, fun spelled more => ?_⟩
  · simp only [List.map_cons, List.map_nil, List.cons_append, List.nil_append]
    rw [scanPieces.eq_def before]
    simp only [if_neg notQuote, if_neg notControl, ↓reduceIte, digits n control]
    rfl
  · have notHigh : ¬(0xD800 ≤ n ∧ n ≤ 0xDBFF) := by omega
    have notLow : ¬(0xDC00 ≤ n ∧ n ≤ 0xDFFF) := by omega
    rw [List.singleton_append, spell.eq_def spelled]
    simp only [if_neg notHigh, if_neg notLow, bytes n control]

/-- ASCII characters of one byte are equal. -/
theorem eq_of_ascii_eq {c d : Char} (small : c.toNat < 0x80) (otherSmall : d.toNat < 0x80)
    (same : ascii c = ascii d) : c = d := by
  have values := congrArg UInt8.toNat same
  simp only [ascii, UInt8.toNat_ofNat'] at values
  exact Char.toNat_inj.1 (by omega)

/-- ASCII characters are their bytes. -/
theorem flatMap_utf8EncodeChar {chars : List Char} (small : ∀ c ∈ chars, c.toNat < 0x80) :
    chars.flatMap String.utf8EncodeChar = chars.map ascii := by
  induction chars with
  | nil => rfl
  | cons c rest ih =>
    obtain ⟨first, others⟩ := List.forall_mem_cons.1 small
    rw [List.flatMap_cons, Bytes.utf8EncodeChar_of_lt first, ih others]
    rfl

/-- Bytes beyond ASCII spell themselves. -/
theorem spells_bytes {bytes : List UInt8} (large : ∀ b ∈ bytes, 0x80 ≤ b.toNat) :
    Spells bytes bytes := by
  induction bytes with
  | nil => exact spells_nil
  | cons b rest ih =>
    obtain ⟨first, others⟩ := List.forall_mem_cons.1 large
    have notQuote : b ≠ ascii '"' := by
      rintro rfl
      exact absurd first (by decide)
    have notEscape : b ≠ ascii '\\' := by
      rintro rfl
      exact absurd first (by decide)
    exact spells_append (spells_byte (by omega) notQuote notEscape) (ih others)

/-- The written form of a character spells the bytes of the character. -/
theorem spells_escape (c : Char) :
    Spells ((escape c).flatMap String.utf8EncodeChar) (String.utf8EncodeChar c) := by
  have short {letter : Char} {n : Nat} (is : c.toNat = n) (small : n < 0x80)
      (written : escape c = ['\\', letter])
      (bytes : ['\\', letter].flatMap String.utf8EncodeChar = [ascii '\\', ascii letter])
      (notUnit : ascii letter ≠ ascii 'u') (simple : simpleEscape? (ascii letter) =
        some (UInt8.ofNat n)) :
      Spells ((escape c).flatMap String.utf8EncodeChar) (String.utf8EncodeChar c) := by
    rw [written, bytes, Bytes.utf8EncodeChar_of_lt (by omega), is]
    exact spells_simpleEscape notUnit simple
  by_cases quote : c = '"'
  · subst quote
    exact short rfl (by decide) rfl rfl (by decide) (by decide)
  by_cases backslash : c = '\\'
  · subst backslash
    exact short rfl (by decide) rfl rfl (by decide) (by decide)
  have other : escape c =
      if c.toNat = 8 then ['\\', 'b']
      else if c.toNat = 9 then ['\\', 't']
      else if c.toNat = 10 then ['\\', 'n']
      else if c.toNat = 12 then ['\\', 'f']
      else if c.toNat = 13 then ['\\', 'r']
      else if c.toNat < 32 then
        ['\\', 'u', '0', '0', hexDigit (c.toNat / 16), hexDigit (c.toNat % 16)]
      else [c] := by
    rw [escape, if_neg quote, if_neg backslash]
  by_cases backspace : c.toNat = 8
  · exact short backspace (by decide) (by rw [other, if_pos backspace]) rfl (by decide) (by decide)
  by_cases tab : c.toNat = 9
  · exact short tab (by decide) (by rw [other, if_neg backspace, if_pos tab]) rfl (by decide)
      (by decide)
  by_cases lineFeed : c.toNat = 10
  · exact short lineFeed (by decide) (by rw [other, if_neg backspace, if_neg tab, if_pos lineFeed])
      rfl (by decide) (by decide)
  by_cases formFeed : c.toNat = 12
  · exact short formFeed (by decide)
      (by rw [other, if_neg backspace, if_neg tab, if_neg lineFeed, if_pos formFeed])
      rfl (by decide) (by decide)
  by_cases carriageReturn : c.toNat = 13
  · exact short carriageReturn (by decide)
      (by rw [other, if_neg backspace, if_neg tab, if_neg lineFeed, if_neg formFeed,
        if_pos carriageReturn])
      rfl (by decide) (by decide)
  rw [other, if_neg backspace, if_neg tab, if_neg lineFeed, if_neg formFeed,
    if_neg carriageReturn]
  by_cases control : c.toNat < 32
  · have digits : ∀ n < 32,
        (hexDigit (n / 16)).toNat < 0x80 ∧ (hexDigit (n % 16)).toNat < 0x80 := by
      decide
    obtain ⟨high, low⟩ := digits c.toNat control
    rw [if_pos control, flatMap_utf8EncodeChar (by simp [high, low]),
      Bytes.utf8EncodeChar_of_lt (by omega)]
    exact spells_unit control
  · rw [if_neg control, List.flatMap_singleton]
    by_cases plain : c.toNat < 0x80
    · have printable : 0x20 ≤ (ascii c).toNat := by
        simp only [ascii, UInt8.toNat_ofNat']
        omega
      rw [Bytes.utf8EncodeChar_of_lt plain]
      exact spells_byte printable (fun same => quote (eq_of_ascii_eq plain (by decide) same))
        fun same => backslash (eq_of_ascii_eq plain (by decide) same)
    · exact spells_bytes fun b member =>
        Bytes.le_of_mem_utf8EncodeChar (Nat.not_lt.1 plain) member

/-- The written forms of characters spell the bytes of the characters. -/
theorem spells_flatMap_escape (chars : List Char) :
    Spells ((chars.flatMap escape).flatMap String.utf8EncodeChar)
      (chars.flatMap String.utf8EncodeChar) := by
  induction chars with
  | nil => exact spells_nil
  | cons c rest ih =>
    rw [List.flatMap_cons, List.flatMap_append, List.flatMap_cons]
    exact spells_append (spells_escape c) ih

/-- A quoted text is a quote and then what is scanned as the text. -/
theorem scanOne_quote (text : String) :
    ∃ tail, Bytes.ofText (quote text) = ascii '"' :: tail ∧
      ∀ rest, scanOne (ascii '"') (tail ++ rest) = some (.text (some text), rest) := by
  obtain ⟨pieces, scanned, spelled⟩ := spells_flatMap_escape text.toList
  let inner := (text.toList.flatMap escape).flatMap String.utf8EncodeChar
  refine ⟨inner ++ [ascii '"'], ?_, fun rest => ?_⟩
  · have mark : Bytes.ofText "\"" = [ascii '"'] := by decide
    rw [quote, Bytes.ofText_append, Bytes.ofText_append, mark,
      Bytes.ofText_ofList (text.toList.flatMap escape)]
    rfl
  · have read : scanPieces [] (inner ++ [ascii '"'] ++ rest) = some (pieces.reverse, rest) := by
      rw [List.append_assoc, scanned, List.append_nil, List.singleton_append, scanPieces.eq_def]
      simp only [↓reduceIte]
    have spells := spelled [] []
    rw [List.append_nil, List.append_nil, spell] at spells
    have value : textOf pieces.reverse = some text := by
      rw [textOf, List.reverse_reverse, spells]
      simp only [Option.bind_eq_bind, Option.bind_some, List.reverse_reverse]
      rw [← Bytes.ofText_eq_flatMap]
      exact Bytes.text?_ofText text
    rw [scanOne, if_neg (by decide), if_neg (by decide), if_neg (by decide), if_neg (by decide),
      if_neg (by decide), if_neg (by decide), if_pos rfl, read]
    simp only [value]

end Token
end Campus.Json
