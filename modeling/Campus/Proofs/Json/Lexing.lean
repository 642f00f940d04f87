import Campus.Proofs.Json.Numbers
import Campus.Proofs.Json.Reading
import Mathlib.Data.List.TakeWhile
/-!
# What JSON text is

JSON text spells the tokens of a tree, with blanks before, between and after them. How a token is
spelled is said here by the parts it is put together from: a number from digits, a fraction and a
power of ten, a text from bytes and escapes between quotes. A number goes on for as long as it can.
The reader finds a tree exactly if the bytes spell it.
-/

namespace Campus.Json

namespace Token

/-! ## Numbers -/

/-- Digits, at least one. -/
structure AreDigits (bytes : List UInt8) : Prop where
  nonEmpty : bytes ≠ []
  each : ∀ b ∈ bytes, isDigit b = true

/-- The fraction of a number: nothing, or digits after a point. -/
inductive IsFraction : Option (List UInt8) → List UInt8 → Prop
  | absent : IsFraction none []
  | places {places : List UInt8} (areDigits : AreDigits places) :
    IsFraction (some places) (ascii '.' :: places)

/-- The sign of a power of ten, which may be left out. -/
inductive IsSign : Bool → List UInt8 → Prop
  | absent : IsSign false []
  | plus : IsSign false [ascii '+']
  | minus : IsSign true [ascii '-']

/-- The power of ten of a number: nothing, or a letter, a sign and digits. -/
inductive IsPower : Option Int → List UInt8 → Prop
  | absent : IsPower none []
  | digits {letter : UInt8} {negative : Bool} {sign digits : List UInt8}
    (isLetter : letter = ascii 'e' ∨ letter = ascii 'E') (isSign : IsSign negative sign)
    (areDigits : AreDigits digits) :
    IsPower (some (if negative then -(digitsValue (toChars digits) : Int)
      else digitsValue (toChars digits))) (letter :: (sign ++ digits))

/-- A number without its sign, and its value with the sign: digits without a superfluous zero in
front, a fraction and a power of ten. -/
inductive IsUnsigned (negative : Bool) : Option JsonNumber → List UInt8 → Prop
  | parts {whole point scale : List UInt8} {fraction : Option (List UInt8)} {power : Option Int}
    (areDigits : AreDigits whole)
    (noZero : whole.length = 1 ∨ whole.head? ≠ some (ascii '0'))
    (isFraction : IsFraction fraction point) (isPower : IsPower power scale) :
    IsUnsigned negative (partsValue negative (toChars whole) (fraction.map toChars) power)
      (whole ++ (point ++ scale))

section numbers

variable {bytes rest tail spelled : List UInt8} {fraction : Option (List UInt8)}
  {power : Option Int} {negative : Bool}

/-- Bytes are the digits in front and what follows them, which starts with no digit. -/
theorem split_digits (bytes : List UInt8) :
    bytes = bytes.takeWhile isDigit ++ bytes.dropWhile isDigit ∧
      (∀ b ∈ bytes.takeWhile isDigit, isDigit b = true) ∧
      ∀ b ∈ (bytes.dropWhile isDigit).head?, isDigit b = false :=
  ⟨List.takeWhile_append_dropWhile.symm, fun _ member => List.mem_takeWhile_imp member,
    fun b first => by
      have notDigit := List.head?_dropWhile_not isDigit bytes
      rw [Option.mem_def.1 first] at notDigit
      simpa using notDigit⟩

/-- What is scanned as a fraction is one. -/
theorem isFraction_of_scan (scanned : scanFraction bytes = some (fraction, rest))
    (stops : ∀ b ∈ bytes.head?, isDigit b = false) :
    ∃ point, bytes = point ++ rest ∧ IsFraction fraction point ∧
      ∀ b ∈ rest.head?, isDigit b = false := by
  cases bytes with
  | nil =>
    cases scanned
    exact ⟨[], rfl, .absent, nofun⟩
  | cons b others =>
    rw [scanFraction] at scanned
    split at scanned
    · next isPoint =>
      obtain ⟨split, digits, after⟩ := split_digits others
      dsimp only at scanned
      split at scanned
      · cases scanned
      · next someDigits =>
        cases scanned
        refine ⟨ascii '.' :: others.takeWhile isDigit, ?_, .places ⟨?_, digits⟩, after⟩
        · rw [isPoint, List.cons_append, ← split]
        · simpa [List.isEmpty_iff] using someDigits
    · cases scanned
      exact ⟨[], rfl, .absent, stops⟩

/-- What follows the letter of a power of ten has a sign in front or not. -/
theorem exists_sign (bytes : List UInt8) :
    ∃ negative sign digits, bytes = sign ++ digits ∧ IsSign negative sign ∧
      (sign = [] → ∀ b ∈ digits.head?, b ≠ ascii '-' ∧ b ≠ ascii '+') := by
  cases bytes with
  | nil => exact ⟨false, [], [], rfl, .absent, nofun⟩
  | cons b rest =>
    by_cases minus : b = ascii '-'
    · exact ⟨true, [ascii '-'], rest, by rw [minus]; rfl, .minus, nofun⟩
    · by_cases plus : b = ascii '+'
      · exact ⟨false, [ascii '+'], rest, by rw [plus]; rfl, .plus, nofun⟩
      · refine ⟨false, [], b :: rest, rfl, .absent, fun _ => ?_⟩
        rintro _ ⟨rfl⟩
        exact ⟨minus, plus⟩

/-- After its letter and sign a power of ten is scanned as digits. -/
theorem scanPower_signed {letter : UInt8} {sign digits : List UInt8}
    (isLetter : letter = ascii 'e' ∨ letter = ascii 'E') (isSign : IsSign negative sign)
    (apart : sign = [] → ∀ b ∈ digits.head?, b ≠ ascii '-' ∧ b ≠ ascii '+') :
    scanPower (letter :: (sign ++ digits)) =
      if (digits.takeWhile isDigit).isEmpty then none
      else some (some (if negative then -(digitsValue (toChars (digits.takeWhile isDigit)) : Int)
        else digitsValue (toChars (digits.takeWhile isDigit))), digits.dropWhile isDigit) := by
  have starts : (decide (letter = ascii 'e') || decide (letter = ascii 'E')) = true := by
    simpa using isLetter
  have plusNotMinus : ascii '+' ≠ ascii '-' := by decide
  cases isSign with
  | minus => simp [scanPower, starts]
  | plus => simp [scanPower, starts, plusNotMinus]
  | absent =>
    cases digits with
    | nil => simp [scanPower, starts]
    | cons b rest =>
      obtain ⟨notMinus, notPlus⟩ := apart rfl b rfl
      simp [scanPower, starts, notMinus, notPlus]

/-- What is scanned as a power of ten is one. -/
theorem isPower_of_scan (scanned : scanPower bytes = some (power, rest))
    (stops : ∀ b ∈ bytes.head?, isDigit b = false) :
    ∃ scale, bytes = scale ++ rest ∧ IsPower power scale ∧
      ∀ b ∈ rest.head?, isDigit b = false := by
  cases bytes with
  | nil =>
    cases scanned
    exact ⟨[], rfl, .absent, nofun⟩
  | cons b others =>
    by_cases isLetter : b = ascii 'e' ∨ b = ascii 'E'
    · obtain ⟨negative, sign, digits, rfl, isSign, apart⟩ := exists_sign others
      obtain ⟨split, areDigits, after⟩ := split_digits digits
      rw [scanPower_signed isLetter isSign apart] at scanned
      split at scanned
      · cases scanned
      · next someDigits =>
        cases scanned
        refine ⟨b :: (sign ++ digits.takeWhile isDigit), ?_,
          .digits isLetter isSign ⟨?_, areDigits⟩, after⟩
        · rw [List.cons_append, List.append_assoc, ← split]
        · simpa [List.isEmpty_iff] using someDigits
    · have noPower := scanPower_none fun c (first : c ∈ (b :: others).head?) => by
        cases first
        exact not_or.1 isLetter
      cases noPower.symm.trans scanned
      exact ⟨[], rfl, .absent, stops⟩

/-- What is scanned as a number is one, and no digit follows. -/
theorem isUnsigned_of_scan {token : Token}
    (scanned : scanNumber negative bytes = some (token, rest)) :
    ∃ value spelled, token = .number value ∧ bytes = spelled ++ rest ∧
      IsUnsigned negative value spelled ∧ ∀ b ∈ rest.head?, isDigit b = false := by
  obtain ⟨split, areDigits, after⟩ := split_digits bytes
  have number := scanned
  unfold scanNumber at number
  by_cases empty : (bytes.takeWhile isDigit).isEmpty
  · simp [empty] at number
  by_cases leading : 1 < (bytes.takeWhile isDigit).length ∧
      (bytes.takeWhile isDigit).head? = some (ascii '0')
  · simp [empty, leading] at number
  simp only [empty, leading, Bool.false_eq_true, if_false, Option.bind_eq_bind,
    Option.bind_eq_some_iff] at number
  obtain ⟨⟨fraction, later⟩, hasFraction, ⟨power, last⟩, hasPower, -⟩ := number
  obtain ⟨point, splitPoint, isFraction, afterPoint⟩ := isFraction_of_scan hasFraction after
  obtain ⟨scale, splitScale, isPower, afterScale⟩ := isPower_of_scan hasPower afterPoint
  have nonEmpty : bytes.takeWhile isDigit ≠ [] := by simpa [List.isEmpty_iff] using empty
  have noZero : (bytes.takeWhile isDigit).length = 1 ∨
      (bytes.takeWhile isDigit).head? ≠ some (ascii '0') := by
    have some := List.length_pos_iff.2 nonEmpty
    by_cases one : (bytes.takeWhile isDigit).length = 1
    · exact .inl one
    · exact .inr fun zero => leading ⟨by omega, zero⟩
  have parts := scanNumber_parts negative nonEmpty areDigits noZero after hasFraction hasPower
  rw [← split, scanned] at parts
  cases parts
  refine ⟨_, _, rfl, ?_, .parts ⟨nonEmpty, areDigits⟩ noZero isFraction isPower, afterScale⟩
  rw [List.append_assoc, List.append_assoc, ← splitScale, ← splitPoint, ← split]

/-- A fraction is scanned as it, unless what follows continues it. -/
theorem IsFraction.scan (isFraction : IsFraction fraction spelled)
    (stops : ∀ b ∈ rest.head?, isDigit b = false ∧ b ≠ ascii '.') :
    scanFraction (spelled ++ rest) = some (fraction, rest) := by
  cases isFraction with
  | absent => exact scanFraction_none fun b first => (stops b first).2
  | places areDigits =>
    obtain ⟨taken, dropped⟩ := takeWhile_digits areDigits.each fun b first => (stops b first).1
    have someDigits := List.isEmpty_eq_false_iff.2 areDigits.nonEmpty
    simp [scanFraction, taken, dropped, someDigits]

/-- A power of ten is scanned as it, unless what follows continues it. -/
theorem IsPower.scan (isPower : IsPower power spelled) (ends : EndsNumber rest) :
    scanPower (spelled ++ rest) = some (power, rest) := by
  cases isPower with
  | absent => exact scanPower_none fun b first => (ends b first).2.2
  | digits isLetter isSign areDigits =>
    rename_i letter negative sign digits
    obtain ⟨taken, dropped⟩ := takeWhile_digits areDigits.each fun b first => (ends b first).1
    have someDigits := List.isEmpty_eq_false_iff.2 areDigits.nonEmpty
    have apart : sign = [] → ∀ b ∈ (digits ++ rest).head?, b ≠ ascii '-' ∧ b ≠ ascii '+' := by
      intro _ b first
      obtain ⟨d, others, rfl⟩ := List.exists_cons_of_ne_nil areDigits.nonEmpty
      cases first
      have digit := areDigits.each b List.mem_cons_self
      constructor <;> (rintro rfl; cases digit)
    rw [List.cons_append, List.append_assoc, scanPower_signed isLetter isSign apart, taken, dropped,
      someDigits]
    rfl

/-- What precedes a power of ten is no digit and no point. -/
theorem IsPower.apart (isPower : IsPower power spelled) (ends : EndsNumber rest) :
    ∀ b ∈ (spelled ++ rest).head?, isDigit b = false ∧ b ≠ ascii '.' := by
  cases isPower with
  | absent => exact fun b first => ⟨(ends b first).1, (ends b first).2.1⟩
  | digits isLetter _ _ =>
    rintro b ⟨rfl⟩
    rcases isLetter with rfl | rfl <;> exact ⟨by decide, by decide⟩

/-- A number is scanned as it, unless what follows continues it. -/
theorem IsUnsigned.scan {value : Option JsonNumber} (isUnsigned : IsUnsigned negative value spelled)
    (ends : EndsNumber rest) :
    scanNumber negative (spelled ++ rest) = some (.number value, rest) := by
  cases isUnsigned with
  | parts areDigits noZero isFraction isPower =>
    rename_i whole point scale fraction power
    have hasFraction := isFraction.scan (isPower.apart ends)
    have stops : ∀ b ∈ (point ++ (scale ++ rest)).head?, isDigit b = false := by
      cases isFraction with
      | absent => exact fun b first => (isPower.apart ends b first).1
      | places _ =>
        rintro b ⟨rfl⟩
        decide
    rw [List.append_assoc, List.append_assoc]
    exact scanNumber_parts negative areDigits.nonEmpty areDigits.each noZero stops hasFraction
      (isPower.scan ends)

end numbers

/-! ## Texts -/

/-- How a piece of a text is written: a byte as it is, a letter or four hexadecimal digits after a
backslash. Control characters, quotes and backslashes are not written as they are. -/
inductive Piece.IsWritten : Piece → List UInt8 → Prop
  | byte {b : UInt8} (notQuote : b ≠ ascii '"') (notControl : ¬b < 0x20)
    (notEscape : b ≠ ascii '\\') : IsWritten (.byte b) [b]
  | escape {letter b : UInt8} (simple : simpleEscape? letter = some b) :
    IsWritten (.byte b) [ascii '\\', letter]
  | unit {x y z w : UInt8} {value : Nat} (hex : hexUnit? x y z w = some value) :
    IsWritten (.unit value) [ascii '\\', ascii 'u', x, y, z, w]

/-- Pieces are written one after another. -/
inductive AreWritten : List Piece → List UInt8 → Prop
  | nil : AreWritten [] []
  | cons {piece : Piece} {pieces : List Piece} {front back : List UInt8}
    (first : piece.IsWritten front) (others : AreWritten pieces back) :
    AreWritten (piece :: pieces) (front ++ back)

/-- What is scanned as pieces is written so, up to a quote. -/
theorem areWritten_of_scan {before found : List Piece} {bytes rest : List UInt8}
    (scanned : scanPieces before bytes = some (found, rest)) :
    ∃ pieces written, found = pieces.reverse ++ before ∧
      bytes = written ++ ascii '"' :: rest ∧ AreWritten pieces written := by
  -- One more piece in front of those that are scanned after it.
  have front {piece : Piece} {before : List Piece} {bytes written : List UInt8}
      (first : piece.IsWritten written)
      (others : ∃ pieces back, found = pieces.reverse ++ piece :: before ∧
        bytes = back ++ ascii '"' :: rest ∧ AreWritten pieces back) :
      ∃ pieces back, found = pieces.reverse ++ before ∧
        written ++ bytes = back ++ ascii '"' :: rest ∧ AreWritten pieces back := by
    obtain ⟨pieces, back, rfl, rfl, areWritten⟩ := others
    exact ⟨piece :: pieces, written ++ back, by simp, by simp, .cons first areWritten⟩
  fun_induction scanPieces before bytes with
  | case1 | case3 | case4 | case6 | case7 | case9 => cases scanned
  | case2 =>
    cases scanned
    exact ⟨[], [], rfl, rfl, .nil⟩
  | case5 _ _ _ _ _ _ _ hex _ _ ih => exact front (.unit hex) (ih scanned)
  | case8 _ _ _ _ _ simple _ _ ih => exact front (.escape simple) (ih scanned)
  | case10 _ _ _ notQuote notControl notEscape ih =>
    exact front (.byte notQuote notControl notEscape) (ih scanned)

/-- A written piece is scanned as it. -/
theorem Piece.IsWritten.scan {piece : Piece} {written : List UInt8}
    (isWritten : piece.IsWritten written) (before : List Piece) (rest : List UInt8) :
    scanPieces before (written ++ rest) = scanPieces (piece :: before) rest := by
  have notQuote : ascii '\\' ≠ ascii '"' := by decide
  have notControl : ¬ascii '\\' < 0x20 := by decide
  cases isWritten with
  | byte isNoQuote isNoControl isNoEscape =>
    rw [List.singleton_append, scanPieces.eq_def before]
    simp only [if_neg isNoQuote, if_neg isNoControl, if_neg isNoEscape]
  | escape simple =>
    rename_i letter b
    have notUnit : letter ≠ ascii 'u' := by
      rintro rfl
      cases simple
    rw [List.cons_append, List.singleton_append, scanPieces.eq_def before]
    simp only [if_neg notQuote, if_neg notControl, ↓reduceIte, if_neg notUnit, simple]
  | unit hex =>
    simp only [List.cons_append, List.nil_append]
    rw [scanPieces.eq_def before]
    simp only [if_neg notQuote, if_neg notControl, ↓reduceIte, hex]

/-- Written pieces are scanned as they are, up to a quote. -/
theorem AreWritten.scan {pieces : List Piece} {written : List UInt8}
    (areWritten : AreWritten pieces written) (before : List Piece) (rest : List UInt8) :
    scanPieces before (written ++ ascii '"' :: rest) = some (pieces.reverse ++ before, rest) := by
  induction areWritten generalizing before with
  | nil =>
    rw [List.nil_append, scanPieces.eq_def before]
    simp only [↓reduceIte, List.reverse_nil, List.nil_append]
  | cons first _ ih =>
    rw [List.append_assoc, first.scan, ih, List.reverse_cons, List.append_assoc,
      List.singleton_append]

/-! ## Tokens -/

/-- How a token is spelled. -/
inductive IsSpelled : Token → List UInt8 → Prop
  | openObject : IsSpelled .openObject [0x7B]
  | closeObject : IsSpelled .closeObject [0x7D]
  | openArray : IsSpelled .openArray [ascii '[']
  | closeArray : IsSpelled .closeArray [ascii ']']
  | colon : IsSpelled .colon [ascii ':']
  | comma : IsSpelled .comma [ascii ',']
  | null : IsSpelled .null (['n', 'u', 'l', 'l'].map ascii)
  | yes : IsSpelled (.bool true) (['t', 'r', 'u', 'e'].map ascii)
  | no : IsSpelled (.bool false) (['f', 'a', 'l', 's', 'e'].map ascii)
  | unsigned {value : Option JsonNumber} {bytes : List UInt8}
    (isUnsigned : IsUnsigned false value bytes) : IsSpelled (.number value) bytes
  | negative {value : Option JsonNumber} {bytes : List UInt8}
    (isUnsigned : IsUnsigned true value bytes) : IsSpelled (.number value) (ascii '-' :: bytes)
  | text {pieces : List Piece} {written : List UInt8} (areWritten : AreWritten pieces written) :
    IsSpelled (.text (textOf pieces.reverse)) (ascii '"' :: (written ++ [ascii '"']))

/-- Whether a token is a number. -/
def IsNumber (token : Token) : Prop := ∃ value, token = .number value

/-- Bytes spell tokens one after another, with blanks anywhere between them. A number is not cut
short. -/
inductive Lexes : List UInt8 → List Token → Prop
  | nil : Lexes [] []
  | blank {b : UInt8} {bytes : List UInt8} {tokens : List Token} (isBlank : isBlank b = true)
    (rest : Lexes bytes tokens) : Lexes (b :: bytes) tokens
  | token {token : Token} {front bytes : List UInt8} {tokens : List Token}
    (spelled : token.IsSpelled front) (ends : token.IsNumber → EndsNumber bytes)
    (rest : Lexes bytes tokens) : Lexes (front ++ bytes) (token :: tokens)

section tokens

variable {token : Token} {tokens : List Token} {front bytes rest : List UInt8}

/-- The letters of a word are scanned as its token. -/
theorem scanWord_append (token : Token) (letters : List Char) (rest : List UInt8) :
    scanWord token letters (letters.map ascii ++ rest) = some (token, rest) := by
  have isFront : (letters.map ascii).isPrefixOf (letters.map ascii ++ rest) = true :=
    List.isPrefixOf_iff_prefix.2 (List.prefix_append _ _)
  rw [scanWord, if_pos isFront, List.drop_left' (List.length_map _)]

/-- A scanned word is its token and its letters. -/
theorem eq_of_scanWord {found : Token} {letters : List Char}
    (scanned : scanWord token letters bytes = some (found, rest)) :
    found = token ∧ bytes = letters.map ascii ++ rest := by
  rw [scanWord] at scanned
  split at scanned
  · next isFront =>
    cases scanned
    obtain ⟨rest, rfl⟩ := List.isPrefixOf_iff_prefix.1 isFront
    rw [List.drop_left' (List.length_map _)]
    exact ⟨rfl, rfl⟩
  · cases scanned

/-- A token stands in front of the rest of the bytes, and if it is a number no digit follows it. -/
def StandsBefore (token : Token) (rest bytes : List UInt8) : Prop :=
  ∃ front, bytes = front ++ rest ∧ token.IsSpelled front ∧
    (token.IsNumber → ∀ b ∈ rest.head?, isDigit b = false)

/-- A token of one byte stands before what follows the byte. -/
theorem standsBefore_mark {b first : UInt8} {mark : Token} {tail : List UInt8}
    (spelled : mark.IsSpelled [b]) (notNumber : ¬mark.IsNumber) (is : first = b)
    (found : some (mark, tail) = some (token, rest)) : token.StandsBefore rest (first :: tail) := by
  cases found
  exact ⟨[b], by rw [is]; rfl, spelled, fun isNumber => absurd isNumber notNumber⟩

/-- A word that is scanned after its first letter stands before the rest. -/
theorem standsBefore_word {letter : Char} {letters : List Char} {word : Token} {first : UInt8}
    {tail : List UInt8} (spelled : word.IsSpelled ((letter :: letters).map ascii))
    (notNumber : ¬word.IsNumber) (is : first = ascii letter)
    (found : scanWord word letters tail = some (token, rest)) :
    token.StandsBefore rest (first :: tail) := by
  obtain ⟨rfl, rfl⟩ := eq_of_scanWord found
  exact ⟨_, by rw [is]; rfl, spelled, fun isNumber => absurd isNumber notNumber⟩

/-- A token that is scanned stands before the rest. -/
theorem standsBefore_of_scan {first : UInt8} {tail : List UInt8}
    (scanned : scanOne first tail = some (token, rest)) :
    token.StandsBefore rest (first :: tail) := by
  revert scanned
  -- One case for each way that a token starts.
  fun_cases scanOne first tail with
  | case1 is => exact standsBefore_mark .openObject (by simp [IsNumber]) is
  | case2 _ is => exact standsBefore_mark .closeObject (by simp [IsNumber]) is
  | case3 _ _ is => exact standsBefore_mark .openArray (by simp [IsNumber]) is
  | case4 _ _ _ is => exact standsBefore_mark .closeArray (by simp [IsNumber]) is
  | case5 _ _ _ _ is => exact standsBefore_mark .colon (by simp [IsNumber]) is
  | case6 _ _ _ _ _ is => exact standsBefore_mark .comma (by simp [IsNumber]) is
  | case7 _ _ _ _ _ _ is _ _ pieces =>
    intro scanned
    cases scanned
    obtain ⟨pieces, written, all, rfl, areWritten⟩ := areWritten_of_scan pieces
    rw [all, List.append_nil]
    exact ⟨_, by rw [is]; simp, .text areWritten, by simp [IsNumber]⟩
  | case9 _ _ _ _ _ _ _ is =>
    intro scanned
    obtain ⟨value, spelled, rfl, rfl, isUnsigned, after⟩ := isUnsigned_of_scan scanned
    exact ⟨_, by rw [is]; rfl, .negative isUnsigned, fun _ => after⟩
  | case10 =>
    intro scanned
    obtain ⟨value, spelled, rfl, split, isUnsigned, after⟩ := isUnsigned_of_scan scanned
    exact ⟨_, split, .unsigned isUnsigned, fun _ => after⟩
  | case11 _ _ _ _ _ _ _ _ _ is => exact standsBefore_word .null (by simp [IsNumber]) is
  | case12 _ _ _ _ _ _ _ _ _ _ is => exact standsBefore_word .yes (by simp [IsNumber]) is
  | case13 _ _ _ _ _ _ _ _ _ _ _ is => exact standsBefore_word .no (by simp [IsNumber]) is
  | case8 | case14 =>
    intro scanned
    cases scanned

/-- A number without its sign starts with a digit. -/
theorem IsUnsigned.starts {negative : Bool} {value : Option JsonNumber}
    (isUnsigned : IsUnsigned negative value bytes) :
    ∃ first tail, bytes = first :: tail ∧ isDigit first = true := by
  cases isUnsigned with
  | parts areDigits _ _ _ =>
    obtain ⟨first, others, rfl⟩ := List.exists_cons_of_ne_nil areDigits.nonEmpty
    exact ⟨first, _, rfl, areDigits.each first List.mem_cons_self⟩

/-- A spelled token is scanned as it, unless it is a number that goes on. -/
theorem IsSpelled.scan (spelled : token.IsSpelled front) (ends : token.IsNumber → EndsNumber rest) :
    ∃ first tail, front = first :: tail ∧ isBlank first = false ∧
      scanOne first (tail ++ rest) = some (token, rest) := by
  cases spelled with
  | openObject | closeObject | openArray | closeArray | colon | comma =>
    exact ⟨_, [], rfl, by decide, rfl⟩
  | null => exact ⟨_, _, rfl, by decide, scanWord_append .null ['u', 'l', 'l'] rest⟩
  | yes => exact ⟨_, _, rfl, by decide, scanWord_append (.bool true) ['r', 'u', 'e'] rest⟩
  | no => exact ⟨_, _, rfl, by decide, scanWord_append (.bool false) ['a', 'l', 's', 'e'] rest⟩
  | unsigned isUnsigned =>
    obtain ⟨first, tail, rfl, digit⟩ := isUnsigned.starts
    obtain ⟨visible, scanned⟩ := scanOne_digit digit (tail ++ rest)
    exact ⟨first, tail, rfl, visible, scanned.trans (isUnsigned.scan (ends ⟨_, rfl⟩))⟩
  | negative isUnsigned =>
    refine ⟨_, _, rfl, by decide, ?_⟩
    rw [scanOne, if_neg (by decide), if_neg (by decide), if_neg (by decide), if_neg (by decide),
      if_neg (by decide), if_neg (by decide), if_neg (by decide), if_pos rfl]
    exact isUnsigned.scan (ends ⟨_, rfl⟩)
  | text areWritten =>
    refine ⟨_, _, rfl, by decide, ?_⟩
    rw [scanOne, if_neg (by decide), if_neg (by decide), if_neg (by decide), if_neg (by decide),
      if_neg (by decide), if_neg (by decide), if_pos rfl, List.append_assoc, List.singleton_append,
      areWritten.scan, List.append_nil]

/-- No token starts like the rest of a number after its digits. -/
theorem IsSpelled.apart (spelled : token.IsSpelled front) :
    ∀ b ∈ (front ++ bytes).head?, b ≠ ascii '.' ∧ b ≠ ascii 'e' ∧ b ≠ ascii 'E' := by
  cases spelled with
  | unsigned isUnsigned =>
    obtain ⟨first, tail, rfl, digit⟩ := isUnsigned.starts
    rintro b ⟨rfl⟩
    refine ⟨?_, ?_, ?_⟩ <;> (rintro rfl; cases digit)
  | _ =>
    rintro b ⟨rfl⟩
    exact ⟨by decide, by decide, by decide⟩

/-- Bytes that spell tokens do not start like the rest of a number after its digits. -/
theorem Lexes.apart (lexes : Lexes bytes tokens) :
    ∀ b ∈ bytes.head?, b ≠ ascii '.' ∧ b ≠ ascii 'e' ∧ b ≠ ascii 'E' := by
  cases lexes with
  | nil => exact nofun
  | blank isBlank _ =>
    rintro b ⟨rfl⟩
    refine ⟨?_, ?_, ?_⟩ <;> (rintro rfl; cases isBlank)
  | token spelled _ _ => exact spelled.apart

/-- Tokens that are scanned are spelled by the bytes. -/
theorem lexes_of_scan {found all : List Token} {fuel : Nat}
    (scanned : scanAll found fuel bytes = some all) :
    ∃ tokens, all = found.reverse ++ tokens ∧ Lexes bytes tokens := by
  induction fuel generalizing found bytes with
  | zero =>
    cases bytes with
    | nil =>
      cases scanned
      exact ⟨[], by simp, .nil⟩
    | cons b rest => cases scanned
  | succ fuel ih =>
    cases bytes with
    | nil =>
      cases scanned
      exact ⟨[], by simp, .nil⟩
    | cons b rest =>
      rw [scanAll] at scanned
      split at scanned
      · next isBlank =>
        obtain ⟨tokens, all, lexes⟩ := ih scanned
        exact ⟨tokens, all, .blank isBlank lexes⟩
      · split at scanned
        · next token after one =>
          obtain ⟨front, split, spelled, noDigit⟩ := standsBefore_of_scan one
          obtain ⟨tokens, rfl, lexes⟩ := ih scanned
          rw [split]
          refine ⟨token :: tokens, by simp, .token spelled (fun isNumber b first => ?_) lexes⟩
          exact ⟨noDigit isNumber b first, lexes.apart b first⟩
        · cases scanned

/-- Bytes that spell tokens are scanned to them. -/
theorem Lexes.scan (lexes : Lexes bytes tokens) (found : List Token) {fuel : Nat}
    (enough : bytes.length ≤ fuel) :
    scanAll found fuel bytes = some (found.reverse ++ tokens) := by
  induction lexes generalizing found fuel with
  | nil => cases fuel <;> simp [scanAll]
  | blank isBlank _ ih =>
    obtain ⟨fuel, rfl⟩ : ∃ less, fuel = less + 1 :=
      ⟨fuel - 1, by rw [List.length_cons] at enough; omega⟩
    rw [scanAll, if_pos isBlank]
    exact ih found (Nat.le_of_succ_le_succ enough)
  | token spelled ends _ ih =>
    obtain ⟨first, tail, rfl, visible, scanned⟩ := spelled.scan ends
    rw [List.length_append, List.length_cons] at enough
    obtain ⟨fuel, rfl⟩ : ∃ less, fuel = less + 1 := ⟨fuel - 1, by omega⟩
    rw [List.cons_append, scanAll, if_neg (by simp [visible]), scanned]
    simp only
    rw [ih _ (by omega), List.reverse_cons, List.append_assoc, List.singleton_append]

/-- Bytes are scanned to tokens exactly if they spell them. -/
theorem scan_eq_some_iff : scan bytes = some tokens ↔ Lexes bytes tokens := by
  rw [scan]
  constructor
  · intro scanned
    obtain ⟨found, rfl, lexes⟩ := lexes_of_scan scanned
    exact lexes
  · intro lexes
    exact lexes.scan [] (Nat.le_refl _)

end tokens

end Token

/-- The bytes are JSON text of a tree: they spell the tokens of the tree. -/
def Source.IsSpelled (source : Source) (bytes : List UInt8) : Prop :=
  Token.Lexes bytes source.tokens

/-- A tree is read exactly if the bytes are JSON text of it. -/
theorem Source.parse?_eq_some_iff {bytes : List UInt8} {source : Source} :
    parse? bytes = some source ↔ source.IsSpelled bytes := by
  rw [parse?, Option.bind_eq_some_iff, IsSpelled, ← Token.scan_eq_some_iff]
  constructor
  · rintro ⟨tokens, scanned, read⟩
    rw [scanned, ofTokens?_eq_some_iff.1 read]
  · intro scanned
    exact ⟨_, scanned, ofTokens?_eq_some_iff.2 rfl⟩

end Campus.Json
