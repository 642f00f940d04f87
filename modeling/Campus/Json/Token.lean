import Campus.Json.Basic
import Campus.Number.Reading
import Campus.Number.Scaling
/-!
# JSON tokens

JSON text is a sequence of tokens with blanks between them. Scanning fixes where each token ends and
leaves open whether it has a value: a number can lie outside the binary64 range and a text can be
invalid UTF-8 or hold half a surrogate pair. Such a token is well formed and carries no value, so a
reader that skips it does not mind.
-/

namespace Campus.Json

/-- A token of JSON text. -/
inductive Token
  | openObject
  | closeObject
  | openArray
  | closeArray
  | colon
  | comma
  | null
  | bool (value : Bool)
  | number (value : Option JsonNumber)
  | text (value : Option String)
deriving DecidableEq

namespace Token

/-- A stretch of a text between its quotes: a byte as written, or an escaped UTF-16 unit. -/
inductive Piece
  | byte (value : UInt8)
  | unit (value : Nat)
deriving DecidableEq

/-- The byte of an ASCII character. -/
def ascii (c : Char) : UInt8 := UInt8.ofNat c.toNat

/-- The value of a hexadecimal digit of either case. -/
def hexDigit? (b : UInt8) : Option Nat :=
  let n := b.toNat
  if 0x30 ≤ n ∧ n ≤ 0x39 then some (n - 0x30)
  else if 0x41 ≤ n ∧ n ≤ 0x46 then some (n - 0x41 + 10)
  else if 0x61 ≤ n ∧ n ≤ 0x66 then some (n - 0x61 + 10)
  else none

/-- The value of four hexadecimal digits. -/
def hexUnit? (a b c d : UInt8) : Option Nat := do
  return ((((← hexDigit? a) * 16 + (← hexDigit? b)) * 16 + (← hexDigit? c)) * 16 + (← hexDigit? d))

/-- The byte a one-letter escape stands for. -/
def simpleEscape? (b : UInt8) : Option UInt8 :=
  if b = ascii '"' || b = ascii '\\' || b = ascii '/' then some b
  else if b = ascii 'b' then some 8
  else if b = ascii 'f' then some 12
  else if b = ascii 'n' then some 10
  else if b = ascii 'r' then some 13
  else if b = ascii 't' then some 9
  else none

/-- The pieces of a text after its opening quote, latest first, and what follows the closing one.
Control characters have to be escaped. -/
def scanPieces (pieces : List Piece) : List UInt8 → Option (List Piece × List UInt8)
  | [] => none
  | b :: rest =>
    if b = ascii '"' then some (pieces, rest)
    else if b < 0x20 then none
    else if b = ascii '\\' then
      match rest with
      | [] => none
      | letter :: rest =>
        if letter = ascii 'u' then
          match rest with
          | x :: y :: z :: w :: rest =>
            match hexUnit? x y z w with
            | some unit => scanPieces (.unit unit :: pieces) rest
            | none => none
          | _ => none
        else
          match simpleEscape? letter with
          | some byte => scanPieces (.byte byte :: pieces) rest
          | none => none
    else scanPieces (.byte b :: pieces) rest

/-- The UTF-8 bytes of a scalar value. -/
def utf8 (n : Nat) : List UInt8 := (String.singleton (Char.ofNat n)).toUTF8.data.toList

/-- The bytes that the pieces spell, last byte first; a surrogate has to come with its partner. -/
def spell (bytes : List UInt8) : List Piece → Option (List UInt8)
  | [] => some bytes
  | .byte b :: rest => spell (b :: bytes) rest
  | .unit high :: rest =>
    if 0xD800 ≤ high ∧ high ≤ 0xDBFF then
      match rest with
      | .unit low :: rest =>
        if 0xDC00 ≤ low ∧ low ≤ 0xDFFF then
          spell ((utf8 (0x10000 + (high - 0xD800) * 0x400 + (low - 0xDC00))).reverse ++ bytes) rest
        else none
      | _ => none
    else if 0xDC00 ≤ high ∧ high ≤ 0xDFFF then none
    else spell ((utf8 high).reverse ++ bytes) rest

/-- The text that pieces, latest first, stand for. -/
def textOf (pieces : List Piece) : Option String := do
  let bytes ← spell [] pieces.reverse
  String.fromUTF8? ⟨bytes.reverse.toArray⟩

/-- A byte that is a decimal digit. -/
def isDigit (b : UInt8) : Bool := 0x30 ≤ b && b ≤ 0x39

/-- Bytes of ASCII text as characters. -/
def toChars (bytes : List UInt8) : List Char := bytes.map fun b => Char.ofNat b.toNat

/-- Numbers of sixty-four bits are below this. -/
def wordLimit : Nat := 0x10000000000000000

/-- Digits are read on after a number as long as it keeps to sixty-four bits: the number, and the
digits from the first one on that does not fit. -/
def takeDigits (taken : Nat) : List Char → Nat × List Char
  | [] => (taken, [])
  | digit :: rest =>
    let next := taken * 10 + (digit.toNat - '0'.toNat)
    if next < wordLimit then takeDigits next rest else (taken, digit :: rest)

/-- The value of a number with a fraction or a power of ten. As many digits as keep to sixty-four
bits are scaled by a power of ten: digits before the point that are not read raise its exponent, and
those of the fraction that are read lower it. There is no value beyond the finite range. -/
def realValue (negative : Bool) (whole places : List Char) (power : Int) : Option JsonNumber :=
  let (front, unreadWhole) := takeDigits 0 whole
  let (taken, unreadPlaces) := takeDigits front places
  let exponent := power + unreadWhole.length - (places.length - unreadPlaces.length : Nat)
  (Binary64.scale? taken exponent).map fun x => .real (.ofMagnitude negative x.magnitude)

/-- An integer stays one in the sixty-four-bit range; zero with a minus sign and larger integers
become binary64 numbers. -/
def integerValue (negative : Bool) (digits : List Char) : Option JsonNumber :=
  let n := digitsValue digits
  if negative then
    if n ≠ 0 ∧ n ≤ 0x8000000000000000 then some (.integer (-(n : Int)))
    else realValue true digits [] 0
  else if n < wordLimit then some (.integer n)
  else realValue false digits [] 0

/-- The value of a number by its parts: the digits before the point, the fraction and the power of
ten. -/
def partsValue (negative : Bool) (whole : List Char) (fraction : Option (List Char))
    (power : Option Int) : Option JsonNumber :=
  match fraction, power with
  | none, none => integerValue negative whole
  | _, _ => realValue negative whole (fraction.getD []) (power.getD 0)

/-- The digits of a fraction after its point: at least one. -/
def scanFraction : List UInt8 → Option (Option (List UInt8) × List UInt8)
  | b :: rest =>
    if b = ascii '.' then
      let digits := rest.takeWhile isDigit
      if digits.isEmpty then none else some (some digits, rest.dropWhile isDigit)
    else some (none, b :: rest)
  | [] => some (none, [])

/-- A power of ten: a letter, an optional sign and at least one digit. -/
def scanPower : List UInt8 → Option (Option Int × List UInt8)
  | b :: rest =>
    if b = ascii 'e' || b = ascii 'E' then
      let (negative, rest) := match rest with
        | sign :: rest' =>
          if sign = ascii '-' then (true, rest')
          else if sign = ascii '+' then (false, rest')
          else (false, rest)
        | [] => (false, [])
      let digits := rest.takeWhile isDigit
      if digits.isEmpty then none
      else
        let size : Int := digitsValue (toChars digits)
        some (some (if negative then -size else size), rest.dropWhile isDigit)
    else some (none, b :: rest)
  | [] => some (none, [])

/-- An unsigned number: digits without a leading zero, a fraction and a power of ten. -/
def scanNumber (negative : Bool) (bytes : List UInt8) : Option (Token × List UInt8) := do
  let whole := bytes.takeWhile isDigit
  let rest := bytes.dropWhile isDigit
  if whole.isEmpty then none
  if 1 < whole.length ∧ whole.head? = some (ascii '0') then none
  let (fraction, rest) ← scanFraction rest
  let (power, rest) ← scanPower rest
  let value := partsValue negative (toChars whole) (fraction.map toChars) power
  return (.number value, rest)

/-- The rest of a word whose first letter has been read. -/
def scanWord (token : Token) (letters : List Char) (bytes : List UInt8) :
    Option (Token × List UInt8) :=
  if (letters.map ascii).isPrefixOf bytes then some (token, bytes.drop letters.length) else none

/-- Bytes that may stand between tokens. -/
def isBlank (b : UInt8) : Bool := b == 0x20 || b == 0x0A || b == 0x0D || b == 0x09

/-- The token that starts with a given byte. -/
def scanOne (first : UInt8) (rest : List UInt8) : Option (Token × List UInt8) :=
  if first = 0x7B then some (.openObject, rest)
  else if first = 0x7D then some (.closeObject, rest)
  else if first = ascii '[' then some (.openArray, rest)
  else if first = ascii ']' then some (.closeArray, rest)
  else if first = ascii ':' then some (.colon, rest)
  else if first = ascii ',' then some (.comma, rest)
  else if first = ascii '"' then
    match scanPieces [] rest with
    | some (pieces, rest) => some (.text (textOf pieces), rest)
    | none => none
  else if first = ascii '-' then scanNumber true rest
  else if isDigit first then scanNumber false (first :: rest)
  else if first = ascii 'n' then scanWord .null ['u', 'l', 'l'] rest
  else if first = ascii 't' then scanWord (.bool true) ['r', 'u', 'e'] rest
  else if first = ascii 'f' then scanWord (.bool false) ['a', 'l', 's', 'e'] rest
  else none

/-- All tokens of the bytes, onto those already found; `fuel` bounds the bytes that are left. -/
def scanAll (found : List Token) : (fuel : Nat) → List UInt8 → Option (List Token)
  | _, [] => some found.reverse
  | 0, _ :: _ => none
  | fuel + 1, b :: rest =>
    if isBlank b then scanAll found fuel rest
    else
      match scanOne b rest with
      | some (token, rest) => scanAll (token :: found) fuel rest
      | none => none

/-- The tokens of JSON text. -/
def scan (bytes : List UInt8) : Option (List Token) := scanAll [] bytes.length bytes

end Token
end Campus.Json
