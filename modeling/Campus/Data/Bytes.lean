/-!
# Bytes

Bytes are handled as lists. Numbers are stored in them with the least significant byte first, and
text as UTF-8. Reading text strictly refuses bytes that are not UTF-8; reading it leniently puts the
replacement character for every longest stretch that starts a character and does not complete it.
-/

namespace Campus.Bytes

/-- The number that bytes stand for, least significant first. -/
def number : List UInt8 → Nat
  | [] => 0
  | b :: rest => b.toNat + 256 * number rest

/-- A number as a given count of bytes, least significant first. -/
def ofNumber : (count : Nat) → Nat → List UInt8
  | 0, _ => []
  | count + 1, n => UInt8.ofNat (n % 256) :: ofNumber count (n / 256)

/-- The first bytes, if there are enough. -/
def take? (count : Nat) (bytes : List UInt8) : Option (List UInt8) :=
  let front := bytes.take count
  if front.length = count then some front else none

/-- The number in the first bytes, if there are enough. -/
def numberAt? (count position : Nat) (bytes : List UInt8) : Option Nat :=
  (take? count (bytes.drop position)).map number

/-- The bytes of a text. -/
def ofText (text : String) : List UInt8 := text.toUTF8.data.toList

/-- The text of bytes that are UTF-8. -/
def text? (bytes : List UInt8) : Option String := String.fromUTF8? ⟨bytes.toArray⟩

/-- The bytes that may follow a first byte, and how many follow after that one: none for a byte that
starts nothing. The bounds on the second byte leave out overlong forms, surrogates and values beyond
the last scalar. -/
def leadRange (b : UInt8) : Option (UInt8 × UInt8 × Nat) :=
  if 0xC2 ≤ b && b ≤ 0xDF then some (0x80, 0xBF, 0)
  else if b == 0xE0 then some (0xA0, 0xBF, 1)
  else if b == 0xED then some (0x80, 0x9F, 1)
  else if 0xE1 ≤ b && b ≤ 0xEF then some (0x80, 0xBF, 1)
  else if b == 0xF0 then some (0x90, 0xBF, 2)
  else if 0xF1 ≤ b && b ≤ 0xF3 then some (0x80, 0xBF, 2)
  else if b == 0xF4 then some (0x80, 0x8F, 2)
  else none

/-- A byte that continues a character. -/
def isContinuation (b : UInt8) : Bool := 0x80 ≤ b && b ≤ 0xBF

/-- How many bytes at the front belong to one character or one broken start of a character, and
whether they are a whole character. -/
def frontLength : List UInt8 → Nat × Bool
  | [] => (0, false)
  | b :: rest =>
    if b < 0x80 then (1, true)
    else match leadRange b with
      | none => (1, false)
      | some (low, high, more) =>
        match rest with
        | [] => (1, false)
        | second :: rest =>
          if low ≤ second && second ≤ high then
            let found := ((rest.take more).takeWhile isContinuation).length
            (2 + found, found == more)
          else (1, false)

/-- Text with the replacement character for broken stretches. The fuel is the number of bytes. -/
def lenientChars : (fuel : Nat) → List UInt8 → List Char
  | 0, _ => []
  | _, [] => []
  | fuel + 1, bytes =>
    let (length, whole) := frontLength bytes
    let front := if whole then (text? (bytes.take length)).elim [] String.toList else ['\ufffd']
    front ++ lenientChars fuel (bytes.drop (max 1 length))

/-- The text of bytes, with the replacement character where they are not UTF-8. -/
def lenientText (bytes : List UInt8) : String :=
  (text? bytes).getD (String.ofList (lenientChars bytes.length bytes))

end Campus.Bytes
