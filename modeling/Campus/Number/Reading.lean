import Campus.Number.Numeral
/-!
# Reading numbers from text

The text of a number is an optional sign and then either a decimal numeral (digits with at most one
point, at least one digit, and an optional power of ten) or one of the words `inf`, `infinity` and
`nan` in any case. Nothing may stand before or after it.
-/

namespace Campus

/-- The value of a list of decimal digits. -/
def digitsValue (digits : List Char) : Nat :=
  digits.foldl (fun value d => value * 10 + (d.toNat - '0'.toNat)) 0

/-- A signed power of ten: an optional sign and at least one digit, to the end of the text. -/
def readPower? (text : List Char) : Option Int :=
  let magnitude? (digits : List Char) : Option Nat :=
    if digits.isEmpty || !digits.all Char.isDigit then none else some (digitsValue digits)
  match text with
  | '-' :: digits => (magnitude? digits).map fun n => -(n : Int)
  | '+' :: digits => (magnitude? digits).map fun n => (n : Int)
  | digits => (magnitude? digits).map fun n => (n : Int)

/-- The power of ten behind the digits of a numeral, to the end of the text; it may be left out. -/
def readScale? : List Char → Option Int
  | [] => some 0
  | 'e' :: rest => readPower? rest
  | 'E' :: rest => readPower? rest
  | _ => none

/-- An unsigned decimal numeral that fills the whole text. -/
def readNumeral? (text : List Char) : Option Numeral := do
  let whole := text.takeWhile Char.isDigit
  let afterWhole := text.dropWhile Char.isDigit
  let (fraction, afterFraction) := match afterWhole with
    | '.' :: rest => (rest.takeWhile Char.isDigit, rest.dropWhile Char.isDigit)
    | rest => ([], rest)
  if whole.isEmpty && fraction.isEmpty then none
  let power ← readScale? afterFraction
  return ⟨digitsValue (whole ++ fraction), power - fraction.length⟩

namespace Binary64

/-- An unsigned numeral or one of the words for the special values. -/
def readUnsigned? (negative : Bool) (text : List Char) : Option Binary64 :=
  match String.ofList (text.map Char.toLower) with
  | "inf" | "infinity" => some (infinity negative)
  | "nan" => some (nan negative)
  | _ => (readNumeral? text).map (Numeral.toBinary64 negative)

/-- The number a text stands for. -/
def ofText? (text : String) : Option Binary64 :=
  match text.toList with
  | '-' :: rest => readUnsigned? true rest
  | '+' :: rest => readUnsigned? false rest
  | rest => readUnsigned? false rest

end Binary64
end Campus
