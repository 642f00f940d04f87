import Campus.Json.Basic
/-!
# Printing JSON

Documents are printed without blanks. A text escapes the quote, the backslash and the control
characters and keeps every other character. A real number is printed with its fewest digits,
positionally between `1e-5` and `1e16` with at least one place, and with an exponent outside.
-/

namespace Campus.Json

/-- The lower-case hexadecimal digit of a number below sixteen. -/
def hexDigit (n : Nat) : Char := Nat.digitChar n

/-- The written form of one character of a text. -/
def escape (c : Char) : List Char :=
  if c = '"' then ['\\', '"']
  else if c = '\\' then ['\\', '\\']
  else if c.toNat = 8 then ['\\', 'b']
  else if c.toNat = 9 then ['\\', 't']
  else if c.toNat = 10 then ['\\', 'n']
  else if c.toNat = 12 then ['\\', 'f']
  else if c.toNat = 13 then ['\\', 'r']
  else if c.toNat < 32 then ['\\', 'u', '0', '0', hexDigit (c.toNat / 16), hexDigit (c.toNat % 16)]
  else [c]

/-- A text between quotes. -/
def quote (text : String) : String := "\"" ++ String.ofList (text.toList.flatMap escape) ++ "\""

/-- Where a real number is printed without exponent, by the power of ten of its first digit. -/
def isPositional (power : Int) : Bool := -5 ≤ power && power < 16

/-- The written form of a real number; NaN and the infinities have none and are printed as null. -/
def realText (x : Binary64) : String :=
  if x.isFinite then
    let numeral := x.shortest .even
    let body :=
      if isPositional (numeral.ceiling - 1) || numeral.digits == 0 then
        if 0 ≤ numeral.exponent then numeral.plain ++ ".0" else numeral.plain
      else numeral.scientific
    if x.isNegative then "-" ++ body else body
  else "null"

/-- The written form of a number. -/
def numberText : JsonNumber → String
  | .integer value => toString value
  | .real value => realText value

mutual

/-- The printed document. -/
def render : Json → String
  | .null => "null"
  | .bool true => "true"
  | .bool false => "false"
  | .number value => numberText value
  | .text value => quote value
  | .array items => "[" ++ renderItems items ++ "]"
  | .object members => "\x7b" ++ renderMembers members ++ "\x7d"

/-- Items with commas between them. -/
def renderItems : List Json → String
  | [] => ""
  | [item] => render item
  | item :: rest => render item ++ "," ++ renderItems rest

/-- Members with commas between them. -/
def renderMembers : List (String × Json) → String
  | [] => ""
  | [(key, value)] => quote key ++ ":" ++ render value
  | (key, value) :: rest => quote key ++ ":" ++ render value ++ "," ++ renderMembers rest

end

end Campus.Json
