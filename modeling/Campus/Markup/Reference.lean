import Campus.Markup.NamedCharacter
/-!
# Character references

A reference calls a character by name or by number. A name is taken as long as possible. In the
value of an attribute a name without a semicolon counts only if neither a letter, a digit nor an
equals sign follows, so that the parameters of an address stay as they are. Numbers outside Unicode
give the replacement character, and numbers of the second control block give what the old Western
code page has there.
-/

namespace Campus.Markup.Reference

/-- The characters of the old Western code page at 128 to 159, where it has any. -/
def westernBlock : List Nat :=
  [0x20AC, 0x81, 0x201A, 0x0192, 0x201E, 0x2026, 0x2020, 0x2021, 0x02C6, 0x2030, 0x0160, 0x2039,
    0x0152, 0x8D, 0x017D, 0x8F, 0x90, 0x2018, 0x2019, 0x201C, 0x201D, 0x2022, 0x2013, 0x2014, 0x02DC,
    0x2122, 0x0161, 0x203A, 0x0153, 0x9D, 0x017E, 0x0178]

/-- The character of a number. -/
def ofNumber (n : Nat) : Char :=
  if n = 0 ∨ 0x10FFFF < n ∨ (0xD800 ≤ n ∧ n ≤ 0xDFFF) then '\ufffd'
  else if 0x80 ≤ n ∧ n ≤ 0x9F then Char.ofNat (westernBlock.getD (n - 0x80) n)
  else Char.ofNat n

/-- The value of a hexadecimal digit. -/
def hexValue? (c : Char) : Option Nat :=
  if '0' ≤ c ∧ c ≤ '9' then some (c.toNat - 48)
  else if 'a' ≤ c ∧ c ≤ 'f' then some (c.toNat - 87)
  else if 'A' ≤ c ∧ c ≤ 'F' then some (c.toNat - 55)
  else none

/-- The number that digits of a base give. -/
def numberOf (base : Nat) (digits : List Char) : Nat :=
  digits.foldl (fun n c => base * n + (hexValue? c).getD 0) 0

/-- A numeric reference after its number sign: the character, and what follows the reference. -/
def numeric? (base : Nat) (chars : List Char) : Option (List Char × List Char) :=
  let isDigit (c : Char) : Bool := if base = 16 then (hexValue? c).isSome else c.isDigit
  let digits := chars.takeWhile isDigit
  if digits.isEmpty then none
  else
    let rest := match chars.dropWhile isDigit with
      | ';' :: rest => rest
      | rest => rest
    some ([ofNumber (numberOf base digits)], rest)

/-- The longest name without semicolon at the front of letters and digits, at most `size` long. -/
def openName? (run : List Char) : (size : Nat) → Option NamedCharacter
  | 0 => none
  | size + 1 =>
    match NamedCharacter.allOpen.find? fun named => named.name == run.take (size + 1) with
    | some named => some named
    | none => openName? run size

/-- The longest name of all. -/
def longestName : Nat := 32

/-- A reference by name after its ampersand. -/
def named? (inAttribute : Bool) (chars : List Char) : Option (List Char × List Char) :=
  let run := chars.takeWhile Char.isAlphanum
  let closed := match chars.drop run.length with
    | ';' :: rest =>
      (NamedCharacter.all.find? fun named => named.name == run).map fun named => (named.value, rest)
    | _ => none
  match closed with
  | some found => some found
  | none =>
    match openName? run (min longestName run.length) with
    | none => none
    | some named =>
      let rest := chars.drop named.name.length
      let isBlocked := match rest with
        | c :: _ => inAttribute && (c == '=' || c.isAlphanum)
        | [] => false
      if isBlocked then none else some (named.value, rest)

/-- A reference after its ampersand: what it stands for, and what follows it. -/
def read? (inAttribute : Bool) : List Char → Option (List Char × List Char)
  | '#' :: 'x' :: rest => numeric? 16 rest
  | '#' :: 'X' :: rest => numeric? 16 rest
  | '#' :: rest => numeric? 10 rest
  | chars => named? inAttribute chars

/-- Put characters for references, onto the result so far, which comes latest first. -/
def resolveOnto (inAttribute : Bool) : (fuel : Nat) → List Char → List Char → List Char
  | 0, found, _ => found.reverse
  | _ + 1, found, [] => found.reverse
  | fuel + 1, found, c :: rest =>
    if c = '&' then
      match read? inAttribute rest with
      | some (value, rest) => resolveOnto inAttribute fuel (value.reverse ++ found) rest
      | none => resolveOnto inAttribute fuel ('&' :: found) rest
    else resolveOnto inAttribute fuel (c :: found) rest

/-- A text with characters for its references. -/
def resolve (inAttribute : Bool) (chars : List Char) : List Char :=
  resolveOnto inAttribute (chars.length + 1) [] chars

end Campus.Markup.Reference
