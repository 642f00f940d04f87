import Campus.Url.Address
import Campus.Url.Punycode
/-!
# Hosts

In a scheme with fixed rules a host is a domain or a number. A domain is read with its escapes
resolved, written in small letters and in ASCII; a domain whose last part is a number has to be a
number as a whole. In other schemes any text without separators is a host.
-/

namespace Campus.Host

/-- Characters that no domain has. -/
def isForbidden (c : Char) : Bool :=
  c.toNat ≤ 0x20 || c.toNat == 0x7F ||
    ['#', '%', '/', ':', '<', '>', '?', '@', '[', '\\', ']', '^', '|'].contains c

/-- A character of a domain as it is compared: in small letters and in normal width, and nothing for
a mark that only guides the breaking of lines. Letters are folded in the Latin, Greek and Cyrillic
blocks. -/
def fold (c : Char) : List Char :=
  let n := c.toNat
  if n = 0xAD then []
  else if n = 0x3002 ∨ n = 0xFF0E ∨ n = 0xFF61 then ['.']
  else if 0xFF01 ≤ n ∧ n ≤ 0xFF5E then [(Char.ofNat (n - 0xFEE0)).toLower]
  else if n < 0x80 then [c.toLower]
  else if 0xC0 ≤ n ∧ n ≤ 0xDE ∧ n ≠ 0xD7 then [Char.ofNat (n + 0x20)]
  else if (0x100 ≤ n ∧ n ≤ 0x12F) ∨ (0x132 ≤ n ∧ n ≤ 0x137) ∨ (0x14A ≤ n ∧ n ≤ 0x177) then
    [Char.ofNat (n + (n + 1) % 2)]
  else if (0x139 ≤ n ∧ n ≤ 0x148) ∨ (0x179 ≤ n ∧ n ≤ 0x17E) then [Char.ofNat (n + n % 2)]
  else if 0x391 ≤ n ∧ n ≤ 0x3AB then [Char.ofNat (n + 0x20)]
  else if 0x410 ≤ n ∧ n ≤ 0x42F then [Char.ofNat (n + 0x20)]
  else if 0x400 ≤ n ∧ n ≤ 0x40F then [Char.ofNat (n + 0x50)]
  else [c]

/-- A label in ASCII. -/
def asciiLabel (label : List Char) : List Char :=
  if label.all fun c => c.toNat < 0x80 then label else ['x', 'n', '-', '-'] ++ Punycode.encode label

/-- A domain in small letters and in ASCII. -/
def asciiDomain (domain : List Char) : List Char :=
  ['.'].intercalate (((domain.flatMap fold).splitOn '.').map asciiLabel)

/-- An address of eight groups in brackets, without its opening bracket. -/
def bracketed? (chars : List Char) : Option (List Char) :=
  if chars.getLast? = some ']' then
    (Address.eightGroups? chars.dropLast).map fun groups =>
      '[' :: Address.eightGroupsText groups ++ [']']
  else none

/-- The host of a scheme with fixed rules, as it is written. -/
def special? (chars : List Char) : Option (List Char) :=
  match chars with
  | '[' :: rest => bracketed? rest
  | chars =>
    let domain := asciiDomain (Bytes.lenientText (Percent.decode chars)).toList
    if domain.isEmpty || domain.any isForbidden then none
    else if Address.endsInNumber domain then
      (Address.ofParts? (Address.parts domain)).map Address.fourBytesText
    else some domain

/-- The host of another scheme, as it is written. -/
def general? (chars : List Char) : Option (List Char) :=
  match chars with
  | '[' :: rest => bracketed? rest
  | chars =>
    let separates (c : Char) : Bool :=
      ['\x00', '\t', '\n', '\r', ' ', '#', '/', ':', '<', '>', '?', '@', '[', '\\', ']', '^',
        '|'].contains c
    if chars.any separates then none else some (Percent.encode .host chars)

end Campus.Host
