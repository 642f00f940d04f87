import Campus.Url.Percent
/-!
# Numeric hosts

A host can be a number: four bytes with points between them, where the last part may stand for
several bytes and parts may be octal or hexadecimal, or eight groups of sixteen bits with colons
between them, where one run of zero groups may be left out and the last two groups may be written as
four bytes.
-/

namespace Campus.Address

/-- The value of digits of a base. -/
def number (base : Nat) (digits : List Char) : Nat :=
  digits.foldl (fun n c => base * n + (Percent.value? c).getD 0) 0

/-- Whether all characters are digits of a base up to sixteen. -/
def areDigits (base : Nat) (chars : List Char) : Bool :=
  chars.all fun c => match Percent.value? c with
    | some n => n < base
    | none => false

/-- A part of a four-byte number: hexadecimal after `0x`, octal after another zero, else decimal. -/
def part? : List Char → Option Nat
  | [] => none
  | '0' :: 'x' :: digits | '0' :: 'X' :: digits =>
    if areDigits 16 digits then some (number 16 digits) else none
  | '0' :: c :: digits =>
    if areDigits 8 (c :: digits) then some (number 8 (c :: digits)) else none
  | digits => if areDigits 10 digits then some (number 10 digits) else none

/-- The parts of a domain; one empty part at the end does not count. -/
def parts (domain : List Char) : List (List Char) :=
  let parts := domain.splitOn '.'
  if parts.getLast? = some [] then parts.dropLast else parts

/-- Whether the last part of a domain is a number, so the whole has to be one. -/
def endsInNumber (domain : List Char) : Bool :=
  match (parts domain).getLast? with
  | some last => (!last.isEmpty && last.all Char.isDigit) || (part? last).isSome
  | none => false

/-- The four-byte number that parts give: all but the last one byte each. -/
def ofParts? (parts : List (List Char)) : Option Nat := do
  let numbers ← parts.mapM part?
  let last ← numbers.getLast?
  let front := numbers.dropLast
  if 4 < numbers.length ∨ front.any (255 < ·) ∨ Nat.pow 256 (4 - front.length) ≤ last then none
  return (front.zipIdx.foldl (fun sum entry => sum + entry.1 * Nat.pow 256 (3 - entry.2)) last)

/-- Four bytes with points between them. -/
def fourBytesText (n : Nat) : List Char :=
  ['.'].intercalate
    ([n / 0x1000000, n / 0x10000 % 256, n / 256 % 256, n % 256].map fun byte =>
      Nat.toDigits 10 byte)

/-- A byte in decimal digits without a leading zero. -/
def byte? (digits : List Char) : Option Nat :=
  if digits.isEmpty || !digits.all Char.isDigit then none
  else if 1 < digits.length ∧ digits.head? = some '0' then none
  else
    let n := number 10 digits
    if n ≤ 255 then some n else none

/-- The two groups of four bytes. -/
def bytePairs? (chars : List Char) : Option (List Nat) := do
  match ← (chars.splitOn '.').mapM byte? with
  | [a, b, c, d] => some [a * 256 + b, c * 256 + d]
  | _ => none

/-- A group of up to four hexadecimal digits. -/
def group? (digits : List Char) : Option Nat :=
  if digits.isEmpty || 4 < digits.length || !areDigits 16 digits then none
  else some (number 16 digits)

/-- Groups with colons between them; the last may be four bytes if that is allowed. -/
def groups? (allowsBytes : Bool) (chars : List Char) : Option (List Nat) :=
  if chars.isEmpty then some []
  else
    let parts := chars.splitOn ':'
    match parts.getLast? with
    | some last =>
      if allowsBytes && last.contains '.' then do
        return (← parts.dropLast.mapM group?) ++ (← bytePairs? last)
      else parts.mapM group?
    | none => none

/-- What is before and after the first pair of colons. -/
def splitGap? : List Char → Option (List Char × List Char)
  | [] => none
  | ':' :: ':' :: rest => some ([], rest)
  | c :: rest => (splitGap? rest).map fun (before, after) => (c :: before, after)

/-- The eight groups of an address. -/
def eightGroups? (chars : List Char) : Option (List Nat) := do
  match splitGap? chars with
  | none =>
    let groups ← groups? true chars
    if groups.length = 8 then some groups else none
  | some (before, after) =>
    let left ← groups? false before
    let right ← groups? true after
    let found := left.length + right.length
    if found ≤ 7 then some (left ++ List.replicate (8 - found) 0 ++ right) else none

/-- How many zeros stand at the front. -/
def zeroRun (groups : List Nat) : Nat := (groups.takeWhile (· == 0)).length

/-- The start and the length of the first longest run of zeros. -/
def longestZeros (groups : List Nat) : Nat × Nat :=
  (List.range groups.length).foldl
    (fun best start =>
      let run := zeroRun (groups.drop start)
      if best.2 < run then (start, run) else best)
    (0, 0)

/-- Groups in small hexadecimal digits with colons between them. -/
def groupsText (groups : List Nat) : List Char :=
  [':'].intercalate (groups.map fun group => Nat.toDigits 16 group)

/-- Eight groups with the first longest run of zeros left out, if it has more than one. -/
def eightGroupsText (groups : List Nat) : List Char :=
  let (start, run) := longestZeros groups
  if run < 2 then groupsText groups
  else groupsText (groups.take start) ++ [':', ':'] ++ groupsText (groups.drop (start + run))

end Campus.Address
