/-!
# Base64

Three bytes are written as four digits of six bits each. One or two bytes at the end take two or
three digits, whose spare bits are zero; a padded form fills them up to four with `=`. Reading is
strict, so bytes have one written form and a text that is not the form of any bytes is refused.
-/

namespace Campus.Base64

/-- How digits are written. -/
structure Form where
  /-- The digit for 62. -/
  char62 : Char
  /-- The digit for 63. -/
  char63 : Char
  /-- Whether the last group is filled up. -/
  isPadded : Bool

/-- The usual form. -/
def standard : Form := ⟨'+', '/', true⟩

/-- The form for file names and addresses. -/
def urlSafe : Form := ⟨'-', '_', false⟩

namespace Form

/-- The digit for a number below sixty-four. -/
def digit (form : Form) (n : Nat) : Char :=
  if n < 26 then Char.ofNat (65 + n)
  else if n < 52 then Char.ofNat (97 + (n - 26))
  else if n < 62 then Char.ofNat (48 + (n - 52))
  else if n = 62 then form.char62
  else form.char63

/-- The number a digit stands for. -/
def value? (form : Form) (c : Char) : Option Nat :=
  let n := c.toNat
  if 65 ≤ n ∧ n ≤ 90 then some (n - 65)
  else if 97 ≤ n ∧ n ≤ 122 then some (n - 97 + 26)
  else if 48 ≤ n ∧ n ≤ 57 then some (n - 48 + 52)
  else if c = form.char62 then some 62
  else if c = form.char63 then some 63
  else none

/-- What fills up a last group by some digits. -/
def padding (form : Form) (count : Nat) : List Char :=
  if form.isPadded then List.replicate count '=' else []

/-- The written form of bytes. -/
def encode (form : Form) : List UInt8 → List Char
  | [] => []
  | [x] =>
    [form.digit (x.toNat / 4), form.digit (x.toNat % 4 * 16)] ++ form.padding 2
  | [x, y] =>
    [form.digit (x.toNat / 4), form.digit (x.toNat % 4 * 16 + y.toNat / 16),
      form.digit (y.toNat % 16 * 4)] ++ form.padding 1
  | x :: y :: z :: rest =>
    form.digit (x.toNat / 4) :: form.digit (x.toNat % 4 * 16 + y.toNat / 16) ::
      form.digit (y.toNat % 16 * 4 + z.toNat / 64) :: form.digit (z.toNat % 64) :: encode form rest

/-- The one or two bytes of two or three digits with zero spare bits. -/
def lastBytes? (form : Form) : List Char → Option (List UInt8)
  | [a, b] => do
    let a ← form.value? a
    let b ← form.value? b
    if b % 16 = 0 then some [UInt8.ofNat (a * 4 + b / 16)] else none
  | [a, b, c] => do
    let a ← form.value? a
    let b ← form.value? b
    let c ← form.value? c
    if c % 4 = 0 then some [UInt8.ofNat (a * 4 + b / 16), UInt8.ofNat (b % 16 * 16 + c / 4)]
    else none
  | _ => none

/-- The three bytes of four digits. -/
def group? (form : Form) (a b c d : Char) : Option (List UInt8) := do
  let a ← form.value? a
  let b ← form.value? b
  let c ← form.value? c
  let d ← form.value? d
  return [UInt8.ofNat (a * 4 + b / 16), UInt8.ofNat (b % 16 * 16 + c / 4),
    UInt8.ofNat (c % 4 * 64 + d)]

/-- The bytes that a text is the written form of. -/
def decode? (form : Form) : List Char → Option (List UInt8)
  | [] => some []
  | a :: b :: c :: d :: rest =>
    if form.isPadded ∧ rest = [] ∧ d = '=' then
      if c = '=' then form.lastBytes? [a, b] else form.lastBytes? [a, b, c]
    else do
      let group ← form.group? a b c d
      let others ← decode? form rest
      return group ++ others
  | short => if form.isPadded then none else form.lastBytes? short

end Form
end Campus.Base64
