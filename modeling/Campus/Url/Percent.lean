import Campus.Data.Bytes
/-!
# Percent encoding

A character that a place in an address does not allow is written as its UTF-8 bytes, each as a
percent sign and two hexadecimal digits. Characters beyond ASCII and controls are allowed nowhere;
each place excludes some more.
-/

namespace Campus.Percent

/-- The places in an address. -/
inductive Place
  /-- A host that is not a domain. -/
  | host
  | fragment
  | query
  /-- A query in a scheme with fixed rules. -/
  | specialQuery
  | path
  /-- A path segment given by itself. -/
  | segment
  /-- A path segment given by itself, in a scheme with fixed rules. -/
  | specialSegment
  | user
deriving DecidableEq

/-- The printable ASCII characters that a place excludes. -/
def Place.excluded : Place → List Char
  | host => []
  | fragment => fragmentSet
  | query => querySet
  | specialQuery => '\'' :: querySet
  | path => pathSet
  | segment => ['/', '%'] ++ pathSet
  | specialSegment => ['\\', '/', '%'] ++ pathSet
  | user => ['/', ':', ';', '=', '@', '[', '\\', ']', '^', '|'] ++ pathSet
where
  fragmentSet : List Char := [' ', '"', '<', '>', '`']
  querySet : List Char := [' ', '"', '#', '<', '>']
  pathSet : List Char := ['#', '?', '\x7b', '\x7d'] ++ fragmentSet

/-- Whether a character stands for itself in a place. -/
def Place.keeps (place : Place) (c : Char) : Bool :=
  0x20 ≤ c.toNat && c.toNat < 0x7F && !place.excluded.contains c

/-- The capital hexadecimal digit of a number below sixteen. -/
def digit (n : Nat) : Char := if n < 10 then Char.ofNat (48 + n) else Char.ofNat (55 + n)

/-- The value of a hexadecimal digit of either case. -/
def value? (c : Char) : Option Nat :=
  if '0' ≤ c ∧ c ≤ '9' then some (c.toNat - 48)
  else if 'a' ≤ c ∧ c ≤ 'f' then some (c.toNat - 87)
  else if 'A' ≤ c ∧ c ≤ 'F' then some (c.toNat - 55)
  else none

/-- An escaped byte. -/
def escape (b : UInt8) : List Char := ['%', digit (b.toNat / 16), digit (b.toNat % 16)]

/-- Characters as a place takes them. -/
def encode (place : Place) (chars : List Char) : List Char :=
  chars.flatMap fun c =>
    if place.keeps c then [c] else (Bytes.ofText (String.singleton c)).flatMap escape

/-- A text as a place takes it. -/
def encodeText (place : Place) (text : String) : String := String.ofList (encode place text.toList)

/-- The bytes of characters with escapes. An escape without two digits stands for itself. -/
def decode : List Char → List UInt8
  | [] => []
  | '%' :: a :: b :: rest =>
    match value? a, value? b with
    | some high, some low => UInt8.ofNat (16 * high + low) :: decode rest
    | _, _ => Bytes.ofText "%" ++ decode (a :: b :: rest)
  | c :: rest => Bytes.ofText (String.singleton c) ++ decode rest

end Campus.Percent
