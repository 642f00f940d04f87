import Campus.Data.Keyed
import Campus.Number.Numeral
/-!
# JSON values

A JSON number is an integer in the sixty-four-bit range or a finite binary64 number. Objects read
from text hold their members in ascending key order with the last of equal keys; the type itself
does not insist, so a document can also be built by hand.
-/

namespace Campus

/-- A number in a JSON document. -/
inductive JsonNumber
  /-- An integer written without point or exponent, signed or unsigned sixty-four-bit. -/
  | integer (value : Int)
  /-- Any other number. -/
  | real (value : Binary64)
deriving DecidableEq

namespace JsonNumber

/-- The nearest binary64 number. -/
def toBinary64 : JsonNumber → Binary64
  | integer value => .ofInt value
  | real value => value

/-- A natural number written as an integer below a bound. -/
def toNatBelow? (bound : Nat) : JsonNumber → Option Nat
  | integer value => if 0 ≤ value ∧ value < bound then some value.toNat else none
  | real _ => none

end JsonNumber

/-- A JSON document. -/
inductive Json
  | null
  | bool (value : Bool)
  | number (value : JsonNumber)
  | text (value : String)
  | array (items : List Json)
  | object (members : List (String × Json))
deriving Inhabited

namespace Json

/-- The members of an object. -/
def members? : Json → Option (Entries Json)
  | object members => some members
  | _ => none

/-- The items of an array. -/
def items? : Json → Option (List Json)
  | array items => some items
  | _ => none

/-- The characters of a text. -/
def text? : Json → Option String
  | text value => some value
  | _ => none

/-- The number, as binary64. -/
def number? : Json → Option Binary64
  | number value => some value.toBinary64
  | _ => none

/-- A natural number. -/
def ofNat (n : Nat) : Json := number (.integer n)

end Json
end Campus
