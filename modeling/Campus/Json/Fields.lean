import Campus.Json.Source
/-!
# Fixed forms in JSON

A fixed form lists its fields in order. It is written as an object, where unknown members are passed
over and a field may not be repeated, or as an array that gives the fields by position. Each field
is then required, optional or has a default. Optional fields may be left out of an object or be
null, but an array has to reach them; fields with a default may be missing in either.
-/

namespace Campus.Json

/-- The fields found in a written form. -/
structure Fields (α : Type) where
  /-- Whether the form was written as an array. -/
  isPositional : Bool
  /-- What stands under the declared names. -/
  entries : Entries α

namespace Fields

variable {α β : Type}

/-- The declared fields of an object with readable keys, none of them twice. -/
def ofMembers? (declared : List String) (members : List (Option String × α)) : Option (Fields α) :=
  match members.mapM fun member => member.1.map fun key => (key, member.2) with
  | none => none
  | some members =>
    let known := members.filter fun member => declared.contains member.1
    if (known.map Prod.fst).Nodup then some ⟨false, known⟩ else none

/-- The fields of an array that is not longer than the declaration. -/
def ofItems? (declared : List String) (items : List α) : Option (Fields α) :=
  if items.length ≤ declared.length then some ⟨true, declared.zip items⟩ else none

/-- A field that has to be there. -/
def required (fields : Fields α) (name : String) (read : α → Option β) : Option β :=
  (fields.entries.get? name).bind read

/-- A field that takes a default when it is not there. -/
def withDefault (fields : Fields α) (name : String) (default : β) (read : α → Option β) :
    Option β :=
  match fields.entries.get? name with
  | some value => read value
  | none => some default

/-- A field that may be left out of an object or be null. -/
def optional (fields : Fields α) (name : String) (isNull : α → Bool) (read : α → Option β) :
    Option (Option β) :=
  match fields.entries.get? name with
  | some value => if isNull value then some none else (read value).map some
  | none => if fields.isPositional then none else some none

end Fields

namespace Source

/-- The fields of a source in a fixed form. -/
def fields? (declared : List String) : Source → Option (Fields Source)
  | .object members => Fields.ofMembers? declared members
  | .array items => Fields.ofItems? declared items
  | _ => none

/-- A null. -/
def isNull : Source → Bool
  | .null => true
  | _ => false

/-- The characters of a text. -/
def text? : Source → Option String
  | .text value => value
  | _ => none

/-- A number, as binary64. -/
def number? : Source → Option Binary64
  | .number value => value.map JsonNumber.toBinary64
  | _ => none

/-- A natural number below a bound. -/
def natBelow? (bound : Nat) : Source → Option Nat
  | .number value => value.bind (JsonNumber.toNatBelow? bound)
  | _ => none

/-- The items of an array. -/
def items : Source → Option (List Source)
  | .array items => some items
  | _ => none

end Source

/-- The fields of a document in a fixed form. -/
def fields? (declared : List String) : Json → Option (Fields Json)
  | .object members =>
    Fields.ofMembers? declared (members.map fun member => (some member.1, member.2))
  | .array items => Fields.ofItems? declared items
  | _ => none

/-- A null. -/
def isNull : Json → Bool
  | .null => true
  | _ => false

end Campus.Json
