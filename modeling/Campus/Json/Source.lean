import Campus.Json.Token
/-!
# JSON source

A source is the tree that JSON text spells, with its leaves as scanned. Turning it into a document
demands that every leaf has a value and that containers are not nested beyond a limit, and keeps the
last of equal keys. A reader for a fixed form demands this only of the parts it uses.
-/

namespace Campus.Json

/-- The tree of JSON text. -/
inductive Source
  | null
  | bool (value : Bool)
  | number (value : Option JsonNumber)
  | text (value : Option String)
  | array (items : List Source)
  | object (members : List (Option String × Source))
deriving Inhabited

namespace Source

mutual

/-- The value at the front of the tokens, and what follows it. -/
def value? : (fuel : Nat) → List Token → Option (Source × List Token)
  | 0, _ => none
  | fuel + 1, tokens =>
    match tokens with
    | .null :: rest => some (.null, rest)
    | .bool value :: rest => some (.bool value, rest)
    | .number value :: rest => some (.number value, rest)
    | .text value :: rest => some (.text value, rest)
    | .openArray :: .closeArray :: rest => some (.array [], rest)
    | .openArray :: rest => items? fuel [] rest
    | .openObject :: .closeObject :: rest => some (.object [], rest)
    | .openObject :: rest => members? fuel [] rest
    | _ => none

/-- The rest of an array from one of its items on; the items before it come latest first. -/
def items? : (fuel : Nat) → List Source → List Token → Option (Source × List Token)
  | 0, _, _ => none
  | fuel + 1, before, tokens =>
    match value? fuel tokens with
    | some (item, .comma :: rest) => items? fuel (item :: before) rest
    | some (item, .closeArray :: rest) => some (.array (item :: before).reverse, rest)
    | _ => none

/-- The rest of an object from one of its members on; the members before it come latest first. -/
def members? : (fuel : Nat) → List (Option String × Source) → List Token →
    Option (Source × List Token)
  | 0, _, _ => none
  | fuel + 1, before, tokens =>
    match tokens with
    | .text key :: .colon :: tokens =>
      match value? fuel tokens with
      | some (value, .comma :: rest) => members? fuel ((key, value) :: before) rest
      | some (value, .closeObject :: rest) => some (.object ((key, value) :: before).reverse, rest)
      | _ => none
    | _ => none

end

/-- The tree of a complete token sequence. -/
def ofTokens? (tokens : List Token) : Option Source :=
  match value? (2 * tokens.length + 1) tokens with
  | some (source, []) => some source
  | _ => none

/-- The tree of JSON text. -/
def parse? (bytes : List UInt8) : Option Source := (Token.scan bytes).bind ofTokens?

/-- How many containers may stand around the innermost value. -/
def nestingLimit : Nat := 127

mutual

/-- The document of a tree whose leaves all have values and whose containers nest at most `depth`
deep. -/
def toJson? (depth : Nat) : Source → Option Json
  | .null => some .null
  | .bool value => some (.bool value)
  | .number value => value.map .number
  | .text value => value.map .text
  | .array items =>
    match depth with
    | 0 => none
    | depth + 1 => (toItems? depth items).map .array
  | .object members =>
    match depth with
    | 0 => none
    | depth + 1 => (toMembers? depth members).map fun members => .object (Entries.sorted members)

/-- The documents of several trees. -/
def toItems? (depth : Nat) : List Source → Option (List Json)
  | [] => some []
  | item :: rest =>
    match toJson? depth item, toItems? depth rest with
    | some item, some rest => some (item :: rest)
    | _, _ => none

/-- The members of an object as written, each under a key with a value. -/
def toMembers? (depth : Nat) : List (Option String × Source) → Option (Entries Json)
  | [] => some []
  | (key, value) :: rest =>
    match key, toJson? depth value, toMembers? depth rest with
    | some key, some value, some rest => some ((key, value) :: rest)
    | _, _, _ => none

end

end Source

/-- The document that JSON text spells. -/
def parse? (bytes : List UInt8) : Option Json :=
  (Source.parse? bytes).bind (Source.toJson? Source.nestingLimit)

/-- The document that a text spells. -/
def ofText? (text : String) : Option Json := parse? text.toUTF8.data.toList

end Campus.Json
