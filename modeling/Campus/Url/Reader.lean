import Campus.Url.Basic
import Campus.Url.Host
/-!
# Reading addresses

Blanks and controls around an address and line breaks in it are passed over. In schemes with fixed
rules a backslash counts as a slash and a host has to be there, except for files.
-/

namespace Campus.Url

/-- The characters that count. -/
def significant (chars : List Char) : List Char :=
  let isOuter (c : Char) : Bool := c.toNat ≤ 0x20
  ((chars.dropWhile isOuter).reverse.dropWhile isOuter).reverse.filter fun c => !isIgnored c

/-- The scheme at the front, in small letters, and what follows its colon. -/
def scheme? (chars : List Char) : Option (String × List Char) :=
  let isInside (c : Char) : Bool := c.isAlphanum || c == '+' || c == '-' || c == '.'
  let name := chars.takeWhile isInside
  match chars.dropWhile isInside with
  | ':' :: rest =>
    if name.head?.any Char.isAlpha then some (String.ofList (name.map Char.toLower), rest) else none
  | _ => none

/-- Whether a character separates segments. -/
def isSlash (isSpecial : Bool) (c : Char) : Bool := c == '/' || (isSpecial && c == '\\')

/-- Whether a character ends the path. -/
def endsPath (c : Char) : Bool := c == '?' || c == '#'

/-- The user and the password before the last `@`. -/
def user (chars : List Char) : String × Option String :=
  let encode (chars : List Char) : String := String.ofList (Percent.encode .user chars)
  let name := chars.takeWhile (· != ':')
  match chars.dropWhile (· != ':') with
  | _ :: password => (encode name, if password.isEmpty then none else some (encode password))
  | [] => (encode name, none)

/-- The host and what follows it from a colon outside of brackets on. -/
def splitHost (isBracketed : Bool) : List Char → List Char × List Char
  | [] => ([], [])
  | c :: rest =>
    if c = ':' ∧ !isBracketed then ([], c :: rest)
    else
      let isBracketed := if c = '[' then true else if c = ']' then false else isBracketed
      let (host, port) := splitHost isBracketed rest
      (c :: host, port)

/-- The port of digits, unless it is the usual one. -/
def port? (scheme : String) (digits : List Char) : Option (Option Nat) :=
  if digits.isEmpty then some none
  else if !digits.all Char.isDigit then none
  else
    let n := Address.number 10 digits
    if 0xFFFF < n then none else some (if standardPort? scheme = some n then none else some n)

/-- What is before and after the last `@`, if there is one. -/
def splitUser (chars : List Char) : Option (List Char × List Char) :=
  if chars.contains '@' then
    let tail := (chars.reverse.takeWhile (· != '@')).reverse
    some (chars.take (chars.length - tail.length - 1), tail)
  else none

/-- The part between the two slashes and the path. -/
def authority? (scheme : String) (chars : List Char) : Option Authority := do
  let isSpecial := isSpecialScheme scheme
  let (name, place) := (splitUser chars).getD ([], chars)
  let (user, password) := user name
  let (host, port) := splitHost false place
  if host.isEmpty ∧ (isSpecial ∨ !port.isEmpty ∨ !user.isEmpty ∨ password.isSome) then none
  let host ← if isSpecial then Host.special? host else Host.general? host
  let port ← port? scheme port.tail
  return ⟨user, password, String.ofList host, port⟩

/-- The segments of a path after its first slash. -/
def segmentsOf (scheme : String) (chars : List Char) : List String :=
  let isSpecial := isSpecialScheme scheme
  let raw := (chars.map fun c => if isSlash isSpecial c then '/' else c).splitOn '/'
  followAll scheme [] (raw.map fun segment => String.ofList (Percent.encode .path segment))

/-- The host of a file, which may be absent, with what follows it. -/
def fileHost? (chars : List Char) : Option (String × List Char) :=
  let isInside (c : Char) : Bool := !isSlash true c && !endsPath c
  let host := chars.takeWhile isInside
  if host.isEmpty || isDrive (String.ofList host) then some ("", chars)
  else (Host.special? host).map fun found =>
    let name := String.ofList found
    (if name == "localhost" then "" else name, chars.dropWhile isInside)

/-- The host and the path of a file. Empty segments at the front do not count. -/
def filePlace? (chars : List Char) : Option (Authority × UrlPath) := do
  let (host, rest) ← match chars with
    | a :: b :: rest =>
      if isSlash true a && isSlash true b then fileHost? rest else some ("", chars)
    | chars => some ("", chars)
  let rest := match rest with
    | c :: following => if isSlash true c then following else c :: following
    | [] => []
  let kept := (segmentsOf "file" rest).dropWhile String.isEmpty
  return (⟨"", none, host, none⟩, .segments (if kept.isEmpty then [""] else kept))

/-- The authority and the path of an address. -/
def place? (scheme : String) (chars : List Char) : Option (Option Authority × UrlPath) := do
  let isSpecial := isSpecialScheme scheme
  let isInside (c : Char) : Bool := !isSlash isSpecial c
  if scheme = "file" then
    let (authority, path) ← filePlace? chars
    return (some authority, path)
  else if isSpecial then
    let rest := chars.dropWhile (isSlash true)
    let authority ← authority? scheme (rest.takeWhile isInside)
    return (some authority, .segments (segmentsOf scheme (rest.dropWhile isInside).tail))
  else match chars with
    | '/' :: '/' :: rest =>
      let authority ← authority? scheme (rest.takeWhile isInside)
      let path := match rest.dropWhile isInside with
        | [] => []
        | _ :: following => segmentsOf scheme following
      return (some authority, .segments path)
    | '/' :: rest => return (none, .segments (segmentsOf scheme rest))
    | rest => return (none, .rootless (String.ofList (Percent.encode .host rest)))

/-- The address that a text spells. -/
def parse? (text : String) : Option Url := do
  let (scheme, rest) ← scheme? (significant text.toList)
  let before := rest.takeWhile (· != '#')
  let fragment := match rest.dropWhile (· != '#') with
    | _ :: fragment => some (String.ofList (Percent.encode .fragment fragment))
    | [] => none
  let place := before.takeWhile (· != '?')
  let querySet : Percent.Place := if isSpecialScheme scheme then .specialQuery else .query
  let query := match before.dropWhile (· != '?') with
    | _ :: query => some (String.ofList (Percent.encode querySet query))
    | [] => none
  let (authority, path) ← place? scheme place
  return ⟨scheme, authority, path, query, fragment⟩

end Campus.Url
