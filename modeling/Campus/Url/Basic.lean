import Campus.Url.Percent
/-!
# Addresses

An address names a scheme, mostly a host, a path of segments, and possibly a query and a fragment.
An address like that of a mailbox has a path that is no list of segments and cannot be extended.
-/

namespace Campus

/-- Who and where. -/
structure Authority where
  user : String
  /-- The password, if it is not empty. -/
  password : Option String
  host : String
  /-- The port, if it is not the usual one. -/
  port : Option Nat
deriving DecidableEq

/-- The path of an address. -/
inductive UrlPath
  /-- Segments, each after a slash. -/
  | segments (segments : List String)
  /-- A text that does not start with a slash. -/
  | rootless (text : String)
deriving DecidableEq

/-- An address. -/
structure Url where
  scheme : String
  authority : Option Authority
  path : UrlPath
  query : Option String
  fragment : Option String
deriving DecidableEq

namespace Url

/-- The schemes with fixed rules and a port of their own. -/
def standardPorts : List (String × Nat) :=
  [("http", 80), ("https", 443), ("ws", 80), ("wss", 443), ("ftp", 21)]

/-- The usual port of a scheme. -/
def standardPort? (scheme : String) : Option Nat :=
  (standardPorts.find? fun entry => entry.1 == scheme).map Prod.snd

/-- Whether a scheme has fixed rules. -/
def isSpecialScheme (scheme : String) : Bool := scheme == "file" || (standardPort? scheme).isSome

/-- Whether nothing can be appended to the path. -/
def isRootless (url : Url) : Bool :=
  match url.path with
  | .rootless _ => true
  | .segments _ => false

/-- The path as it is written. -/
def pathText (path : UrlPath) : String :=
  match path with
  | .rootless text => text
  | .segments segments => String.join (segments.map ("/" ++ ·))

/-- The part before the path as it is written. -/
def authorityText (authority : Authority) : String :=
  let password := authority.password.elim "" (":" ++ ·)
  let mark := if authority.user.isEmpty && authority.password.isNone then "" else "@"
  let port := authority.port.elim "" fun port => ":" ++ toString port
  "//" ++ authority.user ++ password ++ mark ++ authority.host ++ port

/-- The address as it is written. -/
def text (url : Url) : String :=
  url.scheme ++ ":" ++ url.authority.elim "" authorityText ++ pathText url.path ++
    url.query.elim "" ("?" ++ ·) ++ url.fragment.elim "" ("#" ++ ·)

/-! ## Path segments -/

/-- Whether a segment stands for the folder it is in. -/
def isSingleDot (segment : String) : Bool := [".", "%2e", "%2E"].contains segment

/-- Whether a segment stands for the folder above. -/
def isDoubleDot (segment : String) : Bool :=
  ["..", "%2e%2e", "%2e%2E", "%2E%2e", "%2E%2E", "%2e.", "%2E.", ".%2e", ".%2E"].contains segment

/-- Whether a segment is the letter of a drive. -/
def isDrive (segment : String) : Bool :=
  match segment.toList with
  | [letter, mark] => letter.isAlpha && (mark == ':' || mark == '|')
  | _ => false

/-- The path without its last segment; the drive of a file stays. -/
def shorten (scheme : String) (segments : List String) : List String :=
  match segments with
  | [only] => if scheme == "file" && isDrive only then [only] else []
  | segments => segments.dropLast

/-- Follow a segment, which may be the last one. -/
def follow (scheme : String) (segments : List String) (segment : String) (isLast : Bool) :
    List String :=
  if isDoubleDot segment then
    let shorter := shorten scheme segments
    if isLast then shorter ++ [""] else shorter
  else if isSingleDot segment then if isLast then segments ++ [""] else segments
  else if scheme == "file" && segments.isEmpty && isDrive segment then
    [String.ofList (segment.toList.take 1 ++ [':'])]
  else segments ++ [segment]

/-- Follow several segments. -/
def followAll (scheme : String) (segments : List String) : List String → List String
  | [] => segments
  | [last] => follow scheme segments last true
  | segment :: rest => followAll scheme (follow scheme segments segment false) rest

/-- Characters that are passed over wherever they stand. -/
def isIgnored (c : Char) : Bool := c == '\t' || c == '\n' || c == '\r'

/-- Append a text as one more segment in place of an empty last one. A dot or two dots append
nothing. -/
def append (url : Url) (segment : String) : Option Url :=
  match url.path with
  | .rootless _ => none
  | .segments segments =>
    let base := if 1 < segments.length ∧ segments.getLast? = some "" then segments.dropLast
      else segments
    if segment = "." ∨ segment = ".." then some { url with path := .segments base }
    else
      let place : Percent.Place := if isSpecialScheme url.scheme then .specialSegment else .segment
      let written :=
        String.ofList (Percent.encode place (segment.toList.filter fun c => !isIgnored c))
      let start := if base = [""] then [] else base
      some { url with path := .segments (follow url.scheme start written true) }

end Url
end Campus
