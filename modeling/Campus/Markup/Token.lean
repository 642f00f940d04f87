import Campus.Markup.Reference
/-!
# Markup tokens

Markup is text with tags, comments and a document type. What counts as a tag depends on the element
the text stands in: in titles and text areas only the end tag of the element and references count,
in scripts and styles only the end tag, and after some elements nothing at all. The reader of tokens
is told the mode and returns the next tokens with the text after them. Nothing is refused: broken
markup is read as text, as a comment or not at all.
-/

namespace Campus.Markup

/-- Attributes with their values, no name twice. -/
abbrev Attributes := List (String × String)

/-- A start tag. -/
structure Tag where
  name : String
  attributes : Attributes
  isSelfClosing : Bool
deriving DecidableEq

/-- A token of markup. -/
inductive Token
  | text (chars : List Char)
  | startTag (tag : Tag)
  | endTag (name : String)
  | comment
  /-- A document type, and whether it asks for standard layout rules. -/
  | documentType (isStandard : Bool)
deriving DecidableEq

/-- How text is read. -/
inductive TextMode
  /-- Tags, comments and references. -/
  | markup
  /-- References, until the end of an element. -/
  | references (element : String)
  /-- Nothing but the end of an element. -/
  | raw (element : String)
  /-- A script, in which comments can hold scripts. -/
  | script
  /-- Nothing at all. -/
  | plain
deriving DecidableEq

namespace Token

/-- Blanks between the parts of a tag. -/
def isBlank (c : Char) : Bool := c == ' ' || c == '\t' || c == '\n' || c == '\x0c'

/-- The null character is replaced where it has no meaning. -/
def visible (c : Char) : Char := if c = '\x00' then '\ufffd' else c

/-- A name in lower case. -/
def nameOf (chars : List Char) : String := String.ofList (chars.map fun c => (visible c).toLower)

/-- What follows the next character of a kind. -/
def after (mark : Char) (chars : List Char) : List Char := (chars.dropWhile (· != mark)).tail

/-! ## Tags -/

/-- The value of an attribute. -/
def valueOf (chars : List Char) : String :=
  String.ofList (Reference.resolve true (chars.map visible))

/-- The value after an equals sign and what follows it. Unquoted values end at a blank or at the end
of the tag. -/
def value? (chars : List Char) : Option (String × List Char) :=
  match chars.dropWhile isBlank with
  | [] => none
  | '>' :: rest => some ("", '>' :: rest)
  | c :: rest =>
    if c = '"' ∨ c = '\'' then
      match rest.dropWhile (· != c) with
      | [] => none
      | _ :: following => some (valueOf (rest.takeWhile (· != c)), following)
    else
      let isInside (d : Char) : Bool := !isBlank d && d != '>'
      some (valueOf ((c :: rest).takeWhile isInside), (c :: rest).dropWhile isInside)

/-- Note an attribute unless its name is there already. -/
def note (found : Attributes) (name value : String) : Attributes :=
  if found.any fun entry => entry.1 == name then found else found ++ [(name, value)]

/-- The rest of a tag after its name: the attributes, whether it closes itself, and what follows;
nothing if the text ends inside the tag. Each step takes at least one character. -/
def tagRest? : (fuel : Nat) → Attributes → List Char → Option (Attributes × Bool × List Char)
  | 0, _, _ => none
  | fuel + 1, found, chars =>
    match chars.dropWhile isBlank with
    | [] => none
    | '>' :: rest => some (found, false, rest)
    | '/' :: '>' :: rest => some (found, true, rest)
    | '/' :: rest => tagRest? fuel found rest
    | c :: rest =>
      let isInside (d : Char) : Bool := !isBlank d && d != '/' && d != '>' && d != '='
      let name := nameOf (c :: rest.takeWhile isInside)
      match (rest.dropWhile isInside).dropWhile isBlank with
      | '=' :: rest =>
        match value? rest with
        | some (value, rest) => tagRest? fuel (note found name value) rest
        | none => none
      | rest => tagRest? fuel (note found name "") rest

/-- A tag from its name on, and what follows. -/
def tag? (chars : List Char) : Option (Tag × List Char) :=
  let isInside (d : Char) : Bool := !isBlank d && d != '/' && d != '>'
  let name := nameOf (chars.takeWhile isInside)
  match tagRest? (chars.length + 1) [] (chars.dropWhile isInside) with
  | some (attributes, closes, rest) => some (⟨name, attributes, closes⟩, rest)
  | none => none

/-- An end tag from its name on, and what follows. -/
def endTag? (chars : List Char) : List Token × List Char :=
  match tag? chars with
  | some (tag, rest) => ([endTag tag.name], rest)
  | none => ([], [])

/-! ## Comments and document types -/

/-- How far the end of a comment has been reached. -/
inductive CommentPlace
  | opening
  | openingDash
  | inside
  | dash
  | dashes
  | mark

/-- What follows a comment. -/
def afterComment : CommentPlace → List Char → List Char
  | _, [] => []
  | place, c :: rest =>
    match place, c with
    | .opening, '-' => afterComment .openingDash rest
    | .opening, '>' => rest
    | .openingDash, '-' => afterComment .dashes rest
    | .openingDash, '>' => rest
    | .inside, '-' => afterComment .dash rest
    | .dash, '-' => afterComment .dashes rest
    | .dashes, '>' => rest
    | .dashes, '-' => afterComment .dashes rest
    | .dashes, '!' => afterComment .mark rest
    | .mark, '-' => afterComment .dash rest
    | .mark, '>' => rest
    | _, _ => afterComment .inside rest

/-- Whether a word in small letters stands at the front, in either case. -/
def startsWith (word : List Char) (chars : List Char) : Bool :=
  (chars.take word.length).map Char.toLower == word

/-- A quoted part of a document type: what follows it, or what follows a `>` that cuts it off. -/
def afterQuoted (mark : Char) : List Char → Bool × List Char
  | [] => (false, [])
  | c :: rest =>
    if c = mark then (true, rest)
    else if c = '>' then (false, '>' :: rest)
    else afterQuoted mark rest

/-- The end of a document type, and whether it is in order. -/
def closeType (isStandard : Bool) (chars : List Char) : Bool × List Char :=
  match chars.dropWhile isBlank with
  | [] => (false, [])
  | '>' :: rest => (isStandard, rest)
  | rest => (isStandard, after '>' rest)

/-- A document type from the system part on. It may be absent after a public part. -/
def systemPart (isOptional : Bool) (chars : List Char) : Bool × List Char :=
  match chars.dropWhile isBlank with
  | [] => (false, [])
  | '>' :: rest => (isOptional, rest)
  | c :: rest =>
    if c = '"' ∨ c = '\'' then
      let (closed, rest) := afterQuoted c rest
      closeType closed rest
    else (false, after '>' rest)

/-- A document type from its public part on. -/
def publicPart (chars : List Char) : Bool × List Char :=
  match chars.dropWhile isBlank with
  | [] => (false, [])
  | '>' :: rest => (false, rest)
  | c :: rest =>
    if c = '"' ∨ c = '\'' then
      let (closed, rest) := afterQuoted c rest
      if closed then systemPart true rest else (false, after '>' rest)
    else (false, after '>' rest)

/-- A document type after its keyword. Standard layout takes the name `html` and proper parts. -/
def typeRest (chars : List Char) : Bool × List Char :=
  let chars := chars.dropWhile isBlank
  let isInside (d : Char) : Bool := !isBlank d && d != '>'
  let isNamed := nameOf (chars.takeWhile isInside) == "html"
  let rest := (chars.dropWhile isInside).dropWhile isBlank
  let (isProper, rest) :=
    match rest with
    | [] => (false, [])
    | '>' :: rest => (true, rest)
    | rest =>
      if startsWith ['p', 'u', 'b', 'l', 'i', 'c'] rest then publicPart (rest.drop 6)
      else if startsWith ['s', 'y', 's', 't', 'e', 'm'] rest then systemPart false (rest.drop 6)
      else (false, after '>' rest)
  (isNamed && isProper, rest)

/-! ## Text of elements that hold no tags -/

/-- Whether the end tag of an element stands after a `<`. -/
def endsElement (element : List Char) (chars : List Char) : Bool :=
  match chars with
  | '/' :: rest =>
    startsWith element rest &&
      match rest.drop element.length with
      | c :: _ => isBlank c || c == '/' || c == '>'
      | [] => false
  | _ => false

/-- The text up to the end tag of an element, onto the text so far, and the end tag with what
follows. -/
def untilEnd (element : List Char) (found : List Char) : List Char → List Char × List Char
  | [] => (found.reverse, [])
  | c :: rest =>
    if c = '<' ∧ endsElement element rest then (found.reverse, c :: rest)
    else untilEnd element (c :: found) rest

/-- Where in a script a reader is: outside of comments, in a comment, or in a script in a comment.
-/
inductive ScriptPlace
  | outside
  | comment
  | nested

/-- Whether a place is in a comment. -/
def ScriptPlace.isInside : ScriptPlace → Bool
  | .outside => false
  | _ => true

/-- The name of the element. -/
def scriptName : List Char := ['s', 'c', 'r', 'i', 'p', 't']

/-- Whether the letters at the front are the name of the element and its tag goes on or ends. -/
def namesScript (chars : List Char) : Bool :=
  startsWith scriptName chars &&
    match chars.drop scriptName.length with
    | c :: _ => isBlank c || c == '/' || c == '>'
    | [] => false

/-- The text of a script up to its end tag. `dashes` counts the dashes just before, two at most. -/
def untilScriptEnd (place : ScriptPlace) (dashes : Nat) (found : List Char) :
    List Char → List Char × List Char
  | [] => (found.reverse, [])
  | c :: rest =>
    if c = '-' then
      -- Two dashes right after a comment mark opens one; elsewhere they may close it.
      let opens := match place, found with
        | .outside, '-' :: '!' :: '<' :: _ => true
        | _, _ => false
      if opens then untilScriptEnd .comment 2 (c :: found) rest
      else untilScriptEnd place (min 2 (dashes + 1)) (c :: found) rest
    else if c = '>' ∧ dashes = 2 ∧ place.isInside then untilScriptEnd .outside 0 (c :: found) rest
    else if c = '<' then
      match place with
      | .nested =>
        let closes := match rest with
          | '/' :: following => namesScript following
          | _ => false
        untilScriptEnd (if closes then .comment else .nested) 0 (c :: found) rest
      | .comment =>
        if endsElement scriptName rest then (found.reverse, c :: rest)
        else untilScriptEnd (if namesScript rest then .nested else .comment) 0 (c :: found) rest
      | .outside =>
        if endsElement scriptName rest then (found.reverse, c :: rest)
        else untilScriptEnd .outside 0 (c :: found) rest
    else untilScriptEnd place 0 (c :: found) rest

/-- The text up to the end of a section of character data, onto the text so far. -/
def untilSectionEnd (found : List Char) : List Char → List Char × List Char
  | [] => (found.reverse, [])
  | ']' :: ']' :: '>' :: rest => (found.reverse, rest)
  | c :: rest => untilSectionEnd (c :: found) rest

/-! ## The next tokens -/

/-- A text token, unless there is no text. -/
def ofText (chars : List Char) : List Token := if chars.isEmpty then [] else [text chars]

/-- Text with a following end tag, if there is one. -/
def textWithEnd (chars : List Char) (rest : List Char) : List Token × List Char :=
  match rest with
  | '<' :: '/' :: rest =>
    let (closing, rest) := endTag? rest
    (ofText chars ++ closing, rest)
  | rest => (ofText chars, rest)

/-- What a `<` opens, given the characters after it. -/
def opened (allowsSections : Bool) (chars : List Char) : List Token × List Char :=
  match chars with
  | '!' :: '-' :: '-' :: rest => ([comment], afterComment .opening rest)
  | '!' :: rest =>
    if startsWith ['d', 'o', 'c', 't', 'y', 'p', 'e'] rest then
      let (isStandard, rest) := typeRest (rest.drop 7)
      ([documentType isStandard], rest)
    else if allowsSections ∧ ['[', 'C', 'D', 'A', 'T', 'A', '['].isPrefixOf rest then
      let (chars, rest) := untilSectionEnd [] (rest.drop 7)
      (ofText chars, rest)
    else ([comment], after '>' rest)
  | '?' :: rest => ([comment], after '>' rest)
  | ['/'] => ([text ['<', '/']], [])
  | '/' :: '>' :: rest => ([], rest)
  | '/' :: c :: rest =>
    if c.isAlpha then endTag? (c :: rest) else ([comment], after '>' (c :: rest))
  | c :: rest =>
    if c.isAlpha then
      match tag? (c :: rest) with
      | some (tag, rest) => ([startTag tag], rest)
      | none => ([], [])
    else ([text ['<']], c :: rest)
  | [] => ([text ['<']], [])

/-- The next tokens and the text after them. Sections of character data count only in drawings and
formulas. -/
def next (mode : TextMode) (allowsSections : Bool) (chars : List Char) : List Token × List Char :=
  match mode with
  | .plain => (ofText (chars.map visible), [])
  | .raw element =>
    let (run, rest) := untilEnd element.toList [] chars
    textWithEnd (run.map visible) rest
  | .references element =>
    let (run, rest) := untilEnd element.toList [] chars
    textWithEnd (Reference.resolve false (run.map visible)) rest
  | .script =>
    let (run, rest) := untilScriptEnd .outside 0 [] chars
    textWithEnd (run.map visible) rest
  | .markup =>
    match chars with
    | '<' :: rest => opened allowsSections rest
    | chars =>
      (ofText (Reference.resolve false (chars.takeWhile (· != '<'))), chars.dropWhile (· != '<'))

/-- Line ends are line feeds, and a mark of byte order at the front is dropped. -/
def normalize (chars : List Char) : List Char :=
  lineFeeds [] (match chars with
    | '\ufeff' :: rest => rest
    | chars => chars)
where
  /-- Line feeds for the other line ends, onto the text so far. -/
  lineFeeds (found : List Char) : List Char → List Char
    | [] => found.reverse
    | '\r' :: '\n' :: rest => lineFeeds ('\n' :: found) rest
    | '\r' :: rest => lineFeeds ('\n' :: found) rest
    | c :: rest => lineFeeds (c :: found) rest

end Token
end Campus.Markup
