import Campus.Markup.Document
import Campus.Markup.Token
/-!
# The state of tree construction

While a document is built, a stack holds the elements that are still open and a list holds the
formatting that is in force. New content goes into the innermost open element, except that content
out of place in a table goes before the table. This module has the state and the steps that the
rules of construction are made of.
-/

namespace Campus.Markup

/-- Where in a document the reader is. -/
inductive Mode
  | start
  | beforeRoot
  | beforeHead
  | inHead
  | afterHead
  | inBody
  | inText
  | inTable
  | inTableText
  | inCaption
  | inColumnGroup
  | inTableBody
  | inRow
  | inCell
  | inSelect
  | inSelectInTable
  | inTemplate
  | afterBody
  | inFrameset
  | afterFrameset
  | afterDocument
  | afterFramesetDocument
deriving DecidableEq

/-- Formatting in force: an element with the tag that started it, or the edge of a part that
formatting does not cross. -/
inductive Formatting
  | edge
  | element (id : NodeId) (tag : Tag)

/-- Whether an entry is that of an element. -/
def Formatting.isFor (id : NodeId) : Formatting → Bool
  | .edge => false
  | .element other _ => other == id

/-- The state of tree construction. -/
structure Builder where
  draft : Draft
  mode : Mode
  /-- The mode to go back to after text. -/
  returnMode : Mode
  /-- The modes of the open templates, innermost first. -/
  templateModes : List Mode
  /-- The open elements, innermost first. -/
  opened : List NodeId
  /-- The formatting in force, latest first. -/
  formatting : List Formatting
  head : Option NodeId
  form : Option NodeId
  /-- Whether the document asks for standard layout rules. -/
  isStandard : Bool
  /-- Whether a set of frames may still take the place of the body. -/
  allowsFrames : Bool
  /-- Whether content out of place in a table goes before it. -/
  isFostering : Bool
  /-- Text in a table whose place is not known yet. -/
  pendingText : List Char
  /-- Whether a line feed that comes next is dropped. -/
  skipsLineFeed : Bool
  /-- How the text that comes next is read. -/
  textMode : TextMode

namespace Builder

/-- The state before a document. -/
def initial : Builder where
  draft := .empty
  mode := .start
  returnMode := .start
  templateModes := []
  opened := []
  formatting := []
  head := none
  form := none
  isStandard := true
  allowsFrames := true
  isFostering := false
  pendingText := []
  skipsLineFeed := false
  textMode := .markup

/-! ## Names and scopes -/

/-- The name of a node; nodes without one count as unnamed elements of a page. -/
def nameOf (b : Builder) (id : NodeId) : ElementName := (b.draft.name? id).getD ⟨.page, ""⟩

/-- Whether an element of a page has one of some tags. -/
def isOne (b : Builder) (tags : List String) (id : NodeId) : Bool :=
  let name := b.nameOf id
  name.vocabulary == .page && tags.contains name.tag

/-- Whether the innermost open element is an element of a page with one of some tags. -/
def currentIsOne (b : Builder) (tags : List String) : Bool :=
  match b.opened with
  | id :: _ => b.isOne tags id
  | [] => false

/-- Whether an element of a page with a tag is open. -/
def hasOpen (b : Builder) (tag : String) : Bool := b.opened.any (b.isOne [tag])

/-- Elements of formulas that hold text of a page. -/
def holdsFormulaText (name : ElementName) : Bool :=
  name.vocabulary == .formula && ["mi", "mo", "mn", "ms", "mtext"].contains name.tag

/-- Elements of drawings that hold content of a page. -/
def holdsPageContent (name : ElementName) : Bool :=
  name.vocabulary == .drawing && ["foreignObject", "desc", "title"].contains name.tag

/-- What an end tag does not look beyond. -/
inductive Scope
  | general
  | list
  | button
  | table
  | select

/-- The elements at which a scope ends. -/
def Scope.endsAt (scope : Scope) (name : ElementName) : Bool :=
  let isPage (tags : List String) : Bool := name.vocabulary == .page && tags.contains name.tag
  let general := holdsFormulaText name || holdsPageContent name ||
    isPage ["applet", "caption", "html", "table", "td", "th", "marquee", "object", "template"]
  match scope with
  | .general => general
  | .list => general || isPage ["ol", "ul"]
  | .button => general || isPage ["button"]
  | .table => isPage ["html", "table", "template"]
  | .select => !isPage ["optgroup", "option"]

/-- Whether an open element that satisfies a condition is reached before the scope ends. -/
def reaches (b : Builder) (scope : Scope) (condition : NodeId → Bool) : Bool :=
  go b.opened
where
  /-- The search from the innermost element outwards. -/
  go : List NodeId → Bool
    | [] => false
    | id :: rest => condition id || (!scope.endsAt (b.nameOf id) && go rest)

/-- Whether an open element with one of some tags is reached before the scope ends. -/
def reachesOne (b : Builder) (scope : Scope) (tags : List String) : Bool :=
  b.reaches scope (b.isOne tags)

/-- Elements that end the search of an end tag for a plain element, and that formatting cannot
simply be split around. -/
def specialTags : List String :=
  ["address", "applet", "area", "article", "aside", "base", "basefont", "bgsound", "blockquote",
    "body", "br", "button", "caption", "center", "col", "colgroup", "dd", "details", "dir", "div", "dl",
    "dt", "embed", "fieldset", "figcaption", "figure", "footer", "form", "frame", "frameset", "h1",
    "h2", "h3", "h4", "h5", "h6", "head", "header", "hgroup", "hr", "html", "iframe", "img", "input",
    "isindex", "li", "link", "listing", "main", "marquee", "menu", "meta", "nav", "noembed",
    "noframes", "noscript", "object", "ol", "p", "param", "plaintext", "pre", "script", "section",
    "select", "source", "style", "summary", "table", "tbody", "td", "template", "textarea", "tfoot",
    "th", "thead", "title", "tr", "track", "ul", "wbr", "xmp"]

/-- Elements whose end may be left out in text. -/
def impliedEnds : List String :=
  ["dd", "dt", "li", "option", "optgroup", "p", "rb", "rp", "rt", "rtc"]

/-- Elements whose end may be left out at the end of a template. -/
def allImpliedEnds : List String :=
  impliedEnds ++ ["caption", "colgroup", "tbody", "td", "tfoot", "th", "thead", "tr"]

/-! ## The open elements -/

/-- Close the innermost element. -/
def pop (b : Builder) : Builder := { b with opened := b.opened.tail }

/-- Open an element that is there already. -/
def push (b : Builder) (id : NodeId) : Builder := { b with opened := id :: b.opened }

/-- Strike an element from the open ones. -/
def strike (b : Builder) (id : NodeId) : Builder := { b with opened := b.opened.filter (· != id) }

/-- Close elements up to and with the first one that has one of some tags. -/
def closeThrough (b : Builder) (tags : List String) : Builder :=
  { b with opened := (b.opened.dropWhile fun id => !b.isOne tags id).tail }

/-- Close elements until the innermost one has one of some tags. -/
def closeUntil (b : Builder) (tags : List String) : Builder :=
  { b with opened := b.opened.dropWhile fun id => !b.isOne tags id }

/-- Close elements whose end may be left out. -/
def closeImplied (b : Builder) (tags : List String) : Builder :=
  { b with opened := b.opened.dropWhile (b.isOne tags) }

/-- Close elements whose end may be left out in text, except one kind. -/
def closeImpliedExcept (b : Builder) (tag : String) : Builder :=
  b.closeImplied (impliedEnds.filter (· != tag))

/-- Close a paragraph with what is in it. -/
def closeParagraph (b : Builder) : Builder := (b.closeImpliedExcept "p").closeThrough ["p"]

/-- Close a paragraph if one is open here. -/
def closeOpenParagraph (b : Builder) : Builder :=
  if b.reachesOne .button ["p"] then b.closeParagraph else b

/-! ## New content -/

/-- Where new content goes. -/
inductive Place
  | lastIn (parent : NodeId)
  | before (parent sibling : NodeId)

/-- The place before the innermost table, or in a template inside of it. -/
def fosterPlace (b : Builder) : List NodeId → Place
  | [] => .lastIn (b.opened.getLastD Draft.rootId)
  | id :: rest =>
    if b.isOne ["template"] id then .lastIn id
    else if b.isOne ["table"] id then
      match (b.draft.node? id).bind DraftNode.parent with
      | some parent => .before parent id
      | none => .lastIn (rest.headD Draft.rootId)
    else fosterPlace b rest

/-- The place for new content of an element. -/
def placeIn (b : Builder) (target : NodeId) : Place :=
  if b.isFostering && b.isOne ["table", "tbody", "tfoot", "thead", "tr"] target then
    b.fosterPlace b.opened
  else .lastIn target

/-- The innermost open element, or the document. -/
def current (b : Builder) : NodeId := b.opened.headD Draft.rootId

/-- Put a node into a place. -/
def putNode (b : Builder) (place : Place) (id : NodeId) : Builder :=
  match place with
  | .lastIn parent => { b with draft := b.draft.append parent id }
  | .before parent sibling => { b with draft := b.draft.insertBefore parent sibling id }

/-- Add text. -/
def addText (b : Builder) (chars : List Char) : Builder :=
  let value := String.ofList chars
  match b.placeIn b.current with
  | .lastIn parent => { b with draft := b.draft.appendText parent value }
  | .before parent sibling => { b with draft := b.draft.insertTextBefore parent sibling value }

/-- Add a comment. -/
def addComment (b : Builder) : Builder :=
  let (draft, id) := b.draft.create .comment
  { b with draft }.putNode (b.placeIn b.current) id

/-- A new element without a place. -/
def createElement (b : Builder) (name : ElementName) (attributes : Attributes) : Builder × NodeId :=
  let (draft, id) := b.draft.create (.element name attributes)
  ({ b with draft }, id)

/-- Add an element of any vocabulary and leave it closed. -/
def addClosedIn (b : Builder) (vocabulary : Vocabulary) (tag : Tag) : Builder :=
  let (b, id) := b.createElement ⟨vocabulary, tag.name⟩ tag.attributes
  b.putNode (b.placeIn b.current) id

/-- Add an element of any vocabulary and open it. -/
def addOpenIn (b : Builder) (vocabulary : Vocabulary) (tag : Tag) : Builder :=
  let (b, id) := b.createElement ⟨vocabulary, tag.name⟩ tag.attributes
  (b.putNode (b.placeIn b.current) id).push id

/-- Add an element and leave it closed. -/
def addClosed (b : Builder) (tag : Tag) : Builder := b.addClosedIn .page tag

/-- Add an element and open it. -/
def add (b : Builder) (tag : Tag) : Builder := b.addOpenIn .page tag

/-- Add an element that has no tag in the text and open it. -/
def addImplied (b : Builder) (name : String) : Builder := b.add ⟨name, [], false⟩

/-- Add an element whose text is read in a special way. -/
def addWithText (b : Builder) (tag : Tag) (textMode : TextMode) : Builder :=
  { b.add tag with returnMode := b.mode, mode := .inText, textMode }

/-! ## Formatting -/

/-- The formatting since the last edge, latest first. -/
def recentFormatting (b : Builder) : List (NodeId × Tag) :=
  go b.formatting
where
  /-- The entries up to an edge. -/
  go : List Formatting → List (NodeId × Tag)
    | .element id tag :: rest => (id, tag) :: go rest
    | _ => []

/-- Whether an element is in force as formatting. -/
def isFormatting (b : Builder) (id : NodeId) : Bool := b.formatting.any (Formatting.isFor id)

/-- Strike an element from the formatting. -/
def unformat (b : Builder) (id : NodeId) : Builder :=
  { b with formatting := b.formatting.filter fun entry => !entry.isFor id }

/-- Formatting starts anew. -/
def addEdge (b : Builder) : Builder := { b with formatting := .edge :: b.formatting }

/-- Forget the formatting since the last edge, and the edge. -/
def clearToEdge (b : Builder) : Builder := { b with formatting := go b.formatting }
where
  /-- What is before the last edge. -/
  go : List Formatting → List Formatting
    | [] => []
    | .edge :: rest => rest
    | _ :: rest => go rest

/-- Open again the formatting that is in force and was closed, the earliest first. -/
def reopenFormatting (b : Builder) : Builder :=
  let isClosed : Formatting → Bool
    | .edge => false
    | .element id _ => !b.opened.contains id
  let closed := b.formatting.takeWhile isClosed
  let kept := b.formatting.dropWhile isClosed
  closed.foldr
    (fun entry b => match entry with
      | .edge => b
      | .element _ tag =>
        let b := b.add tag
        { b with formatting := .element b.current tag :: b.formatting })
    { b with formatting := kept }

/-- Whether two tags say the same, in whatever order. -/
def sameTag (left right : Tag) : Bool :=
  left.name == right.name && left.attributes.length == right.attributes.length &&
    left.attributes.all right.attributes.contains

/-- Add a formatting element. Of equal ones no more than three stay in force. -/
def addFormatting (b : Builder) (tag : Tag) : Builder :=
  let equal := b.recentFormatting.filter fun entry => sameTag tag entry.2
  let b := if 3 ≤ equal.length then equal.getLast?.elim b fun entry => b.unformat entry.1 else b
  let b := b.add tag
  { b with formatting := .element b.current tag :: b.formatting }

/-- Close an element by an end tag that has no rule of its own: the nearest open element of the tag,
unless a special element is nearer. -/
def closePlain (b : Builder) (tag : String) : Builder :=
  go b.opened
where
  /-- The search from the innermost element outwards. -/
  go : List NodeId → Builder
    | [] => b
    | id :: rest =>
      if b.isOne [tag] id then { b with opened := rest }
      else if b.isOne specialTags id then b
      else go rest

/-- Where the entry of a split formatting element goes. -/
inductive Bookmark
  | inPlaceOf (id : NodeId)
  | after (id : NodeId)

/-- The state of splitting formatting elements around a block. -/
structure Split where
  builder : Builder
  /-- How many elements between the formatting element and the block have been seen. -/
  count : Nat
  /-- What is put into the next copy. -/
  last : NodeId
  bookmark : Bookmark

/-- Split one element between a formatting element and a block: close it if it is not formatting or
too far away, otherwise copy it around what has been split so far. -/
def splitStep (block : NodeId) (s : Split) (id : NodeId) : Split :=
  let b := s.builder
  let count := s.count + 1
  let entry := b.formatting.find? (Formatting.isFor id)
  match entry with
  | some (.element _ tag) =>
    if 3 < count then { s with builder := (b.unformat id).strike id, count }
    else
      let (b, copy) := b.createElement ⟨.page, tag.name⟩ tag.attributes
      let b := { b with
        opened := b.opened.map fun other => if other == id then copy else other
        formatting := b.formatting.map fun entry =>
          if entry.isFor id then .element copy tag else entry
        draft := b.draft.append copy s.last }
      let bookmark := if s.last == block then .after copy else s.bookmark
      ⟨b, count, copy, bookmark⟩
  | _ => { s with builder := b.strike id, count }

/-- Put the entry of a new formatting element where the bookmark says, instead of an old entry. -/
def exchange (b : Builder) (old : NodeId) (entry : Formatting) : Bookmark → Builder
  | .inPlaceOf id =>
    { b with formatting := b.formatting.map fun other => if other.isFor id then entry else other }
  | .after id =>
    { b with
      formatting := b.formatting.flatMap fun other =>
        if other.isFor id then [entry, other] else if other.isFor old then [] else [other] }

/-- Close a formatting element that blocks inside of it may outlive: the blocks are taken out of it
and get a copy of it inside of them. At most `rounds` blocks are handled. -/
def closeFormatting (tag : String) : (rounds : Nat) → Builder → Builder
  | 0, b => b
  | rounds + 1, b =>
    match b.recentFormatting.find? fun entry => entry.2.name == tag with
    | none => b.closePlain tag
    | some (id, source) =>
      if !b.opened.contains id then b.unformat id
      else if !b.reaches .general (· == id) then b
      else
        let inner := b.opened.takeWhile (· != id)
        let outer := (b.opened.dropWhile (· != id)).tail
        match inner.reverse.find? (b.isOne specialTags) with
        | none => { b.unformat id with opened := outer }
        | some block =>
          let between := (inner.dropWhile (· != block)).tail
          let s := between.foldl (splitStep block) ⟨b, 0, block, .inPlaceOf id⟩
          let b := { s.builder with draft := s.builder.draft.detach s.last }
          let b := b.putNode (b.placeIn (outer.headD Draft.rootId)) s.last
          let (b, copy) := b.createElement ⟨.page, source.name⟩ source.attributes
          let b := { b with draft := (b.draft.moveChildren block copy).append block copy }
          let b := (b.exchange id (.element copy source) s.bookmark).strike id
          closeFormatting tag rounds { b with
            opened := b.opened.flatMap fun other =>
              if other == block then [copy, other] else [other] }

/-- Close a formatting element by its end tag. -/
def endFormatting (b : Builder) (tag : String) : Builder :=
  if b.currentIsOne [tag] && !b.isFormatting b.current then b.pop else closeFormatting tag 8 b

/-! ## Modes -/

/-- The mode that the open elements call for. -/
def fittingMode (b : Builder) : Mode :=
  go b.opened
where
  /-- The search from the innermost element outwards. -/
  go : List NodeId → Mode
    | [] => .inBody
    | id :: rest =>
      let name := b.nameOf id
      let isOutermost := rest.isEmpty
      if name.vocabulary != .page then go rest
      else match name.tag with
        | "select" =>
          match rest.find? (b.isOne ["template", "table"]) with
          | some around => if b.isOne ["table"] around then .inSelectInTable else .inSelect
          | none => .inSelect
        | "td" | "th" => if isOutermost then go rest else .inCell
        | "tr" => .inRow
        | "tbody" | "thead" | "tfoot" => .inTableBody
        | "caption" => .inCaption
        | "colgroup" => .inColumnGroup
        | "table" => .inTable
        | "template" => b.templateModes.headD .inBody
        | "head" => if isOutermost then go rest else .inHead
        | "body" => .inBody
        | "frameset" => .inFrameset
        | "html" => if b.head.isSome then .afterHead else .beforeHead
        | _ => go rest

/-- Go on in the mode that the open elements call for. -/
def refit (b : Builder) : Builder := { b with mode := b.fittingMode }

end Builder
end Campus.Markup
