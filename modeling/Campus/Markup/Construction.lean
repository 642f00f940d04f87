import Campus.Markup.Builder
/-!
# Tree construction

What a piece of markup does depends on the mode. A rule either deals with the piece or changes the
mode and hands the piece on, so that a missing tag is made up for and a piece out of place ends the
parts that cannot hold it. Inside drawings and formulas other rules hold.
-/

namespace Campus.Markup

/-- A piece of markup; text comes in runs of one kind. -/
inductive Piece
  | blanks (chars : List Char)
  | letters (chars : List Char)
  | null
  | startTag (tag : Tag)
  | endTag (name : String)
  | comment
  | finish

/-- What a rule does with a piece. -/
inductive Outcome
  /-- The piece is dealt with. -/
  | done (b : Builder)
  /-- The piece goes to the rules of the mode that is now set. -/
  | again (b : Builder)

namespace Builder

/-- Hand a piece on to another mode. -/
def handOn (b : Builder) (mode : Mode) : Outcome := .again { b with mode }

/-- Go on in another mode. -/
def goOn (b : Builder) (mode : Mode) : Outcome := .done { b with mode }

/-- No set of frames may take the place of the body any more. -/
def settle (b : Builder) : Builder := { b with allowsFrames := false }

/-- The number of the body, if it is open. -/
def body? (b : Builder) : Option NodeId :=
  match b.opened.reverse with
  | _ :: id :: _ => if b.isOne ["body"] id then some id else none
  | _ => none

/-! ## Head -/

/-- Open a template. -/
def openTemplate (b : Builder) (tag : Tag) : Builder :=
  { (b.add tag).addEdge.settle with
    mode := .inTemplate, templateModes := .inTemplate :: b.templateModes }

/-- Close the innermost template. -/
def closeTemplate (b : Builder) : Builder :=
  if b.hasOpen "template" then
    let b := ((b.closeImplied allImpliedEnds).closeThrough ["template"]).clearToEdge
    { b with templateModes := b.templateModes.tail }.refit
  else b

/-- Tags that belong into the head wherever they stand. -/
def headTags : List String :=
  ["base", "basefont", "bgsound", "link", "meta", "noframes", "script", "style", "template",
    "title"]

/-- A start tag of the head, if it is one. -/
def headStart? (b : Builder) (tag : Tag) : Option Builder :=
  match tag.name with
  | "base" | "basefont" | "bgsound" | "link" | "meta" => some (b.addClosed tag)
  | "title" => some (b.addWithText tag (.references "title"))
  | "noframes" | "style" | "noscript" => some (b.addWithText tag (.raw tag.name))
  | "script" => some (b.addWithText tag .script)
  | "template" => some (b.openTemplate tag)
  | _ => none

/-- A start tag for the outermost element only adds attributes. -/
def rootStart (b : Builder) (tag : Tag) : Builder :=
  if b.hasOpen "template" then b
  else match b.opened.getLast? with
    | some root => { b with draft := b.draft.addAttributes root tag.attributes }
    | none => b

/-- The end of the text in a template that is still open. -/
def finishTemplate (b : Builder) : Outcome :=
  if b.hasOpen "template" then
    let b := (b.closeThrough ["template"]).clearToEdge
    .again { b with templateModes := b.templateModes.tail }.refit
  else .done b

/-- The rules in the head. -/
def inHead (b : Builder) (piece : Piece) : Outcome :=
  match piece with
  | .blanks chars => .done (b.addText chars)
  | .comment => .done b.addComment
  | .startTag tag =>
    if tag.name = "html" then .done (b.rootStart tag)
    else if tag.name = "head" then .done b
    else match b.headStart? tag with
      | some b => .done b
      | none => b.pop.handOn .afterHead
  | .endTag name =>
    match name with
    | "head" => b.pop.goOn .afterHead
    | "template" => .done b.closeTemplate
    | "body" | "html" | "br" => b.pop.handOn .afterHead
    | _ => .done b
  | .letters _ | .null | .finish => b.pop.handOn .afterHead

/-! ## Body -/

/-- Blocks that end an open paragraph. -/
def blockTags : List String :=
  ["address", "article", "aside", "blockquote", "center", "details", "dialog", "dir", "div", "dl",
    "fieldset", "figcaption", "figure", "footer", "header", "hgroup", "main", "menu", "nav", "ol", "p",
    "section", "summary", "ul"]

/-- Blocks with an end tag of their own. -/
def closableTags : List String :=
  (blockTags.filter (· != "p")) ++ ["button", "listing", "pre"]

/-- Headings. -/
def headingTags : List String := ["h1", "h2", "h3", "h4", "h5", "h6"]

/-- Formatting elements other than links. -/
def formattingTags : List String :=
  ["b", "big", "code", "em", "font", "i", "s", "small", "strike", "strong", "tt", "u"]

/-- Parts of tables and pages, which have no place in text. -/
def misplacedTags : List String :=
  ["caption", "col", "colgroup", "frame", "head", "tbody", "td", "tfoot", "th", "thead", "tr"]

/-- Close the nearest of some list items, unless a special element other than an address, a division
or a paragraph is nearer. -/
def closeItem (b : Builder) (tags : List String) : Builder :=
  let stops := specialTags.filter fun tag => !(["address", "div", "p"].contains tag)
  match b.opened.find? fun id => b.isOne tags id || b.isOne stops id with
  | some id =>
    if b.isOne tags id then
      let tag := (b.nameOf id).tag
      (b.closeImpliedExcept tag).closeThrough [tag]
    else b
  | none => b

/-- A link ends a link that is still open. -/
def closeLink (b : Builder) : Builder :=
  match b.recentFormatting.find? fun entry => b.isOne ["a"] entry.1 with
  | some (id, _) => ((b.endFormatting "a").unformat id).strike id
  | none => b

/-- Whether a tag is that of a hidden field. -/
def isHidden (tag : Tag) : Bool :=
  match tag.attributes.find? fun entry => entry.1 == "type" with
  | some (_, value) => value.toList.map Char.toLower == "hidden".toList
  | none => false

/-- In drawings and formulas the prefixed name of a link target counts as the plain name. -/
def plainNames (tag : Tag) : Tag :=
  let isLinked (entry : String × String) : Bool := entry.1 == "xlink:href"
  { tag with
    attributes := (tag.attributes.filter fun entry => !isLinked entry) ++
      (tag.attributes.filter isLinked).map fun entry => ("href", entry.2) }

/-- Begin a drawing or a formula. -/
def addForeign (b : Builder) (vocabulary : Vocabulary) (tag : Tag) : Builder :=
  let tag := plainNames tag
  if tag.isSelfClosing then b.addClosedIn vocabulary tag else b.addOpenIn vocabulary tag

/-- A start tag in the body. -/
def bodyStart (b : Builder) (tag : Tag) : Builder :=
  let name := tag.name
  if blockTags.contains name then b.closeOpenParagraph.add tag
  else if headingTags.contains name then
    let b := b.closeOpenParagraph
    (if b.currentIsOne headingTags then b.pop else b).add tag
  else if formattingTags.contains name then b.reopenFormatting.addFormatting tag
  else if misplacedTags.contains name then b
  else match name with
    | "html" => b.rootStart tag
    | "body" =>
      match b.body? with
      | some id =>
        if b.hasOpen "template" then b
        else { b.settle with draft := b.draft.addAttributes id tag.attributes }
      | none => b
    | "frameset" =>
      match b.allowsFrames, b.body? with
      | true, some id =>
        let b := { b with draft := b.draft.detach id, opened := b.opened.drop (b.opened.length - 1) }
        { b.add tag with mode := .inFrameset }
      | _, _ => b
    | "pre" | "listing" => { (b.closeOpenParagraph.add tag).settle with skipsLineFeed := true }
    | "form" =>
      if b.form.isSome && !b.hasOpen "template" then b
      else
        let b := b.closeOpenParagraph.add tag
        if b.hasOpen "template" then b else { b with form := some b.current }
    | "li" => ((b.settle.closeItem ["li"]).closeOpenParagraph).add tag
    | "dd" | "dt" => ((b.settle.closeItem ["dd", "dt"]).closeOpenParagraph).add tag
    | "plaintext" => { b.closeOpenParagraph.add tag with textMode := .plain }
    | "button" =>
      let b := if b.reachesOne .general ["button"] then
          (b.closeImplied impliedEnds).closeThrough ["button"]
        else b
      (b.reopenFormatting.add tag).settle
    | "a" => b.closeLink.reopenFormatting.addFormatting tag
    | "nobr" =>
      let b := b.reopenFormatting
      let b :=
        if b.reachesOne .general ["nobr"] then (b.endFormatting "nobr").reopenFormatting else b
      b.addFormatting tag
    | "applet" | "marquee" | "object" => ((b.reopenFormatting.add tag).addEdge).settle
    | "table" =>
      let b := if b.isStandard then b.closeOpenParagraph else b
      { (b.add tag).settle with mode := .inTable }
    | "area" | "br" | "embed" | "img" | "keygen" | "wbr" =>
      (b.reopenFormatting.addClosed tag).settle
    | "image" => (b.reopenFormatting.addClosed { tag with name := "img" }).settle
    | "input" =>
      let b := b.reopenFormatting.addClosed tag
      if isHidden tag then b else b.settle
    | "param" | "source" | "track" => b.addClosed tag
    | "hr" => (b.closeOpenParagraph.addClosed tag).settle
    | "textarea" => { b.settle.addWithText tag (.references "textarea") with skipsLineFeed := true }
    | "xmp" => (b.closeOpenParagraph.reopenFormatting.settle).addWithText tag (.raw "xmp")
    | "iframe" => b.settle.addWithText tag (.raw "iframe")
    | "noembed" | "noscript" => b.addWithText tag (.raw name)
    | "select" =>
      let isInTable := [Mode.inTable, .inCaption, .inTableBody, .inRow, .inCell].contains b.mode
      { (b.reopenFormatting.add tag).settle with
        mode := if isInTable then .inSelectInTable else .inSelect }
    | "optgroup" | "option" =>
      ((if b.currentIsOne ["option"] then b.pop else b).reopenFormatting).add tag
    | "rb" | "rtc" =>
      (if b.reachesOne .general ["ruby"] then b.closeImplied impliedEnds else b).add tag
    | "rp" | "rt" =>
      (if b.reachesOne .general ["ruby"] then b.closeImpliedExcept "rtc" else b).add tag
    | "math" => b.reopenFormatting.addForeign .formula tag
    | "svg" => b.reopenFormatting.addForeign .drawing tag
    | _ => b.reopenFormatting.add tag

/-- Close a form by its end tag. -/
def closeForm (b : Builder) : Builder :=
  if b.hasOpen "template" then
    if b.reachesOne .general ["form"] then (b.closeImplied impliedEnds).closeThrough ["form"] else b
  else match b.form with
    | none => b
    | some id =>
      let b := { b with form := none }
      if b.reaches .general (· == id) then (b.closeImplied impliedEnds).strike id else b

/-- An end tag in the body. -/
def bodyEnd (b : Builder) (name : String) : Outcome :=
  if closableTags.contains name then
    .done
      (if b.reachesOne .general [name] then (b.closeImplied impliedEnds).closeThrough [name] else b)
  else if headingTags.contains name then
    .done (if b.reachesOne .general headingTags then
        (b.closeImplied impliedEnds).closeThrough headingTags
      else b)
  else if (formattingTags ++ ["a", "nobr"]).contains name then .done (b.endFormatting name)
  else match name with
    | "body" => if b.reachesOne .general ["body"] then b.goOn .afterBody else .done b
    | "html" => if b.reachesOne .general ["body"] then b.handOn .afterBody else .done b
    | "template" => .done b.closeTemplate
    | "form" => .done b.closeForm
    | "p" =>
      .done (if b.reachesOne .button ["p"] then b else b.addImplied "p").closeParagraph
    | "li" =>
      .done
        (if b.reachesOne .list ["li"] then (b.closeImpliedExcept "li").closeThrough ["li"] else b)
    | "dd" | "dt" =>
      .done (if b.reachesOne .general [name] then (b.closeImpliedExcept name).closeThrough [name]
        else b)
    | "applet" | "marquee" | "object" =>
      .done (if b.reachesOne .general [name] then
          ((b.closeImplied impliedEnds).closeThrough [name]).clearToEdge
        else b)
    | "br" => .done (b.bodyStart ⟨"br", [], false⟩)
    | _ => .done (b.closePlain name)

/-- The rules in the body. -/
def inBody (b : Builder) (piece : Piece) : Outcome :=
  match piece with
  | .null => .done b
  | .blanks chars => .done (b.reopenFormatting.addText chars)
  | .letters chars => .done (b.reopenFormatting.settle.addText chars)
  | .comment => .done b.addComment
  | .startTag tag =>
    if headTags.contains tag.name then b.inHead piece else .done (b.bodyStart tag)
  | .endTag name => b.bodyEnd name
  | .finish => if b.templateModes.isEmpty then .done b else b.finishTemplate

/-- Text of an element that holds no tags. -/
def inText (b : Builder) (piece : Piece) : Outcome :=
  let ended (b : Builder) : Builder := { b.pop with mode := b.returnMode, textMode := .markup }
  match piece with
  | .blanks chars | .letters chars => .done (b.addText chars)
  | .finish => .again (ended b)
  | .endTag _ => .done (ended b)
  | _ => .done b

/-! ## Tables -/

/-- Apply the rules of the body, with content before the table. -/
def fostered (b : Builder) (piece : Piece) : Outcome :=
  match { b with isFostering := true }.inBody piece with
  | .done b => .done { b with isFostering := false }
  | .again b => .again { b with isFostering := false }

/-- Text in a table waits until its end is known. -/
def tableText (b : Builder) (piece : Piece) : Outcome :=
  if b.currentIsOne ["table", "tbody", "tfoot", "thead", "tr"] then
    .again { b with returnMode := b.mode, mode := .inTableText }
  else b.fostered piece

/-- The rules in a table. -/
def inTable (b : Builder) (piece : Piece) : Outcome :=
  let cleared := b.closeUntil ["html", "table", "template"]
  match piece with
  | .null | .blanks _ | .letters _ => b.tableText piece
  | .comment => .done b.addComment
  | .finish => b.inBody piece
  | .startTag tag =>
    match tag.name with
    | "caption" => (cleared.addEdge.add tag).goOn .inCaption
    | "colgroup" => (cleared.add tag).goOn .inColumnGroup
    | "col" => (cleared.addImplied "colgroup").handOn .inColumnGroup
    | "tbody" | "tfoot" | "thead" => (cleared.add tag).goOn .inTableBody
    | "td" | "th" | "tr" => (cleared.addImplied "tbody").handOn .inTableBody
    | "table" =>
      if b.reachesOne .table ["table"] then .again (b.closeThrough ["table"]).refit else .done b
    | "style" | "script" | "template" => b.inHead piece
    | "input" => if isHidden tag then .done (b.addClosed tag) else b.fostered piece
    | "form" =>
      if b.hasOpen "template" || b.form.isSome then .done b
      else
        let b := b.add tag
        .done { b.pop with form := some b.current }
    | _ => b.fostered piece
  | .endTag name =>
    match name with
    | "table" =>
      .done (if b.reachesOne .table ["table"] then (b.closeThrough ["table"]).refit else b)
    | "body" | "caption" | "col" | "colgroup" | "html" | "tbody" | "td" | "tfoot" | "th" | "thead"
    | "tr" => .done b
    | "template" => .done b.closeTemplate
    | _ => b.fostered piece

/-- Text in a table stays there if it is blank, and goes before the table otherwise. -/
def inTableText (b : Builder) (piece : Piece) : Outcome :=
  match piece with
  | .null => .done b
  | .blanks chars | .letters chars => .done { b with pendingText := b.pendingText ++ chars }
  | _ =>
    let chars := b.pendingText
    let b := { b with pendingText := [], mode := b.returnMode }
    if chars.isEmpty then .again b
    else if chars.all fun c => Token.isBlank c || c == '\r' then .again (b.addText chars)
    else match b.fostered (.letters chars) with
      | .done b | .again b => .again b

/-- Tags that end a caption or a cell. -/
def tablePartTags : List String :=
  ["caption", "col", "colgroup", "tbody", "td", "tfoot", "th", "thead", "tr"]

/-- The rules in a caption. -/
def inCaption (b : Builder) (piece : Piece) : Outcome :=
  let isOpen := b.reachesOne .table ["caption"]
  let closed := ((b.closeImplied impliedEnds).closeThrough ["caption"]).clearToEdge
  match piece with
  | .startTag tag =>
    if tablePartTags.contains tag.name then if isOpen then closed.handOn .inTable else .done b
    else b.inBody piece
  | .endTag name =>
    match name with
    | "caption" => if isOpen then closed.goOn .inTable else .done b
    | "table" => if isOpen then closed.handOn .inTable else .done b
    | "body" | "col" | "colgroup" | "html" | "tbody" | "td" | "tfoot" | "th" | "thead" | "tr" =>
      .done b
    | _ => b.inBody piece
  | _ => b.inBody piece

/-- The rules in a group of columns. -/
def inColumnGroup (b : Builder) (piece : Piece) : Outcome :=
  let leave : Outcome := if b.currentIsOne ["colgroup"] then b.pop.handOn .inTable else .done b
  match piece with
  | .blanks chars => .done (b.addText chars)
  | .comment => .done b.addComment
  | .finish => b.inBody piece
  | .startTag tag =>
    match tag.name with
    | "html" => .done (b.rootStart tag)
    | "col" => .done (b.addClosed tag)
    | "template" => b.inHead piece
    | _ => leave
  | .endTag name =>
    match name with
    | "colgroup" => if b.currentIsOne ["colgroup"] then b.pop.goOn .inTable else .done b
    | "col" => .done b
    | "template" => .done b.closeTemplate
    | _ => leave
  | .letters _ | .null => leave

/-- The rules between the rows of a table. -/
def inTableBody (b : Builder) (piece : Piece) : Outcome :=
  let cleared := b.closeUntil ["tbody", "tfoot", "thead", "template", "html"]
  let leave : Outcome :=
    if b.reachesOne .table ["table", "tbody", "tfoot", "thead"] then cleared.pop.handOn .inTable
    else .done b
  match piece with
  | .startTag tag =>
    match tag.name with
    | "tr" => (cleared.add tag).goOn .inRow
    | "th" | "td" => (cleared.addImplied "tr").handOn .inRow
    | "caption" | "col" | "colgroup" | "tbody" | "tfoot" | "thead" => leave
    | _ => b.inTable piece
  | .endTag name =>
    match name with
    | "tbody" | "tfoot" | "thead" =>
      if b.reachesOne .table [name] then cleared.pop.goOn .inTable else .done b
    | "table" => leave
    | "body" | "caption" | "col" | "colgroup" | "html" | "td" | "th" | "tr" => .done b
    | _ => b.inTable piece
  | _ => b.inTable piece

/-- The rules in a row. -/
def inRow (b : Builder) (piece : Piece) : Outcome :=
  let cleared := b.closeUntil ["tr", "template", "html"]
  let isOpen := b.reachesOne .table ["tr"]
  let leave : Outcome := if isOpen then cleared.pop.handOn .inTableBody else .done b
  match piece with
  | .startTag tag =>
    match tag.name with
    | "th" | "td" => (cleared.add tag).addEdge.goOn .inCell
    | "caption" | "col" | "colgroup" | "tbody" | "tfoot" | "thead" | "tr" => leave
    | _ => b.inTable piece
  | .endTag name =>
    match name with
    | "tr" => if isOpen then cleared.pop.goOn .inTableBody else .done b
    | "table" => leave
    | "tbody" | "tfoot" | "thead" => if b.reachesOne .table [name] then leave else .done b
    | "body" | "caption" | "col" | "colgroup" | "html" | "td" | "th" => .done b
    | _ => b.inTable piece
  | _ => b.inTable piece

/-- The rules in a cell. -/
def inCell (b : Builder) (piece : Piece) : Outcome :=
  let close (tags : List String) : Builder :=
    ((b.closeImplied impliedEnds).closeThrough tags).clearToEdge
  match piece with
  | .startTag tag =>
    if tablePartTags.contains tag.name then
      if b.reachesOne .table ["td", "th"] then (close ["td", "th"]).handOn .inRow else .done b
    else b.inBody piece
  | .endTag name =>
    match name with
    | "td" | "th" => if b.reachesOne .table [name] then (close [name]).goOn .inRow else .done b
    | "body" | "caption" | "col" | "colgroup" | "html" => .done b
    | "table" | "tbody" | "tfoot" | "thead" | "tr" =>
      if b.reachesOne .table [name] then (close ["td", "th"]).handOn .inRow else .done b
    | _ => b.inBody piece
  | _ => b.inBody piece

/-! ## Selections -/

/-- The rules in a selection. -/
def inSelect (b : Builder) (piece : Piece) : Outcome :=
  let isOpen := b.reachesOne .select ["select"]
  let closed := (b.closeThrough ["select"]).refit
  match piece with
  | .null => .done b
  | .blanks chars | .letters chars => .done (b.addText chars)
  | .comment => .done b.addComment
  | .finish => b.inBody piece
  | .startTag tag =>
    match tag.name with
    | "html" => .done (b.rootStart tag)
    | "option" => .done ((if b.currentIsOne ["option"] then b.pop else b).add tag)
    | "optgroup" =>
      let b := if b.currentIsOne ["option"] then b.pop else b
      .done ((if b.currentIsOne ["optgroup"] then b.pop else b).add tag)
    | "select" => .done (if isOpen then closed else b)
    | "input" | "keygen" | "textarea" => if isOpen then .again closed else .done b
    | "script" | "template" => b.inHead piece
    | _ => .done b
  | .endTag name =>
    match name with
    | "optgroup" =>
      let b := if b.currentIsOne ["option"] && b.pop.currentIsOne ["optgroup"] then b.pop else b
      .done (if b.currentIsOne ["optgroup"] then b.pop else b)
    | "option" => .done (if b.currentIsOne ["option"] then b.pop else b)
    | "select" => .done (if isOpen then closed else b)
    | "template" => .done b.closeTemplate
    | _ => .done b

/-- The rules in a selection in a table, which parts of the table end. -/
def inSelectInTable (b : Builder) (piece : Piece) : Outcome :=
  let parts := ["caption", "table", "tbody", "tfoot", "thead", "tr", "td", "th"]
  let closed := (b.closeThrough ["select"]).refit
  match piece with
  | .startTag tag => if parts.contains tag.name then .again closed else b.inSelect piece
  | .endTag name =>
    if parts.contains name then if b.reachesOne .table [name] then .again closed else .done b
    else b.inSelect piece
  | _ => b.inSelect piece

/-! ## Templates and frames -/

/-- The rules in a template, whose first content decides on its mode. -/
def inTemplate (b : Builder) (piece : Piece) : Outcome :=
  let become (mode : Mode) : Outcome :=
    .again { b with templateModes := mode :: b.templateModes.tail, mode }
  match piece with
  | .null | .blanks _ | .letters _ | .comment => b.inBody piece
  | .finish => b.finishTemplate
  | .startTag tag =>
    if headTags.contains tag.name then b.inHead piece
    else match tag.name with
      | "caption" | "colgroup" | "tbody" | "tfoot" | "thead" => become .inTable
      | "col" => become .inColumnGroup
      | "tr" => become .inTableBody
      | "td" | "th" => become .inRow
      | _ => become .inBody
  | .endTag name => .done (if name = "template" then b.closeTemplate else b)

/-- The rules in a set of frames. -/
def inFrameset (b : Builder) (piece : Piece) : Outcome :=
  match piece with
  | .blanks chars => .done (b.addText chars)
  | .comment => .done b.addComment
  | .startTag tag =>
    match tag.name with
    | "html" => .done (b.rootStart tag)
    | "frameset" => .done (b.add tag)
    | "frame" => .done (b.addClosed tag)
    | "noframes" => b.inHead piece
    | _ => .done b
  | .endTag name =>
    if name = "frameset" ∧ 1 < b.opened.length then
      let b := b.pop
      if b.currentIsOne ["frameset"] then .done b else b.goOn .afterFrameset
    else .done b
  | .letters _ | .null | .finish => .done b

/-- The rules after a set of frames. -/
def afterFrameset (b : Builder) (piece : Piece) : Outcome :=
  match piece with
  | .blanks chars => .done (b.addText chars)
  | .comment => .done b.addComment
  | .startTag tag =>
    match tag.name with
    | "html" => .done (b.rootStart tag)
    | "noframes" => b.inHead piece
    | _ => .done b
  | .endTag name => if name = "html" then b.goOn .afterFramesetDocument else .done b
  | .letters _ | .null | .finish => .done b

/-! ## Before and after -/

/-- The rules before the outermost element. -/
def beforeRoot (b : Builder) (piece : Piece) : Outcome :=
  let addRoot (tag : Tag) : Builder :=
    let (b, id) := b.createElement ⟨.page, "html"⟩ tag.attributes
    { b with draft := b.draft.append Draft.rootId id }.push id
  match piece with
  | .blanks _ | .comment => .done b
  | .startTag tag =>
    if tag.name = "html" then (addRoot tag).goOn .beforeHead
    else (addRoot ⟨"html", [], false⟩).handOn .beforeHead
  | .endTag name =>
    if ["head", "body", "html", "br"].contains name then
      (addRoot ⟨"html", [], false⟩).handOn .beforeHead
    else .done b
  | .letters _ | .null | .finish => (addRoot ⟨"html", [], false⟩).handOn .beforeHead

/-- The rules before the head. -/
def beforeHead (b : Builder) (piece : Piece) : Outcome :=
  let addHead (tag : Tag) : Builder :=
    let b := b.add tag
    { b with head := some b.current }
  match piece with
  | .blanks _ => .done b
  | .comment => .done b.addComment
  | .startTag tag =>
    match tag.name with
    | "html" => .done (b.rootStart tag)
    | "head" => (addHead tag).goOn .inHead
    | _ => (addHead ⟨"head", [], false⟩).handOn .inHead
  | .endTag name =>
    if ["head", "body", "html", "br"].contains name then
      (addHead ⟨"head", [], false⟩).handOn .inHead
    else .done b
  | .letters _ | .null | .finish => (addHead ⟨"head", [], false⟩).handOn .inHead

/-- The rules between head and body. What belongs into the head still goes there. -/
def afterHead (b : Builder) (piece : Piece) : Outcome :=
  let implied : Outcome := (b.addImplied "body").handOn .inBody
  match piece with
  | .blanks chars => .done (b.addText chars)
  | .comment => .done b.addComment
  | .startTag tag =>
    match tag.name with
    | "html" => .done (b.rootStart tag)
    | "body" => (b.add tag).settle.goOn .inBody
    | "frameset" => (b.add tag).goOn .inFrameset
    | "head" => .done b
    | _ =>
      if headTags.contains tag.name then
        match b.head with
        | some head =>
          match (b.push head).inHead piece with
          | .done b => .done (b.strike head)
          | .again b => .again (b.strike head)
        | none => .done b
      else implied
  | .endTag name =>
    if ["body", "html", "br"].contains name then implied
    else if name = "template" then .done b.closeTemplate
    else .done b
  | .letters _ | .null | .finish => implied

/-- The rules after the body. -/
def afterBody (b : Builder) (piece : Piece) : Outcome :=
  match piece with
  | .blanks _ => b.inBody piece
  | .comment =>
    let (draft, id) := b.draft.create .comment
    .done { b with draft := draft.append (b.opened.getLastD Draft.rootId) id }
  | .startTag tag => if tag.name = "html" then .done (b.rootStart tag) else b.handOn .inBody
  | .endTag name => if name = "html" then b.goOn .afterDocument else b.handOn .inBody
  | .letters _ | .null => b.handOn .inBody
  | .finish => .done b

/-- The rules after the document. -/
def afterDocument (b : Builder) (piece : Piece) : Outcome :=
  match piece with
  | .blanks _ => b.inBody piece
  | .comment | .finish => .done b
  | .startTag tag => if tag.name = "html" then .done (b.rootStart tag) else b.handOn .inBody
  | .endTag _ | .letters _ | .null => b.handOn .inBody

/-- The rules after a document with a set of frames. -/
def afterFramesetDocument (b : Builder) (piece : Piece) : Outcome :=
  match piece with
  | .blanks _ => b.inBody piece
  | .startTag tag =>
    match tag.name with
    | "html" => .done (b.rootStart tag)
    | "noframes" => b.inHead piece
    | _ => .done b
  | _ => .done b

/-- The rules of a mode. A document without a type does not ask for standard layout rules. -/
def apply (b : Builder) (piece : Piece) : Outcome :=
  match b.mode with
  | .start =>
    match piece with
    | .blanks _ | .comment => .done b
    | _ => { b with isStandard := false }.handOn .beforeRoot
  | .beforeRoot => b.beforeRoot piece
  | .beforeHead => b.beforeHead piece
  | .inHead => b.inHead piece
  | .afterHead => b.afterHead piece
  | .inBody => b.inBody piece
  | .inText => b.inText piece
  | .inTable => b.inTable piece
  | .inTableText => b.inTableText piece
  | .inCaption => b.inCaption piece
  | .inColumnGroup => b.inColumnGroup piece
  | .inTableBody => b.inTableBody piece
  | .inRow => b.inRow piece
  | .inCell => b.inCell piece
  | .inSelect => b.inSelect piece
  | .inSelectInTable => b.inSelectInTable piece
  | .inTemplate => b.inTemplate piece
  | .afterBody => b.afterBody piece
  | .inFrameset => b.inFrameset piece
  | .afterFrameset => b.afterFrameset piece
  | .afterDocument => b.afterDocument piece
  | .afterFramesetDocument => b.afterFramesetDocument piece

/-! ## Drawings and formulas -/

/-- The names of drawings that are not in small letters. -/
def drawingNames : List String :=
  ["altGlyph", "altGlyphDef", "altGlyphItem", "animateColor", "animateMotion", "animateTransform",
    "clipPath", "feBlend", "feColorMatrix", "feComponentTransfer", "feComposite", "feConvolveMatrix",
    "feDiffuseLighting", "feDisplacementMap", "feDistantLight", "feDropShadow", "feFlood", "feFuncA",
    "feFuncB", "feFuncG", "feFuncR", "feGaussianBlur", "feImage", "feMerge", "feMergeNode",
    "feMorphology", "feOffset", "fePointLight", "feSpecularLighting", "feSpotLight", "feTile",
    "feTurbulence", "foreignObject", "glyphRef", "linearGradient", "radialGradient", "textPath"]

/-- Tags of pages that end a drawing or a formula. -/
def pageTags : List String :=
  ["b", "big", "blockquote", "body", "br", "center", "code", "dd", "div", "dl", "dt", "em", "embed",
    "h1", "h2", "h3", "h4", "h5", "h6", "head", "hr", "i", "img", "li", "listing", "menu", "meta", "nobr",
    "ol", "p", "pre", "ruby", "s", "small", "span", "strong", "strike", "sub", "sup", "table", "tt", "u",
    "ul", "var"]

/-- Whether the rules of drawings and formulas hold for a piece. -/
def isForeign (b : Builder) (piece : Piece) : Bool :=
  match b.opened with
  | [] => false
  | id :: _ =>
    let name := b.nameOf id
    if name.vocabulary == .page then false
    else match piece with
      | .finish => false
      | .null | .blanks _ | .letters _ => !holdsFormulaText name && !holdsPageContent name
      | .startTag tag =>
        let isInFormulaText :=
          holdsFormulaText name && !(["mglyph", "malignmark"].contains tag.name)
        let isAnnotated := name == ⟨.formula, "annotation-xml"⟩ && tag.name == "svg"
        !(isInFormulaText || holdsPageContent name || isAnnotated)
      | .endTag _ | .comment => true

/-- A start tag in a drawing or a formula. -/
def foreignStart (b : Builder) (tag : Tag) : Builder :=
  let vocabulary := (b.nameOf b.current).vocabulary
  let name :=
    if vocabulary == .drawing then
      (drawingNames.find? fun name => name.toLower == tag.name).getD tag.name
    else tag.name
  b.addForeign vocabulary { tag with name }

/-- Leave a drawing or a formula for an element that holds content of a page. -/
def leaveForeign (b : Builder) : Builder :=
  let holds (id : NodeId) : Bool :=
    let name := b.nameOf id
    name.vocabulary == .page || holdsFormulaText name || holdsPageContent name
  { b with opened := b.opened.tail.dropWhile fun id => !holds id }

/-- An end tag in a drawing or a formula closes the nearest element of its name, in either case;
from an element of a page on, the rules of the mode hold. -/
def foreignEnd (b : Builder) (name : String) : Outcome :=
  go true b.opened
where
  /-- The search from the innermost element outwards. -/
  go (isFirst : Bool) : List NodeId → Outcome
    | [] | [_] => .done b
    | id :: rest =>
      let own := b.nameOf id
      if !isFirst && own.vocabulary == .page then b.apply (.endTag name)
      else if own.tag.toLower == name then .done { b with opened := rest }
      else go false rest

/-- The rules in drawings and formulas. -/
def applyForeign (b : Builder) (piece : Piece) : Outcome :=
  match piece with
  | .null => .done (b.addText ['\ufffd'])
  | .blanks chars => .done (b.addText chars)
  | .letters chars => .done (b.settle.addText chars)
  | .comment => .done b.addComment
  | .startTag tag =>
    let isStyled := tag.name == "font" &&
      tag.attributes.any fun entry => ["color", "face", "size"].contains entry.1
    if pageTags.contains tag.name || isStyled then .again b.leaveForeign
    else .done (b.foreignStart tag)
  | .endTag name =>
    if name = "br" ∨ name = "p" then .again b.leaveForeign else b.foreignEnd name
  | .finish => .done b

/-! ## Documents -/

/-- Apply rules until the piece is dealt with. Handing on closes an element or moves to a later
mode, which bounds the fuel. -/
def takeIn : (fuel : Nat) → Builder → Piece → Builder
  | 0, b, _ => b
  | fuel + 1, b, piece =>
    match if b.isForeign piece then b.applyForeign piece else b.apply piece with
    | .done b => b
    | .again b => takeIn fuel b piece

/-- Take in a piece. -/
def take (b : Builder) (piece : Piece) : Builder := takeIn (2 * b.opened.length + 40) b piece

/-- What kind of run a character belongs to. -/
inductive RunKind
  | blank
  | null
  | letter
deriving DecidableEq

/-- The kind of a character. -/
def kindOf (c : Char) : RunKind :=
  if Token.isBlank c || c == '\r' then .blank else if c == '\x00' then .null else .letter

/-- The pieces of a text. -/
def piecesOf (chars : List Char) : List Piece :=
  (chars.splitBy fun c d => kindOf c == kindOf d).map fun run =>
    match run.head?.map kindOf with
    | some .blank => .blanks run
    | some .letter => .letters run
    | _ => .null

/-- Take in a token. A document type counts only at the start. -/
def takeToken (b : Builder) (token : Token) : Builder :=
  let skips := b.skipsLineFeed
  let b := { b with skipsLineFeed := false }
  match token with
  | .documentType isStandard =>
    if b.mode = .start then { b with mode := .beforeRoot, isStandard } else b
  | .comment => b.take .comment
  | .startTag tag => b.take (.startTag tag)
  | .endTag name => b.take (.endTag name)
  | .text chars =>
    let chars := match skips, chars with
      | true, '\n' :: rest => rest
      | _, chars => chars
    (piecesOf chars).foldl take b

/-- Whether sections of character data count. -/
def allowsSections (b : Builder) : Bool :=
  match b.opened with
  | id :: _ => (b.nameOf id).vocabulary != .page
  | [] => false

/-- Take in all of a text; every round takes at least one character. -/
def takeAll : (fuel : Nat) → Builder → List Char → Builder
  | 0, b, _ => b
  | _ + 1, b, [] => b
  | fuel + 1, b, chars =>
    let (tokens, rest) := Token.next b.textMode b.allowsSections chars
    takeAll fuel (tokens.foldl takeToken b) rest

end Builder

/-- The tree of a document. -/
def parse (text : String) : Node :=
  let chars := Token.normalize text.toList
  (Builder.takeAll (chars.length + 1) .initial chars |>.take .finish).draft.finish

end Campus.Markup
