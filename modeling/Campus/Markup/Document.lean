/-!
# Documents under construction

While markup is read, elements move: text in the wrong place of a table is put before the table, and
formatting that overlaps is split. So a document under construction is a store of numbered nodes,
each knowing its parent and its children. Node zero is the document itself. When all is read, the
finished tree is taken from the store.
-/

namespace Campus.Markup

/-- A finished tree. -/
inductive Node
  | text (value : String)
  | element (tag : String) (attributes : List (String × String)) (children : List Node)
deriving Inhabited

/-- The vocabulary of an element. -/
inductive Vocabulary
  | page
  | drawing
  | formula
deriving DecidableEq

/-- The name of an element. -/
structure ElementName where
  vocabulary : Vocabulary
  tag : String
deriving DecidableEq

/-- What a node is. -/
inductive Content
  | root
  | element (name : ElementName) (attributes : List (String × String))
  | text (value : String)
  /-- A comment, which keeps the texts around it apart. -/
  | comment

/-- The number of a node. -/
abbrev NodeId := Nat

/-- A node under construction. -/
structure DraftNode where
  content : Content
  parent : Option NodeId
  children : Array NodeId

/-- There is a root without children. -/
instance : Inhabited DraftNode := ⟨⟨.root, none, #[]⟩⟩

/-- A document under construction. -/
structure Draft where
  nodes : Array DraftNode

namespace Draft

/-- The empty document. -/
def empty : Draft := ⟨#[⟨.root, none, #[]⟩]⟩

/-- The number of the document itself. -/
def rootId : NodeId := 0

/-- A node. -/
def node? (draft : Draft) (id : NodeId) : Option DraftNode := draft.nodes[id]?

/-- The name of an element. -/
def name? (draft : Draft) (id : NodeId) : Option ElementName :=
  match draft.node? id with
  | some { content := .element name _, .. } => some name
  | _ => none

/-- Change a node. -/
def modify (draft : Draft) (id : NodeId) (change : DraftNode → DraftNode) : Draft :=
  ⟨draft.nodes.modify id change⟩

/-- A new node without parent and children. -/
def create (draft : Draft) (content : Content) : Draft × NodeId :=
  (⟨draft.nodes.push ⟨content, none, #[]⟩⟩, draft.nodes.size)

/-- Take a node from its parent. -/
def detach (draft : Draft) (id : NodeId) : Draft :=
  match (draft.node? id).bind DraftNode.parent with
  | none => draft
  | some parent =>
    (draft.modify parent fun node => { node with children := node.children.filter (· != id) }).modify
      id fun node => { node with parent := none }

/-- Make a node the last child of another. -/
def append (draft : Draft) (parent id : NodeId) : Draft :=
  ((draft.detach id).modify parent fun node => { node with children := node.children.push id }).modify
    id fun node => { node with parent := some parent }

/-- Put a node before a sibling of a parent. -/
def insertBefore (draft : Draft) (parent sibling id : NodeId) : Draft :=
  let draft := draft.detach id
  (draft.modify parent fun node =>
    let place := (node.children.idxOf? sibling).getD node.children.size
    { node with
      children := node.children.extract 0 place ++ #[id] ++
        node.children.extract place node.children.size }).modify
    id fun node => { node with parent := some parent }

/-- Add to a text, if the node is one. -/
def extend? (draft : Draft) (id : NodeId) (value : String) : Option Draft :=
  match draft.node? id with
  | some { content := .text _, .. } =>
    some (draft.modify id fun node => match node.content with
      | .text before => { node with content := .text (before ++ value) }
      | _ => node)
  | _ => none

/-- Text at the end of a parent, joined to text that is there already. -/
def appendText (draft : Draft) (parent : NodeId) (value : String) : Draft :=
  let last := (draft.node? parent).bind fun node => node.children.back?
  match last.bind fun last => draft.extend? last value with
  | some draft => draft
  | none =>
    let (draft, id) := draft.create (.text value)
    draft.append parent id

/-- Text before a sibling, joined to text that is there already. -/
def insertTextBefore (draft : Draft) (parent sibling : NodeId) (value : String) : Draft :=
  let before := (draft.node? parent).bind fun node =>
    (node.children.idxOf? sibling).bind fun place =>
      if place = 0 then none else node.children[place - 1]?
  match before.bind fun before => draft.extend? before value with
  | some draft => draft
  | none =>
    let (draft, id) := draft.create (.text value)
    draft.insertBefore parent sibling id

/-- Give all children of one node to another. -/
def moveChildren (draft : Draft) (source target : NodeId) : Draft :=
  match draft.node? source with
  | none => draft
  | some node => node.children.foldl (fun draft id => draft.append target id) draft

/-- Give an element the attributes it does not have yet. -/
def addAttributes (draft : Draft) (id : NodeId) (attributes : List (String × String)) : Draft :=
  draft.modify id fun node => match node.content with
    | .element name own =>
      let missing := attributes.filter fun entry => own.all fun other => other.1 != entry.1
      { node with content := .element name (own ++ missing) }
    | _ => node

mutual

/-- The finished tree of a node, nothing for a comment. No path is longer than the number of nodes,
which bounds the fuel. -/
def tree? (draft : Draft) : (fuel : Nat) → NodeId → Option Node
  | 0, _ => none
  | fuel + 1, id =>
    match draft.node? id with
    | some { content := .text value, .. } => some (.text value)
    | some { content := .element name attributes, children, .. } =>
      some (.element name.tag attributes (trees draft fuel children.toList))
    | _ => none

/-- The finished trees of several nodes. -/
def trees (draft : Draft) (fuel : Nat) : List NodeId → List Node
  | [] => []
  | id :: rest =>
    match tree? draft fuel id with
    | some node => node :: trees draft fuel rest
    | none => trees draft fuel rest

end

/-- The finished tree of the outermost element. -/
def finish (draft : Draft) : Node :=
  let children := (draft.node? rootId).elim #[] DraftNode.children
  let root := children.toList.find? fun id => (draft.name? id).isSome
  ((root.bind (draft.tree? (draft.nodes.size + 1)))).getD (.element "html" [] [])

end Draft
end Campus.Markup
