import Campus.Ingest.Tables
/-!
# What is found in trees

Searches that keep the subtrees still to be seen on a stack find the elements that satisfy the
condition, in document order: at every moment what is found so far and what the stack holds are
together the elements of the tree. The tree of a finished document is given by recursion on the
depth alone.
-/

namespace Campus.Markup

namespace Node

/-- The elements of a node are itself, if it is one, and those of its children. -/
theorem elements_eq (node : Node) :
    node.elements = (if node.isElement then [node] else []) ++ elementsOf node.children := by
  cases node <;> simp [elements, isElement, children, elementsOf]

/-- What is pushed are elements, onto elements. -/
theorem isElement_of_mem_pushElements {nodes stack : List Node}
    (onStack : ∀ node ∈ stack, node.isElement = true) :
    ∀ node ∈ pushElements nodes stack, node.isElement = true := by
  induction nodes with
  | nil => exact onStack
  | cons first rest ih =>
    rw [pushElements, List.foldr_cons, ← pushElements]
    split
    · next isElement => exact List.forall_mem_cons.2 ⟨isElement, ih⟩
    · exact ih

/-- Nodes that are pushed come before those below, and texts have no elements in them. -/
theorem elementsOf_pushElements (nodes stack : List Node) :
    elementsOf (pushElements nodes stack) = elementsOf nodes ++ elementsOf stack := by
  induction nodes with
  | nil => rfl
  | cons node rest ih =>
    rw [pushElements, List.foldr_cons, ← pushElements]
    cases node with
    | text value => simpa [isElement, elementsOf, elements] using ih
    | element tag attributes children => simp [isElement, elementsOf, ih]

/-- The elements of a stack are the one on top, then those of the stack with its children pushed. -/
theorem elementsOf_cons_of_isElement {node : Node} (isElement : node.isElement = true)
    (stack : List Node) :
    elementsOf (node :: stack) = node :: elementsOf (pushElements node.children stack) := by
  rw [elementsOf, elements_eq, if_pos isElement, elementsOf_pushElements, List.singleton_append,
    List.cons_append]

/-- A search adds what it finds to what was found before. -/
theorem searchAll_eq (condition : Node → Bool) (found stack : List Node)
    (onStack : ∀ node ∈ stack, node.isElement = true) :
    searchAll condition found stack = found.reverse ++ (elementsOf stack).filter condition := by
  fun_induction searchAll condition found stack with
  | case1 found => simp [elementsOf]
  | case2 found node stack ih =>
    obtain ⟨isElement, below⟩ := List.forall_mem_cons.1 onStack
    rw [dite_eq_ite] at ih
    rw [ih (isElement_of_mem_pushElements below), elementsOf_cons_of_isElement isElement]
    by_cases holds : condition node = true <;> simp [holds]

/-- A search finds the elements that satisfy the condition, in document order. -/
theorem findAll_eq (condition : Node → Bool) (node : Node) :
    node.findAll condition = node.elements.filter condition := by
  rw [findAll, searchAll_eq _ _ _ (isElement_of_mem_pushElements (by simp)),
    elementsOf_pushElements]
  simp [elementsOf]

/-- A search for one element finds the first of all that are on the stack and inside of them. -/
theorem searchFirst_eq (condition : Node → Bool) (stack : List Node)
    (onStack : ∀ node ∈ stack, node.isElement = true) :
    searchFirst condition stack = (elementsOf stack).find? condition := by
  fun_induction searchFirst condition stack with
  | case1 => rfl
  | case2 node stack holds =>
    rw [elementsOf_cons_of_isElement (List.forall_mem_cons.1 onStack).1,
      List.find?_cons_of_pos holds]
  | case3 node stack fails ih =>
    obtain ⟨isElement, below⟩ := List.forall_mem_cons.1 onStack
    rw [ih (isElement_of_mem_pushElements below), elementsOf_cons_of_isElement isElement,
      List.find?_cons_of_neg fails]

/-- A search for one element finds the first in document order that satisfies the condition. -/
theorem findFirst?_eq (condition : Node → Bool) (node : Node) :
    node.findFirst? condition = node.elements.find? condition := by
  rw [findFirst?, searchFirst_eq _ _ (isElement_of_mem_pushElements (by simp)),
    elementsOf_pushElements]
  simp [elementsOf]

end Node

namespace Draft

/-- The trees of several nodes are those of each that has one. -/
theorem trees_eq (draft : Draft) (fuel : Nat) (ids : List NodeId) :
    draft.trees fuel ids = ids.filterMap (draft.tree? fuel) := by
  induction ids with
  | nil => simp [trees]
  | cons id rest ih =>
    rw [trees, ih, List.filterMap_cons]
    cases draft.tree? fuel id <;> rfl

/-- The tree of a node of limited depth. -/
def treeWithin? (draft : Draft) : (depth : Nat) → NodeId → Option Node
  | 0, _ => none
  | depth + 1, id =>
    match draft.node? id with
    | some { content := .text value, .. } => some (.text value)
    | some { content := .element name attributes, children, .. } =>
      some (.element name.tag attributes (children.toList.filterMap (treeWithin? draft depth)))
    | _ => none

/-- The tree of a node is that of the depth the fuel allows. -/
theorem tree?_eq (draft : Draft) : draft.tree? = draft.treeWithin? := by
  funext fuel
  induction fuel with
  | zero => funext id; simp [tree?, treeWithin?]
  | succ fuel inside =>
    funext id
    rcases found : draft.node? id with _ | ⟨content, parent, children⟩
    · simp [tree?, treeWithin?, found]
    · cases content <;> simp [tree?, treeWithin?, found, trees_eq, inside]

/-- The draft that all of a document makes. -/
def ofChars (chars : List Char) : Draft :=
  let chars := Token.normalize chars
  (Builder.takeAll (chars.length + 1) .initial chars |>.take .finish).draft

/-- The tree of a document is that of its draft. -/
theorem parse_ofList (chars : List Char) :
    parse (String.ofList chars) = (ofChars chars).finish := by
  rw [parse, String.toList_ofList, ofChars]

end Draft
end Campus.Markup

namespace Campus

open Markup

/-- The buildings of a page are those of the tree of its draft. -/
theorem Building.ofPage_ofList (chars : List Char) :
    ofPage (String.ofList chars) = ofTree (Draft.ofChars chars).finish := by
  rw [ofPage, Draft.parse_ofList]

/-- The rooms of a page are those of the tree of its draft. -/
theorem Room.ofPage_ofList (chars : List Char) :
    ofPage (String.ofList chars) = ofTree (Draft.ofChars chars).finish := by
  rw [ofPage, Draft.parse_ofList]

end Campus
