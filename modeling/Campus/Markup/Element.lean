import Campus.Markup.Document
import Campus.Text.Blank
/-!
# Looking around in trees

Elements are looked up by a condition in document order, each before its descendants. A search keeps
the subtrees that are still to be seen on a stack, takes the one on top and pushes its children; it
ends because the stack gets smaller in total. The recursive listing of all elements says what it
finds.
-/

namespace Campus.Markup.Node

/-- The tag of an element; a text has none. -/
def tag : Node → String
  | text _ => ""
  | element tag _ _ => tag

/-- The value of an attribute. -/
def attribute? (name : String) : Node → Option String
  | text _ => none
  | element _ attributes _ => (attributes.find? fun entry => entry.1 == name).map Prod.snd

/-- The content of an element. -/
def children : Node → List Node
  | text _ => []
  | element _ _ children => children

/-- Whether a node is an element. -/
def isElement : Node → Bool
  | text _ => false
  | element _ _ _ => true

/-- The words of a text, which blanks keep apart. -/
def words (chars : List Char) : List (List Char) :=
  (chars.splitBy fun c d => Text.isBlank c == Text.isBlank d).filter fun run =>
    !(run.head?.elim true Text.isBlank)

/-- Whether the class attribute lists a word. -/
def hasClass (word : String) (node : Node) : Bool :=
  match node.attribute? "class" with
  | some value => (words value.toList).contains word.toList
  | none => false

/-- The elements with a tag right inside of a node. -/
def childElements (name : String) (node : Node) : List Node :=
  node.children.filter fun child => child.isElement && child.tag == name

mutual

/-- All text in a node. -/
def fullText : Node → String
  | text value => value
  | element _ _ children => fullTexts children

/-- All text in several nodes. -/
def fullTexts : List Node → String
  | [] => ""
  | node :: rest => fullText node ++ fullTexts rest

end

mutual

/-- The elements of a tree, each before the ones inside of it. -/
def elements : Node → List Node
  | text _ => []
  | element tag attributes children => element tag attributes children :: elementsOf children

/-- The elements of several trees. -/
def elementsOf : List Node → List Node
  | [] => []
  | node :: rest => elements node ++ elementsOf rest

end

mutual

/-- The number of nodes in a tree. -/
def size : Node → Nat
  | text _ => 1
  | element _ _ children => 1 + sizes children

/-- The number of nodes in several trees. -/
def sizes : List Node → Nat
  | [] => 0
  | node :: rest => size node + sizes rest

end

/-- The children of a node are fewer than its nodes. -/
theorem sizes_children (node : Node) : sizes node.children < node.size := by
  cases node <;> simp [size, children, sizes]

/-- Put the elements among some nodes onto a stack, the last one first, so that the first one ends
up on top. -/
def pushElements (nodes stack : List Node) : List Node :=
  nodes.foldr (fun node stack => if node.isElement then node :: stack else stack) stack

/-- Pushing adds no more than what is pushed. -/
theorem sizes_pushElements_le (nodes stack : List Node) :
    sizes (pushElements nodes stack) ≤ sizes nodes + sizes stack := by
  induction nodes with
  | nil => simp [pushElements, sizes]
  | cons node rest ih =>
    rw [pushElements] at ih
    simp only [pushElements, List.foldr_cons]
    split <;> simp only [sizes] <;> omega

/-- An element that is taken from a stack leaves less to be seen, with its children pushed. -/
theorem sizes_pushElements_children_lt (node : Node) (stack : List Node) :
    sizes (pushElements node.children stack) < sizes (node :: stack) := by
  have pushed := sizes_pushElements_le node.children stack
  have fewer := sizes_children node
  simp only [sizes]
  omega

/-- The elements that satisfy a condition among those on a stack and inside of them, onto those
found so far, which come latest first. -/
def searchAll (condition : Node → Bool) (found : List Node) : (stack : List Node) → List Node
  | [] => found.reverse
  | node :: stack =>
    searchAll condition (if condition node then node :: found else found)
      (pushElements node.children stack)
termination_by stack => sizes stack
decreasing_by exact sizes_pushElements_children_lt node stack

/-- The elements of a tree that satisfy a condition, in document order. -/
def findAll (condition : Node → Bool) (node : Node) : List Node :=
  searchAll condition [] (pushElements [node] [])

/-- The first element that satisfies a condition among those on a stack and inside of them. -/
def searchFirst (condition : Node → Bool) : (stack : List Node) → Option Node
  | [] => none
  | node :: stack =>
    if condition node then some node
    else searchFirst condition (pushElements node.children stack)
termination_by stack => sizes stack
decreasing_by exact sizes_pushElements_children_lt node stack

/-- The first element of a tree that satisfies a condition. -/
def findFirst? (condition : Node → Bool) (node : Node) : Option Node :=
  searchFirst condition (pushElements [node] [])

/-- The elements with a tag, in document order. -/
def descendants (name : String) (node : Node) : List Node :=
  node.findAll fun element => element.tag == name

end Campus.Markup.Node
