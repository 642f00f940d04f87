import Campus.Proofs.Markup.Trees
/-!
# Positions in trees

A node of a tree stands at the position that numbers the children to go to on the way to it. Equal
nodes at different positions are different nodes. Document order is the lexicographic order of
positions: an element comes before those inside of it, and those inside of a child come before those
inside of a later one. What the searches in a tree find is told by the positions of its elements.
-/

namespace Campus.Markup.Node

/-- The node at a position, which numbers the children to go to from the outside in. -/
def nodeAt? : Node → List Nat → Option Node
  | node, [] => some node
  | node, place :: inside => node.children[place]?.bind fun child => child.nodeAt? inside

/-- An element stands at a position. -/
def IsAt (root : Node) (position : List Nat) (element : Node) : Prop :=
  root.nodeAt? position = some element ∧ element.isElement = true

mutual

/-- The positions of the elements of a tree, each before those of the elements inside of it. -/
def positions : Node → List (List Nat)
  | text _ => []
  | element _ _ children => [] :: positionsFrom 0 children

/-- The positions of the elements of neighbouring trees, the first of which is the child of some
number. -/
def positionsFrom (place : Nat) : List Node → List (List Nat)
  | [] => []
  | node :: rest => node.positions.map (place :: ·) ++ positionsFrom (place + 1) rest

end

/-- Induction on trees: what holds of an element when it holds of all its children. -/
theorem induction_on {motive : Node → Prop} (text : ∀ value, motive (.text value))
    (element : ∀ tag attributes children, (∀ child ∈ children, motive child) →
      motive (.element tag attributes children)) :
    ∀ node, motive node
  | .text value => text value
  | .element tag attributes children =>
    element tag attributes children fun child _ => induction_on text element child

variable {root node child : Node} {nodes : List Node} {place : Nat} {position inside : List Nat}

/-- A node is at the position of its root. -/
@[simp]
theorem nodeAt?_nil (node : Node) : node.nodeAt? [] = some node := by
  rw [nodeAt?]

/-- A position goes on inside the child at its first place. -/
theorem nodeAt?_cons (node : Node) (place : Nat) (inside : List Nat) :
    node.nodeAt? (place :: inside) =
      node.children[place]?.bind fun child => child.nodeAt? inside := by
  rw [nodeAt?]

/-- A position below another is one in the node that stands there. -/
theorem nodeAt?_append (node : Node) (outer inner : List Nat) :
    node.nodeAt? (outer ++ inner) = (node.nodeAt? outer).bind fun found => found.nodeAt? inner := by
  induction outer generalizing node with
  | nil => simp
  | cons place rest ih =>
    rw [List.cons_append, nodeAt?_cons, nodeAt?_cons]
    cases node.children[place]? with
    | none => rfl
    | some child => exact ih child

/-- The positions in neighbouring trees are those in each of them. -/
theorem mem_positionsFrom_iff :
    position ∈ positionsFrom place nodes ↔
      ∃ number child inside, nodes[number]? = some child ∧ inside ∈ child.positions ∧
        position = (place + number) :: inside := by
  induction nodes generalizing place with
  | nil => simp [positionsFrom]
  | cons first rest ih =>
    rw [positionsFrom, List.mem_append, List.mem_map, ih]
    constructor
    · rintro (⟨inside, isThere, rfl⟩ | ⟨number, child, inside, isChild, isThere, rfl⟩)
      · exact ⟨0, first, inside, rfl, isThere, rfl⟩
      · exact ⟨number + 1, child, inside, isChild, isThere, by rw [Nat.add_right_comm]; rfl⟩
    · rintro ⟨number, child, inside, isChild, isThere, rfl⟩
      cases number with
      | zero =>
        obtain rfl : first = child := Option.some.inj isChild
        exact .inl ⟨inside, isThere, rfl⟩
      | succ number =>
        exact .inr ⟨number, child, inside, isChild, isThere, by rw [Nat.add_right_comm]; rfl⟩

/-- The positions of a tree are those at which an element stands. -/
theorem mem_positions_iff (root : Node) (position : List Nat) :
    position ∈ root.positions ↔ ∃ element, root.IsAt position element := by
  induction root using induction_on generalizing position with
  | text value =>
    cases position with
    | nil => simp [positions, IsAt, isElement]
    | cons place inside => simp [positions, IsAt, nodeAt?_cons, children]
  | element tag attributes nodes ih =>
    rw [positions, List.mem_cons, mem_positionsFrom_iff]
    cases position with
    | nil => simp [IsAt, isElement]
    | cons place inside =>
      have within (found : Node) : (element tag attributes nodes).IsAt (place :: inside) found ↔
          ∃ child, nodes[place]? = some child ∧ child.IsAt inside found := by
        rw [IsAt, nodeAt?_cons, Option.bind_eq_some_iff, exists_and_right.symm]
        simp only [children, IsAt, and_assoc]
      simp only [within]
      constructor
      · rintro (impossible | ⟨number, child, below, isChild, isThere, same⟩)
        · cases impossible
        · obtain ⟨rfl, rfl⟩ := List.cons.inj same
          rw [Nat.zero_add]
          obtain ⟨found, stands⟩ := (ih child (List.mem_of_getElem? isChild) _).1 isThere
          exact ⟨found, child, isChild, stands⟩
      · rintro ⟨found, child, isChild, stands⟩
        exact .inr ⟨place, child, inside, isChild,
          (ih child (List.mem_of_getElem? isChild) _).2 ⟨found, stands⟩, by rw [Nat.zero_add]⟩

/-- The positions in neighbouring trees ascend if those in each of them do. -/
theorem ascending_positionsFrom
    (each : ∀ node ∈ nodes, node.positions.Pairwise (· < ·)) (place : Nat) :
    (positionsFrom place nodes).Pairwise (· < ·) := by
  induction nodes generalizing place with
  | nil => exact .nil
  | cons first rest ih =>
    obtain ⟨inFirst, inRest⟩ := List.forall_mem_cons.1 each
    rw [positionsFrom, List.pairwise_append]
    refine ⟨?_, ih inRest (place + 1), ?_⟩
    · exact List.pairwise_map.2 (inFirst.imp fun less => List.cons_lt_cons_iff.2 (.inr ⟨rfl, less⟩))
    · intro before isBefore after isAfter
      obtain ⟨inside, -, rfl⟩ := List.mem_map.1 isBefore
      obtain ⟨number, child, later, -, -, rfl⟩ := mem_positionsFrom_iff.1 isAfter
      exact List.cons_lt_cons_iff.2 (.inl (by omega))

/-- The positions of a tree ascend. -/
theorem ascending_positions (root : Node) : root.positions.Pairwise (· < ·) := by
  induction root using induction_on with
  | text value => exact .nil
  | element tag attributes nodes ih =>
    rw [positions, List.pairwise_cons]
    refine ⟨fun position isThere => ?_, ascending_positionsFrom ih 0⟩
    obtain ⟨number, child, inside, -, -, rfl⟩ := mem_positionsFrom_iff.1 isThere
    exact List.nil_lt_cons _ _

/-- The elements of neighbouring trees stand at their positions if those of each of them do. -/
theorem map_nodeAt?_positionsFrom (tag : String) (attributes : List (String × String))
    (before : List Node)
    (each : ∀ node ∈ nodes, node.positions.map node.nodeAt? = node.elements.map some) :
    (positionsFrom before.length nodes).map (element tag attributes (before ++ nodes)).nodeAt? =
      (elementsOf nodes).map some := by
  induction nodes generalizing before with
  | nil => rfl
  | cons first rest ih =>
    obtain ⟨inFirst, inRest⟩ := List.forall_mem_cons.1 each
    have later := ih (before ++ [first]) inRest
    rw [List.length_append, List.length_singleton, List.append_assoc, List.singleton_append]
      at later
    rw [positionsFrom, elementsOf, List.map_append, List.map_append, later, List.map_map, ← inFirst]
    congr 1
    refine List.map_congr_left fun inside _ => ?_
    rw [Function.comp_apply, nodeAt?_cons, children, List.getElem?_append_right (Nat.le_refl _),
      Nat.sub_self]
    rfl

/-- The elements of a tree are those at its positions, in their order. -/
theorem map_nodeAt?_positions (root : Node) :
    root.positions.map root.nodeAt? = root.elements.map some := by
  induction root using induction_on with
  | text value => rfl
  | element tag attributes nodes ih =>
    have inside := map_nodeAt?_positionsFrom tag attributes [] ih
    rw [positions, elements, List.map_cons, List.map_cons, nodeAt?_nil]
    exact congrArg _ inside

/-- The positions of the elements of a tree that satisfy a condition. -/
def positionsWith (condition : Node → Bool) (root : Node) : List (List Nat) :=
  root.positions.filter fun position => (root.nodeAt? position).any condition

/-- At a position with a condition stands an element that satisfies it. -/
theorem mem_positionsWith_iff (condition : Node → Bool) (root : Node) (position : List Nat) :
    position ∈ root.positionsWith condition ↔
      ∃ element, root.IsAt position element ∧ condition element = true := by
  rw [positionsWith, List.mem_filter, mem_positions_iff, Option.any_eq_true]
  constructor
  · rintro ⟨⟨element, stands⟩, other, found, holds⟩
    obtain rfl := Option.some.inj (stands.1.symm.trans found)
    exact ⟨element, stands, holds⟩
  · rintro ⟨element, stands, holds⟩
    exact ⟨⟨element, stands⟩, element, stands.1, holds⟩

/-- A search finds the elements at the positions with its condition, in their order. -/
theorem map_nodeAt?_positionsWith (condition : Node → Bool) (root : Node) :
    (root.positionsWith condition).map root.nodeAt? = (root.findAll condition).map some := by
  rw [positionsWith, findAll_eq]
  calc (root.positions.filter fun position => (root.nodeAt? position).any condition).map
        root.nodeAt?
      = (root.positions.map root.nodeAt?).filter (Option.any condition) := by
        rw [List.filter_map]
        rfl
    _ = (root.elements.map some).filter (Option.any condition) := by
        rw [map_nodeAt?_positions]
    _ = (root.elements.filter condition).map some := by
        rw [List.filter_map]
        rfl

/-- The first of ascending positions is the one before which there is none. -/
theorem head?_eq_some_iff_of_ascending {positions : List (List Nat)}
    (ascending : positions.Pairwise (· < ·)) :
    positions.head? = some position ↔
      position ∈ positions ∧ ∀ earlier < position, earlier ∉ positions := by
  cases positions with
  | nil => simp
  | cons first rest =>
    obtain ⟨least, -⟩ := List.pairwise_cons.1 ascending
    rw [List.head?_cons, Option.some_inj]
    constructor
    · rintro rfl
      refine ⟨List.mem_cons_self, fun earlier less isThere => ?_⟩
      rcases List.mem_cons.1 isThere with rfl | later
      · exact List.lt_irrefl _ less
      · exact List.lt_irrefl _ (List.lt_trans less (least earlier later))
    · rintro ⟨isThere, before⟩
      rcases List.mem_cons.1 isThere with rfl | later
      · rfl
      · exact absurd List.mem_cons_self (before first (least position later))

/-- A search for one element goes to the first position with its condition. -/
theorem findFirst?_eq_bind (condition : Node → Bool) (root : Node) :
    root.findFirst? condition = (root.positionsWith condition).head?.bind root.nodeAt? := by
  have heads := congrArg List.head? (map_nodeAt?_positionsWith condition root)
  rw [List.head?_map, List.head?_map] at heads
  rw [findFirst?_eq, ← List.head?_filter, ← findAll_eq]
  cases positions : (root.positionsWith condition).head? with
  | none =>
    rw [positions] at heads
    exact Option.map_eq_none_iff.1 heads.symm
  | some position =>
    rw [positions, Option.map_some] at heads
    obtain ⟨found, all, same⟩ := Option.map_eq_some_iff.1 heads.symm
    rw [all, same, Option.bind_some]

/-- A search for one element finds the one at the first position at which its condition is
satisfied. -/
theorem findFirst?_eq_some_iff {condition : Node → Bool} {found : Node} :
    root.findFirst? condition = some found ↔
      ∃ position, root.IsAt position found ∧ condition found = true ∧
        ∀ earlier < position, ∀ other, root.IsAt earlier other → condition other = false := by
  have ascending : (root.positionsWith condition).Pairwise (· < ·) :=
    (ascending_positions root).filter _
  simp only [findFirst?_eq_bind, Option.bind_eq_some_iff, mem_positionsWith_iff,
    head?_eq_some_iff_of_ascending ascending, not_exists, not_and, Bool.not_eq_true]
  constructor
  · rintro ⟨position, ⟨⟨element, stands, holds⟩, before⟩, isFound⟩
    obtain rfl := Option.some.inj (stands.1.symm.trans isFound)
    exact ⟨position, stands, holds, before⟩
  · rintro ⟨position, stands, holds, before⟩
    exact ⟨position, ⟨⟨found, stands, holds⟩, before⟩, stands.1⟩

/-- Searching a tree finds the elements that satisfy the condition in the order of the recursive
listing; it finds each position at which such an element stands, no position twice, and all of them
in document order. A search for one element finds the first of these, if there is any. -/
theorem searches_in_document_order (condition : Node → Bool) (root : Node) :
    root.findAll condition = root.elements.filter condition ∧
    (∃ positions : List (List Nat),
      positions.Pairwise (· < ·) ∧
      (∀ position, position ∈ positions ↔
        ∃ element, root.IsAt position element ∧ condition element = true) ∧
      positions.map root.nodeAt? = (root.findAll condition).map some) ∧
    root.findFirst? condition = (root.findAll condition).head? := by
  refine ⟨findAll_eq condition root, ⟨root.positionsWith condition, ?_, ?_, ?_⟩, ?_⟩
  · exact (ascending_positions root).filter _
  · exact mem_positionsWith_iff condition root
  · exact map_nodeAt?_positionsWith condition root
  · rw [findFirst?_eq, findAll_eq, List.head?_filter]

end Campus.Markup.Node
