import Campus.Proofs.Markup.Positions
import Campus.Proofs.Markup.Words
/-!
# Rows of tables

The rows of a tree are its `tr` elements at any depth, in document order. A row has a value for a
column if a `td` element right inside of it is marked as one of that column and holds a value; the
last such cell counts. A row with a value for every column that is needed gives a building or a
room, and any other is left out. A cell belongs to one row only, so a row inside of another does not
give it values.
-/

namespace Campus

open Markup

namespace Column

/-- A cell is marked as one of a column: of the markers whose words its class attribute lists, the
first in the order of the table is that of the column. -/
def Marks (column : Column) (cell : Node) : Prop :=
  ∃ before word after, markers = before ++ (word, column) :: after ∧ cell.Lists word ∧
    ∀ marker ∈ before, ¬cell.Lists marker.1

/-- The first link in a cell. -/
def IsLink (cell anchor : Node) : Prop :=
  ∃ position, cell.IsAt position anchor ∧ anchor.tag = "a" ∧
    ∀ earlier < position, ∀ other, cell.IsAt earlier other → other.tag ≠ "a"

/-- A cell holds a value for a column. -/
inductive Holds : Column → Node → String → Prop
  /-- The text of the first link, for names and numbers. -/
  | linkText {column : Column} {cell anchor : Node} (ofLink : column = fullName ∨ column = number)
    (isLink : IsLink cell anchor) : Holds column cell (Text.trim anchor.fullText)
  /-- The target of the first link, if that has one. -/
  | target {cell anchor : Node} {href : String} (isLink : IsLink cell anchor)
    (hasTarget : anchor.attribute? "href" = some href) : Holds link cell (Text.trim href)
  /-- The text of the cell, for all other columns. -/
  | text {column : Column} {cell : Node} (notName : column ≠ fullName) (notNumber : column ≠ number)
    (notLink : column ≠ link) : Holds column cell (Text.trim cell.fullText)

variable {column : Column} {cell anchor : Node} {value : String}

/-- The column of a cell is the one as whose it is marked. -/
theorem ofCell?_eq_some_iff : ofCell? cell = some column ↔ column.Marks cell := by
  simp only [ofCell?, Option.map_eq_some_iff, List.find?_eq_some_iff_append, Marks,
    Node.hasClass_iff, Bool.not_eq_true', ← Bool.not_eq_true]
  constructor
  · rintro ⟨⟨word, _⟩, ⟨lists, before, after, all, none⟩, rfl⟩
    exact ⟨before, word, after, all, lists, none⟩
  · rintro ⟨before, word, after, all, lists, none⟩
    exact ⟨(word, column), ⟨lists, before, after, all, none⟩, rfl⟩

/-- The link of a cell is the first in it. -/
theorem link?_eq_some_iff : link? cell = some anchor ↔ IsLink cell anchor := by
  simp only [link?, Node.findFirst?_eq_some_iff, IsLink, beq_iff_eq, beq_eq_false_iff_ne]

/-- The value of a cell is the one that it holds. -/
theorem value?_eq_some_iff : column.value? cell = some value ↔ column.Holds cell value := by
  constructor
  · intro found
    unfold value? at found
    split at found
    · obtain ⟨anchor, isLink, rfl⟩ := Option.map_eq_some_iff.1 found
      exact .linkText (.inl rfl) (link?_eq_some_iff.1 isLink)
    · obtain ⟨anchor, isLink, rfl⟩ := Option.map_eq_some_iff.1 found
      exact .linkText (.inr rfl) (link?_eq_some_iff.1 isLink)
    · obtain ⟨anchor, isLink, read⟩ := Option.bind_eq_some_iff.1 found
      obtain ⟨href, hasTarget, rfl⟩ := Option.map_eq_some_iff.1 read
      exact .target (link?_eq_some_iff.1 isLink) hasTarget
    · next notName notNumber notLink =>
      cases found
      exact .text notName notNumber notLink
  · rintro (⟨rfl | rfl, isLink⟩ | ⟨isLink, hasTarget⟩ | ⟨notName, notNumber, notLink⟩)
    · rw [value?, link?_eq_some_iff.2 isLink, Option.map_some]
    · rw [value?, link?_eq_some_iff.2 isLink, Option.map_some]
    · rw [value?, link?_eq_some_iff.2 isLink, Option.bind_some, hasTarget, Option.map_some]
    · cases column with
      | fullName => exact absurd rfl notName
      | number => exact absurd rfl notNumber
      | link => exact absurd rfl notLink
      | shortName | address | seats | furniture | type => rfl

end Column

/-- A cell gives a row a value for a column: it stands right inside of the row and is a `td` element
that is marked as one of the column and holds the value. -/
structure Offers (root : Node) (row cell : List Nat) (column : Column) (value : String) : Prop where
  inRow : ∃ place, cell = row ++ [place]
  isCell : ∃ node, root.IsAt cell node ∧ node.tag = "td" ∧ column.Marks node ∧
    column.Holds node value

/-- A row has the value for a column that the last of its cells gives. -/
def HasValue (root : Node) (row : List Nat) (column : Column) (value : String) : Prop :=
  ∃ cell, Offers root row cell column value ∧
    ∀ later, cell < later → ∀ other, ¬Offers root row later column other

/-- No cell gives a row a value for a column. -/
def Lacks (root : Node) (row : List Nat) (column : Column) : Prop :=
  ∀ cell value, ¬Offers root row cell column value

/-- Items are those of rows, row by row, and rows without an item are left out. -/
inductive Tabled {α : Type} (isOf : List Nat → α → Prop) : List (List Nat) → List α → Prop
  | nil : Tabled isOf [] []
  | item {row : List Nat} {item : α} {rows : List (List Nat)} {items : List α}
    (ofRow : isOf row item) (rest : Tabled isOf rows items) :
    Tabled isOf (row :: rows) (item :: items)
  | dropped {row : List Nat} {rows : List (List Nat)} {items : List α}
    (none : ∀ item, ¬isOf row item) (rest : Tabled isOf rows items) :
    Tabled isOf (row :: rows) items

/-- The columns that a building needs. -/
def Building.columns : List Column := [.fullName, .shortName, .address]

/-- A building is that of a row. -/
structure Building.IsOf (root : Node) (row : List Nat) (building : Building) : Prop where
  fullName : HasValue root row .fullName building.fullName
  shortName : HasValue root row .shortName building.shortName
  address : HasValue root row .address building.address

/-- The columns that a room needs. -/
def Room.columns : List Column := [.number, .seats, .furniture, .type, .link]

/-- A room is that of a row. -/
structure Room.IsOf (root : Node) (row : List Nat) (room : Room) : Prop where
  number : HasValue root row .number room.number
  seats : ∃ text, HasValue root row .seats text ∧ Binary64.ofText? text = some room.seats
  furniture : HasValue root row .furniture room.furniture
  type : HasValue root row .type room.type
  href : HasValue root row .link room.href

variable {root node : Node} {row : List Nat} {column : Column} {value : String}

/-- The value that a node gives for a column, if it is a cell of that column. -/
def cellValue? (column : Column) (node : Node) : Option String :=
  if node.isElement = true ∧ node.tag = "td" ∧ Column.ofCell? node = some column then
    column.value? node
  else none

/-- A node gives a value for a column if it is a cell of the column that holds the value. -/
theorem cellValue?_eq_some_iff :
    cellValue? column node = some value ↔
      node.isElement = true ∧ node.tag = "td" ∧ column.Marks node ∧ column.Holds node value := by
  rw [cellValue?, Option.ite_none_right_eq_some, Column.ofCell?_eq_some_iff,
    Column.value?_eq_some_iff, and_assoc, and_assoc]

/-- A cell gives a row the value that the node there gives. -/
theorem offers_iff (isRow : root.nodeAt? row = some node) {cell : List Nat} :
    Offers root row cell column value ↔
      ∃ place child, cell = row ++ [place] ∧ node.children[place]? = some child ∧
        cellValue? column child = some value := by
  have stands (place : Nat) : root.nodeAt? (row ++ [place]) = node.children[place]? := by
    rw [Node.nodeAt?_append, isRow, Option.bind_some, Node.nodeAt?_cons]
    simp
  constructor
  · rintro ⟨⟨place, rfl⟩, child, ⟨found, isElement⟩, isCell⟩
    exact ⟨place, child, rfl, stands place ▸ found, cellValue?_eq_some_iff.2 ⟨isElement, isCell⟩⟩
  · rintro ⟨place, child, rfl, found, gives⟩
    obtain ⟨isElement, isCell⟩ := cellValue?_eq_some_iff.1 gives
    exact ⟨⟨place, rfl⟩, child, ⟨(stands place).trans found, isElement⟩, isCell⟩

/-- The value of a row for a column is the last one that a child gives. -/
theorem rowValue?_eq (node : Node) (column : Column) :
    rowValue? (rowValues node) column = (node.children.filterMap (cellValue? column)).getLast? := by
  have given : ((rowValues node).filter fun entry => entry.1 == column).map Prod.snd =
      node.children.filterMap (cellValue? column) := by
    rw [rowValues, Node.childElements, List.filterMap_filter, List.filter_filterMap,
      List.map_filterMap]
    refine List.filterMap_congr fun child _ => ?_
    by_cases isCell : child.isElement = true ∧ child.tag = "td"
    · cases ofCell : Column.ofCell? child with
      | none => simp [cellValue?, isCell, ofCell]
      | some other =>
        cases found : other.value? child <;> by_cases same : other = column <;>
          simp_all [cellValue?]
    · have noCell : cellValue? column child = none := if_neg fun cell => isCell ⟨cell.1, cell.2.1⟩
      rw [noCell, if_neg (by simpa using isCell)]
      rfl
  rw [rowValue?, ← List.head?_filter, List.filter_reverse, ← List.head?_map, List.map_reverse,
    List.head?_reverse, given]

/-- Children of one node come in the order of their numbers. -/
theorem append_singleton_lt_iff (outer : List Nat) {place later : Nat} :
    outer ++ [place] < outer ++ [later] ↔ place < later := by
  induction outer with
  | nil => simp [List.cons_lt_cons_iff]
  | cons first rest ih => simp [ih]

/-- What is given last by the elements of a list is given by one behind which there is none that
gives anything. -/
theorem getLast?_filterMap_eq_some_iff {α β : Type} {give : α → Option β} {items : List α}
    {last : β} :
    (items.filterMap give).getLast? = some last ↔
      ∃ (place : Nat) (item : α), items[place]? = some item ∧ give item = some last ∧
        ∀ later, place < later → ∀ other, items[later]? = some other → give other = none := by
  rw [List.getLast?_filterMap, List.findSome?_eq_some_iff]
  constructor
  · rintro ⟨after, item, before, reversed, gives, none⟩
    have whole : items = before.reverse ++ item :: after.reverse := by
      rw [← List.reverse_reverse items, reversed]
      simp
    refine ⟨before.reverse.length, item, by simp [whole], gives, fun later behind other found => ?_⟩
    obtain ⟨more, rfl⟩ := Nat.exists_eq_add_of_lt behind
    rw [whole, List.getElem?_append_right (by omega), Nat.add_assoc, Nat.add_sub_cancel_left,
      List.getElem?_cons_succ] at found
    exact none other (List.mem_reverse.1 (List.mem_of_getElem? found))
  · rintro ⟨place, item, found, gives, none⟩
    obtain ⟨fits, rfl⟩ := List.getElem?_eq_some_iff.1 found
    refine ⟨(items.drop (place + 1)).reverse, items[place], (items.take place).reverse, ?_, gives,
      fun other behind => ?_⟩
    · have whole := List.take_append_drop place items
      rw [List.drop_eq_getElem_cons fits] at whole
      conv_lhs => rw [← whole]
      simp
    · obtain ⟨more, isThere⟩ := List.mem_iff_getElem?.1 (List.mem_reverse.1 behind)
      rw [List.getElem?_drop] at isThere
      exact none _ (by omega) other isThere

/-- A row has the value that is found for it. -/
theorem rowValue?_eq_some_iff (isRow : root.nodeAt? row = some node) :
    rowValue? (rowValues node) column = some value ↔ HasValue root row column value := by
  simp only [rowValue?_eq, getLast?_filterMap_eq_some_iff, HasValue, offers_iff isRow]
  constructor
  · rintro ⟨place, child, found, gives, none⟩
    refine ⟨row ++ [place], ⟨place, child, rfl, found, gives⟩, ?_⟩
    rintro _ behind _ ⟨later, other, rfl, isThere, givesToo⟩
    have further : place < later := (append_singleton_lt_iff row).1 behind
    rw [none later further other isThere] at givesToo
    cases givesToo
  · rintro ⟨_, ⟨place, child, rfl, found, gives⟩, none⟩
    refine ⟨place, child, found, gives, fun later further other isThere => ?_⟩
    refine Option.eq_none_iff_forall_ne_some.2 fun given givesToo => ?_
    exact none (row ++ [later]) ((append_singleton_lt_iff row).2 further) given
      ⟨later, other, rfl, isThere, givesToo⟩

/-- A row for which no value is found lacks one. -/
theorem rowValue?_eq_none_iff (isRow : root.nodeAt? row = some node) :
    rowValue? (rowValues node) column = none ↔ Lacks root row column := by
  simp only [rowValue?_eq, List.getLast?_eq_none_iff, List.filterMap_eq_nil_iff, Lacks,
    offers_iff isRow]
  constructor
  · rintro none _ value ⟨place, child, -, found, gives⟩
    rw [none child (List.mem_of_getElem? found)] at gives
    cases gives
  · intro lacks child isChild
    obtain ⟨place, found⟩ := List.mem_iff_getElem?.1 isChild
    exact Option.eq_none_iff_forall_ne_some.2 fun value gives =>
      lacks _ value ⟨place, child, rfl, found, gives⟩

/-- A row that is given a value is a node of the tree. -/
theorem Offers.exists_row {cell : List Nat} (offers : Offers root row cell column value) :
    ∃ node, root.nodeAt? row = some node := by
  obtain ⟨⟨place, rfl⟩, child, ⟨found, -⟩, -⟩ := offers
  rw [Node.nodeAt?_append, Option.bind_eq_some_iff] at found
  obtain ⟨node, isRow, -⟩ := found
  exact ⟨node, isRow⟩

/-- A row has one value for a column. -/
theorem HasValue.unique {other : String} (has : HasValue root row column value)
    (hasToo : HasValue root row column other) : value = other := by
  obtain ⟨node, isRow⟩ : ∃ node, root.nodeAt? row = some node :=
    has.elim fun _ given => given.1.exists_row
  exact Option.some.inj (((rowValue?_eq_some_iff isRow).2 has).symm.trans
    ((rowValue?_eq_some_iff isRow).2 hasToo))

/-- A cell gives a value to one row only. -/
theorem Offers.unique_row {other cell : List Nat} {otherColumn : Column} {otherValue : String}
    (offers : Offers root row cell column value)
    (offersToo : Offers root other cell otherColumn otherValue) : row = other := by
  obtain ⟨place, rfl⟩ := offers.inRow
  obtain ⟨otherPlace, same⟩ := offersToo.inRow
  exact (List.append_inj' same rfl).1

namespace Building

/-- The building of a row is the one with the values of the row. -/
theorem ofRow?_eq_some_iff (isRow : root.nodeAt? row = some node) {building : Building} :
    ofRow? node = some building ↔ building.IsOf root row := by
  simp only [ofRow?, Option.bind_eq_bind, Option.bind_eq_some_iff, rowValue?_eq_some_iff isRow]
  constructor
  · rintro ⟨fullName, hasName, shortName, hasShort, address, hasAddress, ⟨⟩⟩
    exact ⟨hasName, hasShort, hasAddress⟩
  · rintro ⟨hasName, hasShort, hasAddress⟩
    exact ⟨_, hasName, _, hasShort, _, hasAddress, rfl⟩

/-- A row has no building exactly if it lacks a value. -/
theorem not_isOf_iff (isRow : root.nodeAt? row = some node) :
    (∀ building, ¬IsOf root row building) ↔ ∃ column ∈ columns, Lacks root row column := by
  simp only [← ofRow?_eq_some_iff isRow, ← ne_eq, ← Option.eq_none_iff_forall_ne_some,
    ← rowValue?_eq_none_iff isRow, columns, List.mem_cons, List.not_mem_nil, or_false,
    exists_eq_or_imp, exists_eq_left, ofRow?]
  cases rowValue? (rowValues node) .fullName <;> cases rowValue? (rowValues node) .shortName <;>
    cases rowValue? (rowValues node) .address <;> simp

end Building

namespace Room

/-- The room of a row is the one with the values of the row. -/
theorem ofRow?_eq_some_iff (isRow : root.nodeAt? row = some node) {room : Room} :
    ofRow? node = some room ↔ room.IsOf root row := by
  simp only [ofRow?, Option.bind_eq_bind, Option.bind_eq_some_iff, rowValue?_eq_some_iff isRow]
  constructor
  · rintro ⟨number, hasNumber, seats, hasSeats, furniture, hasFurniture, type, hasType, href,
      hasHref, ⟨⟩⟩
    exact ⟨hasNumber, hasSeats, hasFurniture, hasType, hasHref⟩
  · rintro ⟨hasNumber, hasSeats, hasFurniture, hasType, hasHref⟩
    exact ⟨_, hasNumber, _, hasSeats, _, hasFurniture, _, hasType, _, hasHref, rfl⟩

/-- A row has no room exactly if it lacks a value or the text of its seats is no number. -/
theorem not_isOf_iff (isRow : root.nodeAt? row = some node) :
    (∀ room, ¬IsOf root row room) ↔ (∃ column ∈ columns, Lacks root row column) ∨
      ∃ text, HasValue root row .seats text ∧ Binary64.ofText? text = none := by
  simp only [← ofRow?_eq_some_iff isRow, ← ne_eq, ← Option.eq_none_iff_forall_ne_some,
    ← rowValue?_eq_none_iff isRow, ← rowValue?_eq_some_iff isRow, columns, List.mem_cons,
    List.not_mem_nil, or_false, exists_eq_or_imp, exists_eq_left, ofRow?]
  cases rowValue? (rowValues node) .seats with
  | none => simp
  | some text =>
    cases read : Binary64.ofText? text <;> cases rowValue? (rowValues node) .number <;>
      cases rowValue? (rowValues node) .furniture <;> cases rowValue? (rowValues node) .type <;>
      cases rowValue? (rowValues node) .link <;> simp [read]

end Room

/-- What the rows of a tree have are the items found for them, row by row. -/
theorem tabled_filterMap {α : Type} {isOf : List Nat → α → Prop} {ofRow? : Node → Option α}
    (each : ∀ row node, root.nodeAt? row = some node →
      ∀ item, ofRow? node = some item ↔ isOf row item)
    {rows : List (List Nat)} {nodes : List Node} (stand : rows.map root.nodeAt? = nodes.map some) :
    Tabled isOf rows (nodes.filterMap ofRow?) := by
  induction rows generalizing nodes with
  | nil =>
    obtain rfl := List.map_eq_nil_iff.1 stand.symm
    exact .nil
  | cons row rest ih =>
    cases nodes with
    | nil => cases stand
    | cons node nodes =>
      obtain ⟨isRow, later⟩ := List.cons.inj stand
      cases found : ofRow? node with
      | none =>
        rw [List.filterMap_cons_none found]
        refine .dropped (fun item ofRow => ?_) (ih later)
        rw [(each row node isRow item).2 ofRow] at found
        cases found
      | some item =>
        rw [List.filterMap_cons_some found]
        exact .item ((each row node isRow item).1 found) (ih later)

/-- The buildings and rooms of a tree are those of its rows at any depth, in document order. A row
is left out exactly if it lacks a value for a column that is needed or the text of its seats is no
number; a row has at most one value for a column, and a cell gives a value to one row only. -/
theorem items_of_rows (root : Node) :
    (∃ rows : List (List Nat),
      rows.Pairwise (· < ·) ∧
      (∀ row, row ∈ rows ↔ ∃ element, root.IsAt row element ∧ element.tag = "tr") ∧
      Tabled (Building.IsOf root) rows (Building.ofTree root) ∧
      Tabled (Room.IsOf root) rows (Room.ofTree root)) ∧
    (∀ row node, root.nodeAt? row = some node →
      ((∀ building, ¬Building.IsOf root row building) ↔
        ∃ column ∈ Building.columns, Lacks root row column) ∧
      ((∀ room, ¬Room.IsOf root row room) ↔
        (∃ column ∈ Room.columns, Lacks root row column) ∨
          ∃ text, HasValue root row .seats text ∧ Binary64.ofText? text = none)) ∧
    (∀ row column value other, HasValue root row column value → HasValue root row column other →
      value = other) ∧
    ∀ row other cell column otherColumn value otherValue,
      Offers root row cell column value → Offers root other cell otherColumn otherValue →
        row = other := by
  let isRow : Node → Bool := fun element => element.tag == "tr"
  have stand : (root.positionsWith isRow).map root.nodeAt? = (root.descendants "tr").map some :=
    Node.map_nodeAt?_positionsWith isRow root
  refine ⟨⟨root.positionsWith isRow, (Node.ascending_positions root).filter _, ?_, ?_, ?_⟩, ?_, ?_,
    ?_⟩
  · intro row
    simp only [Node.mem_positionsWith_iff, isRow, beq_iff_eq]
  · exact tabled_filterMap (fun _ _ isRow _ => Building.ofRow?_eq_some_iff isRow) stand
  · exact tabled_filterMap (fun _ _ isRow _ => Room.ofRow?_eq_some_iff isRow) stand
  · exact fun _ _ isRow => ⟨Building.not_isOf_iff isRow, Room.not_isOf_iff isRow⟩
  · exact fun _ _ _ _ has hasToo => has.unique hasToo
  · exact fun _ _ _ _ _ _ _ offers offersToo => offers.unique_row offersToo

/-- A row of the index with the name, code and address of an annex. -/
def annexRow : Node :=
  .element "tr" [] [
    .element "td" [("class", "views-field-title")] [.element "a" [] [.text "Annex"]],
    .element "td" [("class", "views-field-field-building-code")] [.text " ANX "],
    .element "td" [("class", "views-field-field-building-address")] [.text "1 Side Street"]]

/-- A row with the name and code of a hall, in which the row of the annex is nested. -/
def hallRow : Node :=
  .element "tr" [] [
    .element "td" [("class", "views-field-title")] [.element "a" [] [.text "Hall"]],
    .element "td" [("class", "views-field-field-building-code")] [.text "HAL"],
    .element "td" [] [.element "table" [] [annexRow]]]

/-- The annex is the only building of the row of the hall: the hall has no address, as the one
inside of its row is that of the annex alone, and keeps its code. -/
theorem items_of_rows_nestedRow :
    Building.ofTree hallRow = [⟨"Annex", "ANX", "1 Side Street"⟩] ∧
    Offers hallRow [2, 0, 0] [2, 0, 0, 2] .address "1 Side Street" ∧
    (∀ column value, ¬Offers hallRow [] [2, 0, 0, 2] column value) ∧
    (∀ value, HasValue hallRow [] .shortName value → value = "HAL") ∧
    ∀ building, ¬Building.IsOf hallRow [] building := by
  obtain ⟨-, dropped, one, apart⟩ := items_of_rows hallRow
  have isHall : hallRow.nodeAt? [] = some hallRow := rfl
  have isAnnex : hallRow.nodeAt? [2, 0, 0] = some annexRow := rfl
  have ofAnnex : Offers hallRow [2, 0, 0] [2, 0, 0, 2] .address "1 Side Street" :=
    (offers_iff isAnnex).2 ⟨2, _, rfl, rfl, by decide +kernel⟩
  have code : HasValue hallRow [] .shortName "HAL" :=
    (rowValue?_eq_some_iff isHall).1 (by decide +kernel)
  have noAddress : Lacks hallRow [] .address :=
    (rowValue?_eq_none_iff isHall).1 (by decide +kernel)
  refine ⟨by decide +kernel, ofAnnex, fun column value ofHall => ?_,
    fun value has => one _ _ _ _ has code, ?_⟩
  · exact absurd (apart _ _ _ _ _ _ _ ofHall ofAnnex) (by decide)
  · exact (dropped [] _ isHall).1.2 ⟨.address, by decide, noAddress⟩

end Campus
