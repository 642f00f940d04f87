import Campus.Markup.Construction
import Campus.Markup.Element
import Campus.Number.Reading
/-!
# Building and room tables

The index page and the pages of buildings hold tables whose cells say by a class word which column
they belong to. A row gives a building or a room if every column that is needed has a value in it.
Of several cells of one column the last one with a value counts.
-/

namespace Campus

/-- A column of the tables. -/
inductive Column
  | shortName
  | address
  | fullName
  | link
  | number
  | seats
  | furniture
  | type
deriving DecidableEq

namespace Column

/-- The columns with the class words that mark them. Of several marks on a cell the first one in
this order counts. -/
def markers : List (String × Column) := [
  ("views-field-field-building-code", shortName),
  ("views-field-field-building-address", address),
  ("views-field-title", fullName),
  ("views-field-nothing", link),
  ("views-field-field-room-number", number),
  ("views-field-field-room-capacity", seats),
  ("views-field-field-room-furniture", furniture),
  ("views-field-field-room-type", type)]

/-- The column a cell belongs to. -/
def ofCell? (cell : Markup.Node) : Option Column :=
  (markers.find? fun marker => cell.hasClass marker.1).map Prod.snd

/-- The first link in a cell. -/
def link? (cell : Markup.Node) : Option Markup.Node :=
  cell.findFirst? fun element => element.tag == "a"

/-- The value of a cell: the text of its link for names and numbers, the target of its link, or its
text. -/
def value? (column : Column) (cell : Markup.Node) : Option String :=
  match column with
  | fullName | number => (link? cell).map fun anchor => Text.trim anchor.fullText
  | link => (link? cell).bind fun anchor => (anchor.attribute? "href").map Text.trim
  | _ => some (Text.trim cell.fullText)

end Column

/-- The columns of a row with their values, in the order of the cells. -/
def rowValues (row : Markup.Node) : List (Column × String) :=
  (row.childElements "td").filterMap fun cell => do
    let column ← Column.ofCell? cell
    let value ← column.value? cell
    return (column, value)

/-- The value of a column in a row. -/
def rowValue? (values : List (Column × String)) (column : Column) : Option String :=
  (values.reverse.find? fun entry => entry.1 == column).map Prod.snd

/-- A building of the index. -/
structure Building where
  fullName : String
  shortName : String
  address : String
deriving DecidableEq

namespace Building

/-- The building of a row. -/
def ofRow? (row : Markup.Node) : Option Building := do
  let values := rowValues row
  return {
    fullName := ← rowValue? values .fullName
    shortName := ← rowValue? values .shortName
    address := ← rowValue? values .address }

/-- The buildings of a tree. -/
def ofTree (root : Markup.Node) : List Building := (root.descendants "tr").filterMap ofRow?

/-- The buildings of an index page. -/
def ofPage (page : String) : List Building := ofTree (Markup.parse page)

end Building

/-- A room of a building. -/
structure Room where
  number : String
  seats : Binary64
  furniture : String
  type : String
  href : String
deriving DecidableEq

namespace Room

/-- The room of a row. Its seats have to read as a number. -/
def ofRow? (row : Markup.Node) : Option Room := do
  let values := rowValues row
  return {
    number := ← rowValue? values .number
    seats := ← (rowValue? values .seats).bind Binary64.ofText?
    furniture := ← rowValue? values .furniture
    type := ← rowValue? values .type
    href := ← rowValue? values .link }

/-- The rooms of a tree. -/
def ofTree (root : Markup.Node) : List Room := (root.descendants "tr").filterMap ofRow?

/-- The rooms of a page. -/
def ofPage (page : String) : List Room := ofTree (Markup.parse page)

end Room
end Campus
