/-!
# Fields

The fields a record can have: ten describe a course section and eleven describe a room. A field is
numeric or textual once and for all, which decides the comparisons and aggregates it takes part in.
-/

namespace Campus

/-- What the values of a field are. -/
inductive FieldClass
  | numeric
  | text
deriving DecidableEq

/-- A field of a section or of a room. -/
inductive Field
  | uuid | id | title | instructor | dept | year | avg | pass | fail | audit
  | fullname | shortname | number | name | address | lat | lon | seats | type | furniture | href
deriving DecidableEq

namespace Field

/-- The fields of a course section. -/
def ofSections : List Field :=
  [.uuid, .id, .title, .instructor, .dept, .year, .avg, .pass, .fail, .audit]

/-- The fields of a room. -/
def ofRooms : List Field :=
  [.fullname, .shortname, .number, .name, .address, .lat, .lon, .seats, .type, .furniture, .href]

/-- All fields, the ones of sections first. -/
def all : List Field := ofSections ++ ofRooms

/-- The name that queries and record keys use. -/
def label : Field → String
  | .uuid => "uuid"
  | .id => "id"
  | .title => "title"
  | .instructor => "instructor"
  | .dept => "dept"
  | .year => "year"
  | .avg => "avg"
  | .pass => "pass"
  | .fail => "fail"
  | .audit => "audit"
  | .fullname => "fullname"
  | .shortname => "shortname"
  | .number => "number"
  | .name => "name"
  | .address => "address"
  | .lat => "lat"
  | .lon => "lon"
  | .seats => "seats"
  | .type => "type"
  | .furniture => "furniture"
  | .href => "href"

/-- The field with a given name. -/
def ofLabel? (label : String) : Option Field := all.find? fun field => field.label == label

/-- Years, counts, averages, seats and coordinates are numbers; all else is text. -/
def fieldClass : Field → FieldClass
  | .year | .avg | .pass | .fail | .audit | .lat | .lon | .seats => .numeric
  | _ => .text

/-- Whether the values of a field are numbers. -/
def isNumeric (field : Field) : Bool := field.fieldClass == .numeric

/-- A field is found under its own name. -/
theorem ofLabel?_label (field : Field) : ofLabel? field.label = some field := by
  cases field <;> decide

/-- Only its own name finds a field. -/
theorem label_of_ofLabel? {name : String} {field : Field} (found : ofLabel? name = some field) :
    field.label = name := by
  have matched := List.find?_some found
  exact eq_of_beq matched

/-- Names tell fields apart. -/
theorem label_injective {left right : Field} (same : left.label = right.label) : left = right := by
  have found := ofLabel?_label left
  rw [same, ofLabel?_label right] at found
  exact (Option.some.inj found).symm

end Field
end Campus
