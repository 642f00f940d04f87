import Campus.Dataset.Written
import Campus.Ingest.Error
import Campus.Json.Source
import Campus.Number.Reading
/-!
# Course sections

A course file holds an array of elements under `result`. An element that gives all attributes of a
section becomes a record, any other element is skipped. Rows that sum up a course over all years are
marked `overall` and get a year of their own.
-/

namespace Campus

/-- A section as a course file gives it. -/
structure SectionElement where
  uuid : Scalar
  course : String
  title : String
  professor : String
  subject : String
  year : Scalar
  avg : Binary64
  pass : Binary64
  fail : Binary64
  audit : Binary64
  «section» : Option String

namespace SectionElement

/-- The names of the attributes in course files, in their order. -/
def declared : List String :=
  ["id", "Course", "Title", "Professor", "Subject", "Year", "Avg", "Pass", "Fail", "Audit",
    "Section"]

/-- The section that an element of a course file gives. -/
def ofJson? (doc : Json) : Option SectionElement := do
  let fields ← doc.fields? declared
  return {
    uuid := ← fields.required "id" Scalar.ofJson?
    course := ← fields.required "Course" Json.text?
    title := ← fields.required "Title" Json.text?
    professor := ← fields.required "Professor" Json.text?
    subject := ← fields.required "Subject" Json.text?
    year := ← fields.required "Year" Scalar.ofJson?
    avg := ← fields.required "Avg" Json.number?
    pass := ← fields.required "Pass" Json.number?
    fail := ← fields.required "Fail" Json.number?
    audit := ← fields.required "Audit" Json.number?
    «section» := ← fields.withDefault "Section" none fun value =>
      if value.isNull then some none else value.text?.map some }

/-- The year of rows over all years. -/
def overallYear : Binary64 := .ofNat 1900

/-- The year: the one of rows over all years, or the given number, or the number a text reads as. -/
def year? (element : SectionElement) : Option Binary64 :=
  if element.section = some "overall" then some overallYear
  else match element.year with
    | .number year => some year
    | .text year => Binary64.ofText? (Text.trim year)

/-- The record of a section in a dataset, if its year can be read. -/
def record? (dataset : String) (element : SectionElement) : Option Record :=
  element.year?.map fun year => Keyed.ofList [
    (recordKey dataset .uuid, .text element.uuid.display),
    (recordKey dataset .id, .text element.course),
    (recordKey dataset .title, .text element.title),
    (recordKey dataset .instructor, .text element.professor),
    (recordKey dataset .dept, .text element.subject),
    (recordKey dataset .year, .number year),
    (recordKey dataset .avg, .number element.avg),
    (recordKey dataset .pass, .number element.pass),
    (recordKey dataset .fail, .number element.fail),
    (recordKey dataset .audit, .number element.audit)]

end SectionElement

/-- A course file. -/
structure CourseFile where
  /-- The elements under `result`. -/
  result : List Json

namespace CourseFile

/-- The course file that bytes spell. Its elements stand two containers deep. -/
def parse? (bytes : List UInt8) : Option CourseFile := do
  let fields ← (← Json.Source.parse? bytes).fields? ["result"]
  let items ← fields.required "result" Json.Source.items
  let result ← items.mapM (Json.Source.toJson? (Json.Source.nestingLimit - 2))
  return ⟨result⟩

/-- The records of the elements that give sections, in their order. -/
def records (dataset : String) (file : CourseFile) : List Record :=
  file.result.filterMap fun doc =>
    (SectionElement.ofJson? doc).bind (SectionElement.record? dataset)

end CourseFile

/-- The records of a course file. -/
def courseFileRecords (dataset name : String) (bytes : List UInt8) :
    Except IngestError (List Record) :=
  match CourseFile.parse? bytes with
  | some file => .ok (file.records dataset)
  | none => .error (.unreadableFile name)

end Campus
