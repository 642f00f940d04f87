import Campus.Ingest.Sections
import Campus.Proofs.Dataset.Shape
import Campus.Proofs.Json.Forms
import Campus.Proofs.Json.Lexing
/-!
# What a course file gives

A course file is JSON text of an object with one array under `result`, or of an array that holds
that array alone, and every element of the array has a value. Any other bytes are unreadable. Of a
course file each element gives the record of a section or none, and only the element itself decides
which: it has to have all attributes of a section and, unless it sums up a course, a year that can
be read.
-/

namespace Campus

namespace CourseFile

open Json

/-- A tree has the form of a course file with some elements: an object with readable keys that has
the array of the elements under `result` and nothing else under it, or an array of that array
alone. -/
inductive IsForm (items : List Source) : Source → Prop
  | object {members : Entries Source}
    (result : members.filter (fun member => member.1 == "result") = [("result", .array items)]) :
    IsForm items (.object (members.map fun member => (some member.1, member.2)))
  | positional : IsForm items (.array [.array items])

/-- Bytes are a course file with some elements: JSON text of its form, each element of which has a
value. The elements stand two containers deep. -/
def Spells (docs : List Json) (bytes : List UInt8) : Prop :=
  ∃ source items, source.IsSpelled bytes ∧ IsForm items source ∧
    List.Forall₂ (fun item doc => Source.toJson? (Source.nestingLimit - 2) item = some doc)
      items docs

/-- The array is found in an object exactly if the keys are readable and it stands alone under its
key. -/
theorem result_of_members {members : List (Option String × Source)} {items : List Source} :
    ((Fields.ofMembers? ["result"] members).bind fun fields =>
      fields.required "result" Source.items) = some items ↔ IsForm items (.object members) := by
  have known (keyed : Entries Source) : keyed.filter (fun member => ["result"].contains member.1) =
      keyed.filter fun member => member.1 == "result" :=
    List.filter_congr fun member _ => Bool.eq_iff_iff.2 (by simp)
  have same (keyed : Entries Source) :
      ∀ member ∈ keyed.filter (fun member => member.1 == "result"), member.1 = "result" :=
    fun member kept => beq_iff_eq.1 (List.mem_filter.1 kept).2
  constructor
  · intro found
    obtain ⟨fields, hasFields, hasItems⟩ := Option.bind_eq_some_iff.1 found
    obtain ⟨value, stands, isArray⟩ := Option.bind_eq_some_iff.1 hasItems
    unfold Fields.ofMembers? at hasFields
    split at hasFields
    · cases hasFields
    · next keyed readable =>
      obtain rfl := Fields.keyed_eq_some_iff.1 readable
      obtain rfl := Source.items_eq_some_iff.1 isArray
      dsimp only at hasFields
      rw [known] at hasFields
      split at hasFields
      · next distinct =>
        cases hasFields
        exact .object ((Fields.eq_single_iff (same keyed)).2 ⟨distinct, stands⟩)
      · cases hasFields
  · rintro ⟨alone⟩
    obtain ⟨distinct, stands⟩ := (Fields.eq_single_iff (same _)).1 alone
    rw [Fields.ofMembers?, Fields.keyed_eq_some_iff.2 rfl]
    dsimp only
    rw [known, if_pos distinct, Option.bind_some, Fields.required, stands]
    rfl

/-- The array is found exactly if the tree has the form of a course file with its items. -/
theorem required_result_eq_some_iff {source : Source} {items : List Source} :
    ((source.fields? ["result"]).bind fun fields => fields.required "result" Source.items) =
      some items ↔ IsForm items source := by
  cases source with
  | object members => exact result_of_members
  | array values =>
    constructor
    · intro found
      cases values with
      | nil => cases found
      | cons value others =>
        cases others with
        | nil =>
          obtain rfl := Source.items_eq_some_iff.1 found
          exact .positional
        | cons second rest => simp [Source.fields?, Fields.ofItems?] at found
    · rintro ⟨⟩
      rfl
  | _ => exact ⟨nofun, nofun⟩

/-- A course file is read exactly if the bytes are one. -/
theorem parse?_eq_some_iff {bytes : List UInt8} {docs : List Json} :
    parse? bytes = some ⟨docs⟩ ↔ Spells docs bytes := by
  simp only [parse?, Option.bind_eq_bind, Option.bind_eq_some_iff, Source.parse?_eq_some_iff]
  constructor
  · rintro ⟨source, spelled, fields, hasFields, items, found, results, read, same⟩
    cases same
    refine ⟨source, items, spelled, ?_, mapM_eq_some_iff_forall₂.1 read⟩
    rw [← required_result_eq_some_iff, hasFields, Option.bind_some, found]
  · rintro ⟨source, items, spelled, form, read⟩
    obtain ⟨fields, hasFields, found⟩ :=
      Option.bind_eq_some_iff.1 (required_result_eq_some_iff.2 form)
    exact ⟨source, spelled, fields, hasFields, items, found, docs,
      mapM_eq_some_iff_forall₂.2 read, rfl⟩

/-- The objects among the elements of a course file hold every key once. -/
theorem Spells.hasDistinctKeys {bytes : List UInt8} {docs : List Json}
    (spelled : Spells docs bytes) : ∀ doc ∈ docs, doc.HasDistinctKeys := by
  obtain ⟨_, _, -, -, read⟩ := spelled
  induction read with
  | nil => exact nofun
  | cons first _ ih => exact List.forall_mem_cons.2 ⟨hasDistinctKeys_of_toJson? first, ih⟩

end CourseFile

namespace SectionElement

/-- What stands in an element under the name of an attribute: in an object under that key, in an
array, if it is not too long, at the place of the name. -/
def attribute? (doc : Json) (name : String) : Option Json :=
  match doc with
  | .object members => Entries.get? name members
  | .array items => if items.length ≤ declared.length then items[declared.idxOf name]? else none
  | _ => none

/-- A number or a text is written as a document. -/
inductive IsWritten : Scalar → Json → Prop
  | number (n : JsonNumber) : IsWritten (.number n.toBinary64) (.number n)
  | text (s : String) : IsWritten (.text s) (.text s)

/-- A section is absent from a row, or null, or a text. -/
inductive IsMarked : Option String → Option Json → Prop
  | absent : IsMarked none none
  | null : IsMarked none (some .null)
  | text (s : String) : IsMarked (some s) (some (.text s))

/-- An element gives all attributes of a section. -/
structure IsGiven (doc : Json) (element : SectionElement) : Prop where
  uuid : ∃ value, attribute? doc "id" = some value ∧ IsWritten element.uuid value
  course : attribute? doc "Course" = some (.text element.course)
  title : attribute? doc "Title" = some (.text element.title)
  professor : attribute? doc "Professor" = some (.text element.professor)
  subject : attribute? doc "Subject" = some (.text element.subject)
  year : ∃ value, attribute? doc "Year" = some value ∧ IsWritten element.year value
  avg : ∃ n, attribute? doc "Avg" = some (.number n) ∧ n.toBinary64 = element.avg
  pass : ∃ n, attribute? doc "Pass" = some (.number n) ∧ n.toBinary64 = element.pass
  fail : ∃ n, attribute? doc "Fail" = some (.number n) ∧ n.toBinary64 = element.fail
  audit : ∃ n, attribute? doc "Audit" = some (.number n) ∧ n.toBinary64 = element.audit
  «section» : IsMarked element.section (attribute? doc "Section")

/-- The year of a section. -/
inductive HasYear (element : SectionElement) : Binary64 → Prop
  /-- A row that sums up a course is given the year of such rows, whatever its own says. -/
  | overall (marked : element.section = some "overall") : HasYear element (.ofNat 1900)
  | number {year : Binary64} (unmarked : element.section ≠ some "overall")
    (given : element.year = .number year) : HasYear element year
  | text {text : String} {year : Binary64} (unmarked : element.section ≠ some "overall")
    (given : element.year = .text text) (reads : Binary64.ofText? (Text.trim text) = some year) :
    HasYear element year

/-- The values of a section with its year. -/
def value? (element : SectionElement) (year : Binary64) : Field → Option Scalar
  | .uuid => some (.text element.uuid.display)
  | .id => some (.text element.course)
  | .title => some (.text element.title)
  | .instructor => some (.text element.professor)
  | .dept => some (.text element.subject)
  | .year => some (.number year)
  | .avg => some (.number element.avg)
  | .pass => some (.number element.pass)
  | .fail => some (.number element.fail)
  | .audit => some (.number element.audit)
  | .fullname | .shortname | .number | .name | .address | .lat | .lon | .seats | .type | .furniture
  | .href => none

/-- What an element gives in a dataset. -/
inductive Gives (dataset : String) (doc : Json) : Option Record → Prop
  /-- A section with a year has a record with its values. -/
  | record {element : SectionElement} {year : Binary64} {record : Record}
    (given : IsGiven doc element) (hasYear : element.HasYear year)
    (shows : record.Shows dataset (element.value? year)) : Gives dataset doc (some record)
  /-- Any other element is skipped. -/
  | skipped (noSection : ∀ element year, IsGiven doc element → ¬element.HasYear year) :
    Gives dataset doc none

section reading

variable {doc : Json} {fields : Json.Fields Json} {element : SectionElement}

/-- Fields are the attributes of an element. -/
def AreOf (fields : Json.Fields Json) (doc : Json) : Prop :=
  ∀ name ∈ declared, fields.entries.get? name = attribute? doc name

/-- An element without fields has no id. -/
theorem attribute?_id_of_fields? (distinct : doc.HasDistinctKeys)
    (none : doc.fields? declared = none) : attribute? doc "id" = .none := by
  cases doc with
  | object members =>
    rw [Json.fields?_object (distinct members rfl)] at none
    cases none
  | array items =>
    rw [Json.fields?, Json.Fields.ofItems?] at none
    split at none
    · cases none
    · next long => rw [attribute?, if_neg long]
  | _ => rfl

/-- A required field is what is read of an attribute. -/
theorem required_eq {α : Type} (read : Json → Option α) (areOf : AreOf fields doc) {name : String}
    (member : name ∈ declared) : fields.required name read = (attribute? doc name).bind read := by
  rw [Json.Fields.required, areOf name member]

/-- A number or a text is required as it is written. -/
theorem required_scalar_iff (areOf : AreOf fields doc) {name : String} (member : name ∈ declared)
    {scalar : Scalar} :
    fields.required name Scalar.ofJson? = some scalar ↔
      ∃ value, attribute? doc name = some value ∧ IsWritten scalar value := by
  have written (value : Json) : Scalar.ofJson? value = some scalar ↔ IsWritten scalar value := by
    constructor
    · intro read
      cases value with
      | number n =>
        cases read
        exact .number n
      | text s =>
        cases read
        exact .text s
      | _ => cases read
    · rintro (_ | _) <;> rfl
  simp only [required_eq _ areOf member, Option.bind_eq_some_iff, written]

/-- A text is required as it stands. -/
theorem required_text_iff (areOf : AreOf fields doc) {name : String} (member : name ∈ declared)
    {text : String} :
    fields.required name Json.text? = some text ↔ attribute? doc name = some (.text text) := by
  have written (value : Json) : value.text? = some text ↔ value = .text text := by
    cases value <;> simp [Json.text?]
  simp only [required_eq _ areOf member, Option.bind_eq_some_iff, written, exists_eq_right]

/-- A number is required as its nearest value. -/
theorem required_number_iff (areOf : AreOf fields doc) {name : String} (member : name ∈ declared)
    {x : Binary64} :
    fields.required name Json.number? = some x ↔
      ∃ n, attribute? doc name = some (.number n) ∧ n.toBinary64 = x := by
  have written (value : Json) :
      value.number? = some x ↔ ∃ n, value = .number n ∧ n.toBinary64 = x := by
    cases value <;> simp [Json.number?]
  simp only [required_eq _ areOf member, Option.bind_eq_some_iff, written]
  constructor
  · rintro ⟨_, found, n, rfl, same⟩
    exact ⟨n, found, same⟩
  · rintro ⟨n, found, same⟩
    exact ⟨_, found, n, rfl, same⟩

/-- The section of a row is what marks it. -/
theorem section_eq_some_iff (areOf : AreOf fields doc) {marked : Option String} :
    (fields.withDefault "Section" none fun value =>
        if value.isNull then some none else value.text?.map some) = some marked ↔
      IsMarked marked (attribute? doc "Section") := by
  rw [Json.Fields.withDefault, areOf "Section" (by decide)]
  generalize attribute? doc "Section" = given
  constructor
  · intro read
    cases given with
    | none =>
      cases read
      exact .absent
    | some value =>
      cases value with
      | null =>
        cases read
        exact .null
      | text s =>
        cases read
        exact .text s
      | _ => cases read
  · intro isMarked
    cases isMarked <;> rfl

/-- The fields that are found in an element are its attributes. -/
theorem areOf_of_fields? (found : doc.fields? declared = some fields) : AreOf fields doc := by
  intro name member
  cases doc with
  | object members =>
    rw [Json.fields?, Json.Fields.ofMembers?, Json.Fields.keyed_eq_some_iff.2 rfl] at found
    dsimp only at found
    split at found
    · cases found
      exact Entries.get?_filter (List.contains_iff_mem.2 member) members
    · cases found
  | array items =>
    rw [Json.fields?, Json.Fields.ofItems?] at found
    split at found
    · next short =>
      cases found
      rw [attribute?, if_pos short]
      exact Entries.get?_zip member items
    · cases found
  | _ => cases found

/-- An element with fields is read as a section exactly if it gives the attributes of that
section. -/
theorem ofJson?_eq_some_iff_of_fields? (found : doc.fields? declared = some fields) :
    ofJson? doc = some element ↔ IsGiven doc element := by
  have areOf := areOf_of_fields? found
  simp only [ofJson?, found, Option.bind_eq_bind, Option.bind_some, Option.bind_eq_some_iff,
    Option.pure_def, Option.some.injEq]
  simp (disch := decide) only [section_eq_some_iff areOf, required_scalar_iff areOf,
    required_text_iff areOf, required_number_iff areOf]
  constructor
  · rintro ⟨_, uuid, _, course, _, title, _, professor, _, subject, _, year, _, avg, _, pass, _,
      fail, _, audit, _, marked, rfl⟩
    exact ⟨uuid, course, title, professor, subject, year, avg, pass, fail, audit, marked⟩
  · rintro ⟨uuid, course, title, professor, subject, year, avg, pass, fail, audit, marked⟩
    exact ⟨_, uuid, _, course, _, title, _, professor, _, subject, _, year, _, avg, _, pass, _,
      fail, _, audit, _, marked, rfl⟩

/-- What is read as a section gives its attributes. -/
theorem isGiven_of_ofJson? (read : ofJson? doc = some element) : IsGiven doc element := by
  cases found : doc.fields? declared with
  | none =>
    rw [ofJson?, found] at read
    cases read
  | some fields => exact (ofJson?_eq_some_iff_of_fields? found).1 read

/-- An element is read as a section exactly if it gives the attributes of that section. -/
theorem ofJson?_eq_some_iff (distinct : doc.HasDistinctKeys) :
    ofJson? doc = some element ↔ IsGiven doc element := by
  refine ⟨isGiven_of_ofJson?, fun given => ?_⟩
  cases found : doc.fields? declared with
  | none =>
    obtain ⟨value, stands, -⟩ := given.uuid
    cases (attribute?_id_of_fields? distinct found).symm.trans stands
  | some fields => exact (ofJson?_eq_some_iff_of_fields? found).2 given

/-- A section has the year that is read from it. -/
theorem year?_eq_some_iff {year : Binary64} :
    element.year? = some year ↔ element.HasYear year := by
  by_cases marked : element.section = some "overall"
  · rw [year?, if_pos marked]
    constructor
    · intro same
      rw [← Option.some.inj same]
      exact .overall marked
    · intro hasYear
      cases hasYear with
      | overall => rfl
      | number unmarked => exact absurd marked unmarked
      | text unmarked => exact absurd marked unmarked
  · rw [year?, if_neg marked]
    constructor
    · intro read
      split at read
      · next given =>
        cases read
        exact .number marked given
      · next given => exact .text marked given read
    · intro hasYear
      cases hasYear with
      | overall isMarked => exact absurd isMarked marked
      | number _ given => rw [given]
      | text _ given reads =>
        rw [given]
        exact reads

end reading

/-- The record of a section shows its values. -/
theorem shows_record (dataset : String) (element : SectionElement) (year : Binary64) :
    Record.Shows dataset (element.value? year) (Record.ofFields dataset
      [(.uuid, .text element.uuid.display), (.id, .text element.course),
        (.title, .text element.title), (.instructor, .text element.professor),
        (.dept, .text element.subject), (.year, .number year), (.avg, .number element.avg),
        (.pass, .number element.pass), (.fail, .number element.fail),
        (.audit, .number element.audit)]) := by
  refine Record.shows_ofFields dataset (by simp) fun field => ?_
  cases field <;> rfl

/-- An element gives what is read of it. -/
theorem gives_record? (dataset : String) {doc : Json} (distinct : doc.HasDistinctKeys) :
    Gives dataset doc ((ofJson? doc).bind (record? dataset)) := by
  cases read : ofJson? doc with
  | none =>
    refine .skipped fun element _ given _ => ?_
    cases read.symm.trans ((ofJson?_eq_some_iff distinct).2 given)
  | some element =>
    have given := (ofJson?_eq_some_iff distinct).1 read
    rw [Option.bind_some, record?]
    cases hasYear : element.year? with
    | none =>
      refine .skipped fun other year again otherYear => ?_
      obtain rfl : element = other :=
        Option.some.inj (read.symm.trans ((ofJson?_eq_some_iff distinct).2 again))
      cases hasYear.symm.trans (year?_eq_some_iff.2 otherYear)
    | some year =>
      exact .record given (year?_eq_some_iff.1 hasYear) (shows_record dataset element year)

end SectionElement

/-- Bytes give records exactly if they are a course file. Each element gives its own record or none,
whatever stands before and after it, in whichever file, and the records keep the order. -/
theorem courseFileRecords_of_elements (dataset : String) :
    ∃ recordOf : Json → Option Record, ∀ (name : String) (bytes : List UInt8),
      (courseFileRecords dataset name bytes = .error (.unreadableFile name) ↔
        ¬∃ docs, CourseFile.Spells docs bytes) ∧
      ∀ docs, CourseFile.Spells docs bytes →
        courseFileRecords dataset name bytes = .ok (docs.filterMap recordOf) ∧
          ∀ doc ∈ docs, SectionElement.Gives dataset doc (recordOf doc) := by
  refine ⟨fun doc => (SectionElement.ofJson? doc).bind (SectionElement.record? dataset),
    fun name bytes => ⟨?_, fun docs spelled => ⟨?_, fun doc member => ?_⟩⟩⟩
  · cases read : CourseFile.parse? bytes with
    | none =>
      rw [courseFileRecords, read, eq_self_iff_true, true_iff]
      rintro ⟨docs, spelled⟩
      cases read.symm.trans (CourseFile.parse?_eq_some_iff.2 spelled)
    | some file =>
      have spelled := CourseFile.parse?_eq_some_iff.1 read
      rw [courseFileRecords, read]
      exact ⟨nofun, fun unread => absurd ⟨_, spelled⟩ unread⟩
  · rw [courseFileRecords, CourseFile.parse?_eq_some_iff.2 spelled]
    rfl
  · exact SectionElement.gives_record? dataset (spelled.hasDistinctKeys doc member)

namespace CourseFile

open Json

/-- A file with a member besides the array. A row of the array sums up a course and has no year that
can be read, one is written as an array, and one is no section. -/
def mixedRows : List UInt8 :=
  Bytes.ofText <| "\x7b\"rank\":1e999,\"result\":[" ++
    "\x7b\"id\":7,\"Course\":\"110\",\"Title\":\"\",\"Professor\":\"\",\"Subject\":\"cpsc\"," ++
    "\"Year\":\"n/a\",\"Avg\":70.5,\"Pass\":1,\"Fail\":0,\"Audit\":0," ++
    "\"Section\":\"overall\"\x7d," ++
    "[\"x\",\"110\",\"\",\"\",\"cpsc\",\" 2015 \",80,1,0,0]," ++
    "\x7b\"id\":\"x\",\"Year\":2015\x7d]\x7d"

/-- The first two rows have a record each, with the year of such rows and the one that is read. -/
theorem courseFileRecords_mixedRows :
    ∃ (docs : List Json) (recordOf : Json → Option Record), Spells docs mixedRows ∧
      courseFileRecords "courses" "courses/a" mixedRows = .ok (docs.filterMap recordOf) ∧
      (∀ doc ∈ docs, SectionElement.Gives "courses" doc (recordOf doc)) ∧
      (docs.filterMap recordOf).map (fun record => record.get? "courses_year") =
        [some (.number (.ofNat 1900)), some (.number (.ofNat 2015))] := by
  obtain ⟨recordOf, each⟩ := courseFileRecords_of_elements "courses"
  obtain ⟨⟨docs⟩, read⟩ := Option.isSome_iff_exists.1
    (show (parse? mixedRows).isSome = true by decide +kernel)
  have spelled := parse?_eq_some_iff.1 read
  obtain ⟨records, gives⟩ := (each "courses/a" mixedRows).2 docs spelled
  have years : (courseFileRecords "courses" "courses/a" mixedRows).toOption.map
      (fun records => records.map fun record => record.get? "courses_year") =
        some [some (.number (.ofNat 1900)), some (.number (.ofNat 2015))] := by decide +kernel
  rw [records] at years
  exact ⟨docs, recordOf, spelled, records, gives, Option.some.inj years⟩

/-- A course file with a number that is too large for binary64. -/
def hugeNumber : List UInt8 := Bytes.ofText "\x7b\"result\":[1e400]\x7d"

/-- A file of the right form is refused for a number that is too large. -/
theorem unreadable_hugeNumber :
    (∃ source items, source.IsSpelled hugeNumber ∧ IsForm items source) ∧
      courseFileRecords "courses" "courses/a" hugeNumber =
        .error (.unreadableFile "courses/a") := by
  have spelled : Token.scan hugeNumber =
      some (Source.object [(some "result", .array [.number none])]).tokens := by decide +kernel
  have unread : parse? hugeNumber = none := Option.isNone_iff_eq_none.1 (by decide +kernel)
  refine ⟨⟨_, [.number none], Token.scan_eq_some_iff.1 spelled, ?_⟩, ?_⟩
  · exact @IsForm.object _ [("result", .array [.number none])] rfl
  · rw [courseFileRecords, unread]

end CourseFile
end Campus
