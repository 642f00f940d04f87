import Campus.Proofs.Data.Sorting.Stability
import Campus.Proofs.Query.Aggregates
import Campus.Query.Execution
/-!
# Answers up to the sign of zeros

Sorting compares values of one class only, as long as every column of the rows has its class: the
columns of records have those of their fields, and aggregates are numbers under names that no key
has. Then rows that differ by signs of zeros are put in one order, and a query has the same answer
over records that differ by signs of zeros.
-/

namespace Campus

namespace Record

/-- A record whose values are of the classes given by their keys. -/
def HasClasses (classOf : String → FieldClass) (record : Record) : Prop :=
  ∀ key value, record.get? key = some value → value.fieldClass = classOf key

variable {classOf : String → FieldClass} {record : Record}

/-- Dropping signs of zeros keeps the classes of values. -/
theorem hasClasses_normalize_iff :
    record.normalize.HasClasses classOf ↔ record.HasClasses classOf := by
  constructor
  · intro classes key value found
    rw [← Scalar.fieldClass_groupKey]
    exact classes key value.groupKey (by rw [get?_normalize, found, Option.map_some])
  · intro classes key value found
    rw [get?_normalize, Option.map_eq_some_iff] at found
    obtain ⟨original, found, rfl⟩ := found
    rw [Scalar.fieldClass_groupKey]
    exact classes key original found

/-- The class of the field that a key names in a dataset of some kind. -/
def classOfKey (dataset : String) (kind : DatasetKind) (key : String) : FieldClass :=
  match kind.fields.find? fun field => recordKey dataset field == key with
  | some field => field.fieldClass
  | none => .text

/-- A record of some shape has values of the classes of its fields. -/
theorem hasClasses_of_hasShape {dataset : String} {kind : DatasetKind}
    (shaped : record.HasShape dataset kind) : record.HasClasses (classOfKey dataset kind) := by
  intro key value found
  have listed : key ∈ record.keys := Keyed.mem_keys_iff.2 (by rw [found]; rfl)
  obtain ⟨field, member, rfl⟩ := (shaped.keys key).1 listed
  have located :
      kind.fields.find? (fun other => recordKey dataset other == recordKey dataset field) =
      some field := by
    cases search : kind.fields.find? fun other =>
        recordKey dataset other == recordKey dataset field with
    | none =>
      have differs := List.find?_eq_none.1 search field member
      simp at differs
    | some other =>
      have same := List.find?_some search
      simp only [beq_iff_eq] at same
      rw [recordKey_injective dataset same]
  rw [classOfKey, located]
  exact shaped.classes field member value found

/-- Restricting a record to columns keeps the classes of its values. -/
theorem hasClasses_project (classes : record.HasClasses classOf) (columns : List String) :
    (record.project columns).HasClasses classOf := fun key value found =>
  classes key value (Keyed.get?_filterKeys_eq_some_iff.1 found).1

/-- Restricting a record to columns may happen before or after signs of zeros are dropped. -/
theorem normalize_project (columns : List String) (record : Record) :
    (record.project columns).normalize = record.normalize.project columns :=
  Keyed.map_filterKeys Scalar.groupKey record columns.contains

/-- Put a value into a record, if there is one. -/
def putFound (row : Record) (key : String) : Option Scalar → Record
  | some value => row.insert key value
  | none => row

/-- A value of the right class may be put into a record. -/
theorem hasClasses_putFound {key : String} {found : Option Scalar}
    (classes : record.HasClasses classOf)
    (each : ∀ value, found = some value → value.fieldClass = classOf key) :
    (record.putFound key found).HasClasses classOf := by
  cases found with
  | none => exact classes
  | some value =>
    intro query result stands
    rw [putFound, Keyed.get?_insert] at stands
    split at stands
    · next same =>
      rw [same]
      exact each result stands
    · exact classes query result stands

/-- A value may be put into a record before or after signs of zeros are dropped. -/
theorem normalize_putFound (record : Record) (key : String) (found : Option Scalar) :
    (record.putFound key found).normalize =
      record.normalize.putFound key (found.map Scalar.groupKey) := by
  cases found with
  | none => rfl
  | some value => exact Keyed.map_insert Scalar.groupKey record key value

section

variable {α : Type} {key : α → String} {found other : α → Option Scalar} {row : Record}

/-- Put the values that are found for some elements into a record. -/
def putAll (key : α → String) (found : α → Option Scalar) (row : Record) (elements : List α) :
    Record :=
  elements.foldl (fun row element => row.putFound (key element) (found element)) row

/-- Values of the right classes may be put into a record. -/
theorem hasClasses_putAll {elements : List α} (classes : row.HasClasses classOf)
    (each : ∀ element ∈ elements, ∀ value, found element = some value →
      value.fieldClass = classOf (key element)) :
    (putAll key found row elements).HasClasses classOf := by
  induction elements generalizing row with
  | nil => exact classes
  | cons element rest ih =>
    exact ih (hasClasses_putFound classes (each element List.mem_cons_self))
      fun other member => each other (List.mem_cons_of_mem _ member)

/-- Records into which values are put differ by signs of zeros if they did before and the values
do. -/
theorem normalize_putAll {otherRow : Record} (start : row.normalize = otherRow.normalize)
    (same : ∀ element, (found element).map Scalar.groupKey =
      (other element).map Scalar.groupKey) (elements : List α) :
    (putAll key found row elements).normalize =
      (putAll key other otherRow elements).normalize := by
  induction elements generalizing row otherRow with
  | nil => exact start
  | cons element rest ih =>
    refine ih ?_
    rw [normalize_putFound, normalize_putFound, start, same]

end

end Record

/-- Aggregates are numbers. -/
theorem ApplyRule.fieldClass_of_value? {rule : ApplyRule} {group : List Record} {value : Scalar}
    (found : rule.value? group = some value) : value.fieldClass = .numeric := by
  unfold value? at found
  cases token : rule.token <;> rw [token] at found
  case count =>
    obtain rfl := Option.some.inj found
    rfl
  case max | min | sum =>
    obtain ⟨x, -, rfl⟩ := Option.map_eq_some_iff.1 found
    rfl
  case avg =>
    simp only [Option.bind_eq_bind, Option.bind_eq_some_iff, Option.pure_def,
      Option.some.injEq] at found
    obtain ⟨total, -, mean, -, rfl⟩ := found
    rfl

namespace Transformations

variable {t : Transformations} {classOf : String → FieldClass} {group : List Record}

/-- What the first record of a group shows under the group keys. -/
def shown (t : Transformations) : List Record → Record
  | [] => ∅
  | first :: _ => Record.putAll FieldKey.text (fun key => first.get? key.text) ∅ t.group

/-- A row shows the group keys and then the aggregates. -/
theorem row_eq (t : Transformations) (group : List Record) :
    t.row group = Record.putAll ApplyRule.name (fun rule => rule.value? group) (t.shown group)
      t.apply := by
  cases group <;> rfl

/-- The row of a group without signs of zeros. -/
theorem normalize_row (t : Transformations) (group : List Record) :
    (t.row (group.map Record.normalize)).normalize = (t.row group).normalize := by
  have start : (t.shown (group.map Record.normalize)).normalize = (t.shown group).normalize := by
    cases group with
    | nil => rfl
    | cons first rest =>
      refine Record.normalize_putAll rfl (fun key => ?_) t.group
      simp only [Record.get?_normalize, Option.map_map, Function.comp_def,
        Scalar.groupKey_groupKey]
  rw [row_eq, row_eq]
  exact Record.normalize_putAll start (fun rule => rule.value?_normalize group) t.apply

/-- The classes of the columns of rows: aggregates are numbers, group keys are as in records. -/
def columnClass (t : Transformations) (classOf : String → FieldClass) (column : String) :
    FieldClass :=
  if column ∈ t.apply.map ApplyRule.name then .numeric else classOf column

/-- The columns of a row have their classes when no aggregate has the name of a group key. -/
theorem hasClasses_row (named : ∀ rule ∈ t.apply, '_' ∉ rule.name.toList)
    (classes : ∀ record ∈ group, record.HasClasses classOf) :
    (t.row group).HasClasses (t.columnClass classOf) := by
  have notNamed (key : FieldKey) : key.text ∉ t.apply.map ApplyRule.name := by
    intro member
    obtain ⟨rule, stands, same⟩ := List.mem_map.1 member
    refine named rule stands ?_
    rw [same, FieldKey.text, toList_recordKey]
    simp
  have start : (t.shown group).HasClasses (t.columnClass classOf) := by
    cases group with
    | nil =>
      intro key value found
      cases found
    | cons first rest =>
      refine Record.hasClasses_putAll (fun key value found => by cases found)
        fun key _ value found => ?_
      rw [Transformations.columnClass, if_neg (notNamed key)]
      exact classes first List.mem_cons_self key.text value found
  rw [row_eq]
  refine Record.hasClasses_putAll start fun rule stands value found => ?_
  rw [Transformations.columnClass, if_pos (List.mem_map_of_mem stands)]
  exact ApplyRule.fieldClass_of_value? found

end Transformations
namespace Scalar

/-- Values of one class compare the same with and without signs of zeros. -/
theorem compare_groupKey {left right : Scalar} (same : left.fieldClass = right.fieldClass) :
    left.groupKey.compare right.groupKey = left.compare right := by
  cases left <;> cases right
  case number.number x y => simp [compare]
  case text.text => rfl
  case number.text | text.number => cases same

end Scalar

namespace OrderSpec

variable {classOf : String → FieldClass} {left right : Record}

/-- Rows with classes of columns compare the same with and without signs of zeros. -/
theorem compareBy_normalize (leftClasses : left.HasClasses classOf)
    (rightClasses : right.HasClasses classOf) (columns : List String) :
    compareBy columns left.normalize right.normalize = compareBy columns left right := by
  induction columns with
  | nil => rfl
  | cons column rest ih =>
    have values : compareValues (left.normalize.get? column) (right.normalize.get? column) =
        compareValues (left.get? column) (right.get? column) := by
      rw [Record.get?_normalize, Record.get?_normalize]
      cases first : left.get? column with
      | none => cases right.get? column <;> rfl
      | some x =>
        cases second : right.get? column with
        | none => rfl
        | some y =>
          refine Scalar.compare_groupKey ?_
          rw [leftClasses column x first, rightClasses column y second]
    rw [compareBy, compareBy, values, ih]

/-- Rows with classes of columns are ordered the same with and without signs of zeros. -/
theorem compareRows_normalize (order : OrderSpec) (leftClasses : left.HasClasses classOf)
    (rightClasses : right.HasClasses classOf) :
    order.compareRows left.normalize right.normalize = order.compareRows left right := by
  rw [compareRows, compareRows, compareBy_normalize leftClasses rightClasses]

end OrderSpec

/-- Rows with classes of columns may be put in order before or after signs of zeros are dropped. -/
theorem OrderSpec.sort_normalize (order : OrderSpec) {classOf : String → FieldClass}
    {rows : List Record} (classes : ∀ row ∈ rows, row.HasClasses classOf) :
    order.sort (rows.map Record.normalize) = (order.sort rows).map (List.map Record.normalize) := by
  refine (StableSort.map_sort fun left first right second => ?_).symm
  rw [order.compareRows_normalize (classes left first) (classes right second)]

namespace Query

variable {query : Query} {classOf : String → FieldClass} {records others : List Record}

/-- The rows of a query over records without signs of zeros. -/
theorem candidates_normalize (query : Query) (records : List Record) :
    (query.candidates (records.map Record.normalize)).map Record.normalize =
      (query.candidates records).map Record.normalize := by
  have selected : (records.map Record.normalize).filter (fun r => query.filter.accepts r) =
      (records.filter fun r => query.filter.accepts r).map Record.normalize := by
    rw [List.filter_map]
    simp only [Function.comp_def, Filter.accepts_normalize]
  unfold candidates
  dsimp only
  rw [selected]
  cases query.transformations with
  | none => simp only [List.map_map, Function.comp_def, Record.normalize_normalize]
  | some t =>
    simp only [Transformations.rows, Grouping.groups_normalize, List.map_map, Function.comp_def,
      Transformations.normalize_row]

/-- The columns of the rows of a query have classes, whatever its records. -/
theorem exists_hasClasses_candidates
    (named : ∀ t, query.transformations = some t → ∀ rule ∈ t.apply, '_' ∉ rule.name.toList)
    (classes : ∀ record ∈ records, record.HasClasses classOf) :
    ∃ columnClass, ∀ row ∈ query.candidates records, row.HasClasses columnClass := by
  cases grouped : query.transformations with
  | none =>
    refine ⟨classOf, fun row member => ?_⟩
    rw [candidates, grouped] at member
    exact classes row (List.mem_of_mem_filter member)
  | some t =>
    refine ⟨t.columnClass classOf, fun row member => ?_⟩
    rw [candidates, grouped] at member
    obtain ⟨group, formed, rfl⟩ := List.mem_map.1 member
    have selected : ∀ record ∈ records.filter (fun r => query.filter.accepts r),
        record.HasClasses classOf := fun record member =>
      classes record (List.mem_of_mem_filter member)
    exact Transformations.hasClasses_row (named t grouped)
      (Grouping.forall_mem_groups selected group formed)

/-- Rows may be arranged before or after signs of zeros are dropped. -/
theorem arrange_normalize (query : Query) {rows : List Record}
    (classes : ∀ row ∈ rows, row.HasClasses classOf) :
    query.arrange (rows.map Record.normalize) =
      (query.arrange rows).map (List.map Record.normalize) := by
  unfold arrange
  cases query.order with
  | none => rfl
  | some order => exact order.sort_normalize classes

/-- A query over records that differ by signs of zeros has rows that differ by signs of zeros. -/
theorem execute_normalize
    (named : ∀ t, query.transformations = some t → ∀ rule ∈ t.apply, '_' ∉ rule.name.toList)
    (classes : ∀ record ∈ records, record.HasClasses classOf)
    (same : others.map Record.normalize = records.map Record.normalize) (rowLimit : Nat) :
    (query.execute rowLimit others).map (List.map Record.normalize) =
      (query.execute rowLimit records).map (List.map Record.normalize) := by
  obtain ⟨columnClass, rowClasses⟩ := exists_hasClasses_candidates named classes
  have rows : (query.candidates others).map Record.normalize =
      (query.candidates records).map Record.normalize := by
    rw [← candidates_normalize, same, candidates_normalize]
  have lengths : (query.candidates others).length = (query.candidates records).length := by
    have counted := congrArg List.length rows
    rwa [List.length_map, List.length_map] at counted
  have otherClasses : ∀ row ∈ query.candidates others, row.HasClasses columnClass := by
    intro row member
    have normal : row.normalize ∈ (query.candidates records).map Record.normalize := by
      rw [← rows]
      exact List.mem_map_of_mem member
    obtain ⟨original, found, equal⟩ := List.mem_map.1 normal
    rw [← Record.hasClasses_normalize_iff, ← equal, Record.hasClasses_normalize_iff]
    exact rowClasses original found
  have projected : ((query.candidates others).map (Record.project query.columns)).map
      Record.normalize = ((query.candidates records).map (Record.project query.columns)).map
        Record.normalize := by
    have each (list : List Record) : (list.map (Record.project query.columns)).map
        Record.normalize = (list.map Record.normalize).map (Record.project query.columns) := by
      simp only [List.map_map, Function.comp_def, Record.normalize_project]
    rw [each, each, rows]
  have kept {list : List Record} (sound : ∀ row ∈ list, row.HasClasses columnClass) :
      ∀ row ∈ list.map (Record.project query.columns), row.HasClasses columnClass := by
    intro row member
    obtain ⟨original, found, rfl⟩ := List.mem_map.1 member
    exact Record.hasClasses_project (sound original found) query.columns
  have arranged : (query.arrange ((query.candidates others).map
      (Record.project query.columns))).map (List.map Record.normalize) =
        (query.arrange ((query.candidates records).map
          (Record.project query.columns))).map (List.map Record.normalize) := by
    rw [← query.arrange_normalize (kept otherClasses), projected,
      query.arrange_normalize (kept rowClasses)]
  unfold execute
  dsimp only
  rw [lengths]
  split
  · rfl
  generalize query.arrange _ = mine at arranged ⊢
  generalize query.arrange _ = theirs at arranged ⊢
  cases mine with
  | none =>
    cases theirs with
    | none => rfl
    | some => cases arranged
  | some =>
    cases theirs with
    | none => cases arranged
    | some => exact congrArg Except.ok (Option.some.inj arranged)

/-- Queries are answered the same over records that differ by signs of zeros. -/
theorem execute_toJson
    (named : ∀ t, query.transformations = some t → ∀ rule ∈ t.apply, '_' ∉ rule.name.toList)
    (classes : ∀ record ∈ records, record.HasClasses classOf)
    (same : others.map Record.normalize = records.map Record.normalize) (rowLimit : Nat) :
    (query.execute rowLimit others).map (List.map Record.toJson) =
      (query.execute rowLimit records).map (List.map Record.toJson) := by
  have written (outcome : Except QueryError (List Record)) :
      outcome.map (List.map Record.toJson) =
        (outcome.map (List.map Record.normalize)).map (List.map Record.toJson) := by
    cases outcome with
    | error error => rfl
    | ok rows =>
      simp only [Except.map, List.map_map, Function.comp_def, Record.toJson_normalize]
  rw [written, execute_normalize named classes same, ← written]

end Query
end Campus
