import Campus.Proofs.Data.Keyed
import Campus.Proofs.Query.Keys
import Mathlib.Data.List.Nodup
import Mathlib.Data.List.TakeWhile
/-!
# The shape of datasets

A record of a kind has a value for every field of that kind and nothing else, and each value is of
the class of its field. A dataset is well formed when its id can be told from a field name, it
announces the records it holds, there is one, and all of them have the shape of its kind.
-/

namespace Campus

/-- Numbers are values of numeric fields, texts of textual ones. -/
def Scalar.fieldClass : Scalar → FieldClass
  | number _ => .numeric
  | text _ => .text

/-- The keys of a record are the keys of the fields of a kind in a dataset, and its values are of
the classes of those fields. -/
structure Record.HasShape (dataset : String) (kind : DatasetKind) (record : Record) : Prop where
  keys : ∀ key, key ∈ record.keys ↔ ∃ field ∈ kind.fields, key = recordKey dataset field
  classes : ∀ field ∈ kind.fields, ∀ value, record.get? (recordKey dataset field) = some value →
    value.fieldClass = field.fieldClass

/-- A dataset as ingestion makes it. -/
structure Dataset.IsWellFormed (d : Dataset) : Prop where
  notBlank : ∃ c ∈ d.id.toList, Text.isBlank c = false
  noUnderscore : '_' ∉ d.id.toList
  announced : d.numRows = d.data.length
  someRecord : 1 ≤ d.data.length
  records : ∀ record ∈ d.data, record.HasShape d.id d.kind

/-- Trimming leaves nothing exactly when every character is blank. -/
theorem Text.trimChars_eq_nil_iff (chars : List Char) :
    trimChars chars = [] ↔ ∀ c ∈ chars, Text.isBlank c = true := by
  rw [← List.dropWhile_eq_nil_iff]
  unfold trimChars dropTail
  constructor
  · intro empty
    rw [List.reverse_eq_nil_iff, List.dropWhile_eq_nil_iff] at empty
    -- What is left after dropping would start with a character that is not blank.
    by_contra left
    have blank := empty _ (List.mem_reverse.2 (List.head_mem left))
    rw [List.head_dropWhile_not isBlank left] at blank
    cases blank
  · intro empty
    simp [empty]

/-- A usable id is not blank and has no underscore. -/
theorem isValidDatasetId_iff {id : String} :
    isValidDatasetId id = true ↔
      (∃ c ∈ id.toList, Text.isBlank c = false) ∧ '_' ∉ id.toList := by
  have blank : Text.trimChars id.toList ≠ [] ↔ ∃ c ∈ id.toList, Text.isBlank c = false := by
    rw [Ne, Text.trimChars_eq_nil_iff]
    simp
  rw [← blank]
  simp [isValidDatasetId]

/-- Record keys of one dataset tell fields apart. -/
theorem recordKey_injective (dataset : String) : Function.Injective (recordKey dataset) := by
  intro left right same
  have chars := congrArg String.toList same
  rw [toList_recordKey, toList_recordKey] at chars
  have labels := (List.cons.inj (List.append_cancel_left chars)).2
  exact Field.label_injective (String.toList_inj.1 labels)

/-- No kind has a field twice. -/
theorem DatasetKind.fields_nodup (kind : DatasetKind) : kind.fields.Nodup := by
  cases kind <;> decide

namespace Record

/-- The record with given values of fields in a dataset. -/
def ofFields (dataset : String) (values : List (Field × Scalar)) : Record :=
  Keyed.ofList (values.map fun entry => (recordKey dataset entry.1, entry.2))

/-- A record shows given values of fields, under the keys of a dataset, and nothing else. -/
structure Shows (dataset : String) (value? : Field → Option Scalar) (record : Record) : Prop where
  values : ∀ field, record.get? (recordKey dataset field) = value? field
  keys : ∀ key ∈ record.keys, ∃ field, key = recordKey dataset field

/-- The keys of listed values. -/
theorem map_fst_keyed (dataset : String) (values : List (Field × Scalar)) :
    (values.map fun entry => (recordKey dataset entry.1, entry.2)).map Prod.fst =
      (values.map Prod.fst).map (recordKey dataset) := by
  simp only [List.map_map]
  rfl

/-- A field of a record of some values is the one that is given for it. -/
theorem get?_ofFields (dataset : String) {values : List (Field × Scalar)}
    (distinct : (values.map Prod.fst).Nodup) (field : Field) :
    (ofFields dataset values).get? (recordKey dataset field) =
      (values.find? fun entry => entry.1 == field).map Prod.snd := by
  have nodup := distinct.map (recordKey_injective dataset)
  rw [← map_fst_keyed] at nodup
  rw [ofFields, Keyed.get?_ofList_of_nodup nodup]
  clear distinct nodup
  induction values with
  | nil => rfl
  | cons entry rest ih =>
    have sameKey : recordKey dataset field = recordKey dataset entry.1 ↔ field = entry.1 :=
      (recordKey_injective dataset).eq_iff
    rw [List.map_cons, Entries.get?_cons, List.find?_cons, ih]
    by_cases same : field = entry.1
    · simp [same]
    · rw [if_neg (mt sameKey.1 same), beq_false_of_ne (Ne.symm same)]

/-- The record of some values shows them if no field is given twice. -/
theorem shows_ofFields (dataset : String) {values : List (Field × Scalar)}
    (distinct : (values.map Prod.fst).Nodup) {value? : Field → Option Scalar}
    (given : ∀ field, value? field =
      (values.find? fun entry => entry.1 == field).map Prod.snd) :
    (ofFields dataset values).Shows dataset value? where
  values field := by rw [get?_ofFields dataset distinct, given]
  keys key member := by
    rw [ofFields, Keyed.mem_keys_ofList_iff, map_fst_keyed, List.mem_map] at member
    obtain ⟨field, -, rfl⟩ := member
    exact ⟨field, rfl⟩

/-- The record of one value of the right class for every field of a kind has the shape of that
kind. -/
theorem hasShape_ofFields (dataset : String) (kind : DatasetKind) (values : List (Field × Scalar))
    (complete : (values.map Prod.fst).Perm kind.fields)
    (classes : ∀ entry ∈ values, entry.2.fieldClass = entry.1.fieldClass) :
    (ofFields dataset values).HasShape dataset kind := by
  have nodup : ((values.map fun entry => (recordKey dataset entry.1, entry.2)).map
      Prod.fst).Nodup := by
    rw [map_fst_keyed]
    exact List.Nodup.map (recordKey_injective dataset) (complete.nodup_iff.2 kind.fields_nodup)
  constructor
  · intro key
    rw [ofFields, Keyed.mem_keys_ofList_iff, map_fst_keyed, List.mem_map]
    constructor
    · rintro ⟨field, member, rfl⟩
      exact ⟨field, complete.mem_iff.1 member, rfl⟩
    · rintro ⟨field, member, rfl⟩
      exact ⟨field, complete.mem_iff.2 member, rfl⟩
  · intro field _ value found
    rw [ofFields, Keyed.get?_ofList_of_nodup nodup] at found
    have stands := Entries.mem_of_get? found
    obtain ⟨entry, member, same⟩ := List.mem_map.1 stands
    obtain ⟨keys, rfl⟩ := Prod.mk.inj same
    rw [← recordKey_injective dataset keys]
    exact classes entry member

/-- A record of some shape has a value for every field. -/
theorem exists_get?_of_hasShape {dataset : String} {kind : DatasetKind} {record : Record}
    (shaped : record.HasShape dataset kind) {field : Field} (member : field ∈ kind.fields) :
    ∃ value, record.get? (recordKey dataset field) = some value ∧
      value.fieldClass = field.fieldClass := by
  have listed := (shaped.keys _).2 ⟨field, member, rfl⟩
  obtain ⟨value, found⟩ := Option.isSome_iff_exists.1 (Keyed.mem_keys_iff.1 listed)
  exact ⟨value, found, shaped.classes field member value found⟩

end Record
end Campus
