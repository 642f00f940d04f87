import Campus.Proofs.Dataset.Normal
import Campus.Proofs.Json.Rereading
import Campus.Store.Blob
/-!
# Rereading stored datasets

A dataset whose numbers are finite and whose announced size fits in a machine word is read back from
its blob. A text comes back from its quoted form, and a number without a fractional part and below
the bound from its integer, without the sign of a zero. Any other number comes back as what its
printed form is read as, which is the number itself where that is read with correct rounding.
-/

namespace Campus

/-- A value that has a written form: any text, and any number but NaN and the infinities. -/
def Scalar.IsFinite : Scalar → Prop
  | number x => x.isFinite = true
  | text _ => True

/-- Whether a value is finite can be computed. -/
instance (value : Scalar) : Decidable value.IsFinite :=
  match value with
  | .number x => inferInstanceAs (Decidable (x.isFinite = true))
  | .text _ => inferInstanceAs (Decidable True)

/-- A dataset that has a written form: its numbers are finite, and the size it announces is a
machine word. -/
structure Dataset.IsStorable (d : Dataset) : Prop where
  announced : d.numRows < 0x10000000000000000
  finite : ∀ record ∈ d.data, ∀ value ∈ record.values, value.IsFinite

/-- Whether a dataset has a written form can be computed. -/
instance (d : Dataset) : Decidable d.IsStorable :=
  decidable_of_iff
    (d.numRows < 0x10000000000000000 ∧ ∀ record ∈ d.data, ∀ value ∈ record.values, value.IsFinite)
    ⟨fun h => ⟨h.1, h.2⟩, fun h => ⟨h.announced, h.finite⟩⟩

namespace Scalar

/-- The sign of a zero does not matter for being finite. -/
theorem isFinite_groupKey_iff {value : Scalar} : value.groupKey.IsFinite ↔ value.IsFinite := by
  cases value with
  | text => rfl
  | number x => rw [groupKey_number, IsFinite, IsFinite, Binary64.isFinite_normalize]

/-- What the written form of a value is read as; a value without a written form stays. -/
def reread (value : Scalar) : Scalar := (ofSource? value.toJson.toSource).getD value

/-- A value is read with correct rounding: a number that is not written as an integer is the nearest
one to its printed form. -/
def IsReadNearest : Scalar → Prop
  | number x => (x.isIntegral && x.abs.less integerBound) = true ∨ x.IsReadNearest
  | text _ => True

/-- Whether a value is read with correct rounding can be computed. -/
instance (value : Scalar) : Decidable value.IsReadNearest :=
  match value with
  | .number x =>
    inferInstanceAs (Decidable ((x.isIntegral && x.abs.less integerBound) = true ∨ x.IsReadNearest))
  | .text _ => inferInstanceAs (Decidable True)

/-- A number below the bound for integers has an integer part in the sixty-four-bit range. -/
theorem truncate_natAbs_lt {x : Binary64} (below : x.abs.less integerBound = true) :
    x.truncate.natAbs < 0x8000000000000000 := by
  have bound : integerBound.key ≤ (53 + 1023) * 0x10000000000000 := by decide +kernel
  have magnitude : x.magnitude < (53 + 1023) * 0x10000000000000 := by
    simp only [Binary64.less, Bool.and_eq_true, decide_eq_true_eq] at below
    rw [Binary64.key_abs] at below
    omega
  exact Nat.lt_trans (Binary64.truncate_natAbs_lt 53 magnitude) (by decide)

/-- The written form of a finite value can be printed. -/
theorem isWritable_toJson {value : Scalar} (finite : value.IsFinite) : value.toJson.IsWritable := by
  cases value with
  | text s => exact .text s
  | number x =>
    rw [toJson]
    split
    · exact .number trivial
    · exact .number finite

/-- A number that is written as an integer is read back up to the sign of a zero. -/
theorem ofSource?_toJson_of_small {x : Binary64}
    (small : (x.isIntegral && x.abs.less integerBound) = true) :
    ofSource? (number x).toJson.toSource = some (number x).groupKey := by
  obtain ⟨integral, below⟩ := Bool.and_eq_true_iff.1 small
  have range := truncate_natAbs_lt below
  rw [toJson, if_pos small, groupKey_number, Json.toSource,
    JsonNumber.reread?_integer_eq (by omega) (by omega), ofSource?, JsonNumber.toBinary64,
    Binary64.ofInt_truncate integral]
  rfl

/-- A number that is not written as an integer is no zero. -/
theorem isZero_of_large {x : Binary64}
    (large : ¬(x.isIntegral && x.abs.less integerBound) = true) : x.isZero = false := by
  cases zero : x.isZero with
  | false => rfl
  | true =>
    have written := toJson_of_isZero zero
    rw [toJson, if_neg large] at written
    cases written

/-- A number that is not written as an integer is read as its printed form is, if that is read. -/
theorem reread_number {x : Binary64}
    (large : ¬(x.isIntegral && x.abs.less integerBound) = true) :
    (number x).reread =
      ((JsonNumber.real x).reread?.map fun read => number read.toBinary64).getD (number x) := by
  rw [reread, toJson, if_neg large, Json.toSource]
  cases (JsonNumber.real x).reread? <;> rfl

/-- A written finite value is read. -/
theorem ofSource?_toJson {value : Scalar} (finite : value.IsFinite) :
    ofSource? value.toJson.toSource = some value.reread := by
  have some : (ofSource? value.toJson.toSource).isSome = true := by
    cases value with
    | text => rfl
    | number x =>
      by_cases small : (x.isIntegral && x.abs.less integerBound) = true
      · rw [ofSource?_toJson_of_small small]
        rfl
      · obtain ⟨y, read, -⟩ := JsonNumber.exists_reread?_real finite
        rw [toJson, if_neg small, Json.toSource, read]
        rfl
  obtain ⟨read, isRead⟩ := Option.isSome_iff_exists.1 some
  rw [reread, isRead, Option.getD_some]

/-- What a value is read as is finite exactly if the value is. -/
theorem isFinite_reread_iff {value : Scalar} : value.reread.IsFinite ↔ value.IsFinite := by
  cases value with
  | text => rfl
  | number x =>
    by_cases small : (x.isIntegral && x.abs.less integerBound) = true
    · rw [reread, ofSource?_toJson_of_small small, Option.getD_some]
      exact isFinite_groupKey_iff
    · by_cases finite : x.isFinite = true
      · obtain ⟨y, read, finiteToo⟩ := JsonNumber.exists_reread?_real finite
        rw [reread_number small, read]
        exact iff_of_true finiteToo finite
      · rw [reread_number small, JsonNumber.reread?_real_eq_none finite]
        rfl

/-- A finite value is read back up to the sign of a zero where it is read with correct rounding. -/
theorem reread_eq_groupKey {value : Scalar} (finite : value.IsFinite)
    (nearest : value.IsReadNearest) : value.reread = value.groupKey := by
  cases value with
  | text => rfl
  | number x =>
    by_cases small : (x.isIntegral && x.abs.less integerBound) = true
    · rw [reread, ofSource?_toJson_of_small small, Option.getD_some]
    · have same := (Binary64.isReadNearest_iff finite).1 (nearest.resolve_left small)
      rw [reread_number small, same, groupKey_number, Binary64.normalize, isZero_of_large small,
        if_neg Bool.false_ne_true]
      rfl

/-- The sign of a zero does not matter for being read with correct rounding. -/
theorem isReadNearest_groupKey_iff {value : Scalar} :
    value.groupKey.IsReadNearest ↔ value.IsReadNearest := by
  cases value with
  | text => rfl
  | number x =>
    rw [groupKey_number, Binary64.normalize]
    split
    · next zero =>
      have small {y : Binary64} (none : y.isZero = true) :
          (y.isIntegral && y.abs.less integerBound) = true := by
        by_contra large
        rw [isZero_of_large large] at none
        cases none
      exact iff_of_true (.inl (small (by decide))) (.inl (small zero))
    · rfl

end Scalar

namespace Record

/-- The written form of a record of finite values can be printed. -/
theorem isWritable_toJson {record : Record} (finite : ∀ value ∈ record.values, value.IsFinite) :
    record.toJson.IsWritable := by
  refine .object fun member written => ?_
  obtain ⟨entry, held, rfl⟩ := List.mem_map.1 written
  exact Scalar.isWritable_toJson (finite _ (List.mem_map_of_mem held))

/-- What the values of a record are read as. -/
def reread (record : Record) : Record := record.map Scalar.reread

/-- A written record of finite values is read. -/
theorem ofSource?_toJson {record : Record} (finite : ∀ value ∈ record.values, value.IsFinite) :
    ofSource? record.toJson.toSource = some record.reread := by
  let read (member : Option String × Json.Source) : Option (String × Scalar) := do
    let key ← member.1
    let value ← Scalar.ofSource? member.2
    return (key, value)
  have members : (Json.memberSources
      (record.entries.map fun entry => (entry.1, entry.2.toJson))).mapM read =
        some record.reread.entries := by
    refine Json.Source.mapM_memberSources fun entry held => ?_
    simp only [read, Option.bind_eq_bind, Option.bind_some,
      Scalar.ofSource?_toJson (finite _ (List.mem_map_of_mem held)), Option.pure_def]
  rw [toJson, Json.toSource, ofSource?, members, Option.map_some]
  exact congrArg some (Keyed.ofList_entries record.reread)

/-- A record of finite values is read back up to the signs of zeros where they are read with correct
rounding. -/
theorem reread_eq_normalize {record : Record} (finite : ∀ value ∈ record.values, value.IsFinite)
    (nearest : ∀ value ∈ record.values, value.IsReadNearest) :
    record.reread = record.normalize := by
  have entries : record.entries.map (fun entry => (entry.1, entry.2.reread)) =
      record.entries.map fun entry => (entry.1, entry.2.groupKey) :=
    List.map_congr_left fun entry held => by
      rw [Scalar.reread_eq_groupKey (finite _ (List.mem_map_of_mem held))
        (nearest _ (List.mem_map_of_mem held))]
  exact Keyed.ext fun key => congrArg (Entries.get? key) entries

end Record

namespace Dataset

variable {d : Dataset}

/-- Dropping the signs of zeros keeps a written form. -/
theorem isStorable_normalize_iff : d.normalize.IsStorable ↔ d.IsStorable := by
  have finite : (∀ record ∈ d.normalize.data, ∀ value ∈ record.values, value.IsFinite) ↔
      ∀ record ∈ d.data, ∀ value ∈ record.values, value.IsFinite := by
    simp only [normalize, Record.normalize, List.forall_mem_map, Keyed.values_map,
      Scalar.isFinite_groupKey_iff]
  exact ⟨fun storable => ⟨storable.announced, finite.1 storable.finite⟩,
    fun storable => ⟨storable.announced, finite.2 storable.finite⟩⟩

/-- A dataset whose numbers are all read with correct rounding. -/
def IsReadNearest (d : Dataset) : Prop :=
  ∀ record ∈ d.data, ∀ value ∈ record.values, value.IsReadNearest

/-- Whether all numbers are read with correct rounding can be computed. -/
instance (d : Dataset) : Decidable d.IsReadNearest :=
  inferInstanceAs (Decidable (∀ record ∈ d.data, ∀ value ∈ record.values, value.IsReadNearest))

/-- The signs of zeros do not matter for being read with correct rounding. -/
theorem isReadNearest_normalize_iff : d.normalize.IsReadNearest ↔ d.IsReadNearest := by
  simp only [IsReadNearest, normalize, Record.normalize, List.forall_mem_map, Keyed.values_map,
    Scalar.isReadNearest_groupKey_iff]

/-- The dataset with what the values of its records are read as. -/
def reread (d : Dataset) : Dataset := { d with data := d.data.map Record.reread }

/-- A storable dataset is read back up to the signs of zeros where its numbers are read with correct
rounding. -/
theorem reread_eq_normalize (storable : d.IsStorable) (nearest : d.IsReadNearest) :
    d.reread = d.normalize := by
  have records : d.data.map Record.reread = d.data.map Record.normalize :=
    List.map_congr_left fun record held =>
      Record.reread_eq_normalize (storable.finite record held) (nearest record held)
  rw [reread, normalize, records]

/-- The written form of a storable dataset can be printed. -/
theorem isWritable_toJson (storable : d.IsStorable) : d.toJson.IsWritable := by
  have data : (Json.array (d.data.map Record.toJson)).IsWritable := by
    refine .array fun item member => ?_
    obtain ⟨record, held, rfl⟩ := List.mem_map.1 member
    exact Record.isWritable_toJson (storable.finite record held)
  refine .object fun member written => ?_
  simp only [List.mem_cons, List.not_mem_nil, or_false] at written
  rcases written with rfl | rfl | rfl | rfl
  · exact .text _
  · exact .text _
  · exact .number trivial
  · exact data

/-- A written storable dataset is read. -/
theorem ofSource?_toJson (storable : d.IsStorable) :
    ofSource? d.toJson.toSource = some d.reread := by
  have announced := storable.announced
  have fields : d.toJson.toSource.fields? ["id", "kind", "numRows", "data"] = some _ :=
    Json.Source.fields?_toSource rfl (by decide)
  have id : (Json.text d.id).toSource.text? = some d.id := rfl
  have kind : DatasetKind.ofSource? (Json.text d.kind.label).toSource = some d.kind :=
    DatasetKind.ofLabel?_label d.kind
  have size : (Json.ofNat d.numRows).toSource.natBelow? 0x10000000000000000 = some d.numRows := by
    rw [Json.ofNat, Json.toSource, JsonNumber.reread?_integer_eq (by omega) (by omega),
      Json.Source.natBelow?, Option.bind_some, JsonNumber.toNatBelow?, if_pos (by omega),
      Int.toNat_natCast]
  let readData (source : Json.Source) : Option (List Record) :=
    source.items.bind fun items => items.mapM Record.ofSource?
  have data : readData (Json.array (d.data.map Record.toJson)).toSource =
      some (d.data.map Record.reread) :=
    Json.Source.mapM_itemSources fun record held =>
      Record.ofSource?_toJson (storable.finite record held)
  rw [ofSource?, fields, Option.bind_eq_bind, Option.bind_some, Json.Fields.required_eq rfl id,
    Option.bind_eq_bind, Option.bind_some, Json.Fields.required_eq rfl kind,
    Option.bind_eq_bind, Option.bind_some, Json.Fields.required_eq rfl size,
    Option.bind_eq_bind, Option.bind_some, Json.Fields.required_eq rfl data]
  rfl

/-- A storable dataset is read back from its blob. -/
theorem parse?_content (storable : d.IsStorable) :
    parse? (Blob.content d) = some d.reread := by
  rw [parse?, Blob.content, render, Json.Source.parse?_render (isWritable_toJson storable),
    Option.bind_some, ofSource?_toJson storable]

end Dataset
end Campus
