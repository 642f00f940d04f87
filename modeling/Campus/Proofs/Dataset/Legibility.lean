import Campus.Proofs.Dataset.Rereading
/-!
# Which datasets can be read back

NaN and the infinities are printed as null, and null is no value of a record; a size that is no
machine word is printed as a number that is no size. So a dataset with one such number is written
without complaint and its blob spells no dataset, while any other one is read back.
-/

namespace Campus

namespace Json

section

variable {α : Type} {elements : List α}

/-- Items that are printed alike one by one are printed alike together. -/
theorem renderItems_map_congr {left right : α → Json}
    (alike : ∀ element ∈ elements, (left element).render = (right element).render) :
    renderItems (elements.map left) = renderItems (elements.map right) := by
  induction elements with
  | nil => rfl
  | cons element rest ih =>
    have first := alike element List.mem_cons_self
    have others := ih fun other member => alike other (List.mem_cons_of_mem _ member)
    cases rest with
    | nil =>
      simp only [List.map_cons, List.map_nil, renderItems]
      exact first
    | cons next rest =>
      simp only [List.map_cons, renderItems] at others ⊢
      rw [first, others]

/-- Members that are printed alike one by one under the same keys are printed alike together. -/
theorem renderMembers_map_congr {key : α → String} {left right : α → Json}
    (alike : ∀ element ∈ elements, (left element).render = (right element).render) :
    renderMembers (elements.map fun element => (key element, left element)) =
      renderMembers (elements.map fun element => (key element, right element)) := by
  induction elements with
  | nil => rfl
  | cons element rest ih =>
    have first := alike element List.mem_cons_self
    have others := ih fun other member => alike other (List.mem_cons_of_mem _ member)
    cases rest with
    | nil =>
      simp only [List.map_cons, List.map_nil, renderMembers]
      rw [first]
    | cons next rest =>
      simp only [List.map_cons, renderMembers] at others ⊢
      rw [first, others]

/-- Where all is read each is read. -/
theorem isSome_of_mapM {β : Type} {read : α → Option β} (all : (elements.mapM read).isSome = true) :
    ∀ element ∈ elements, (read element).isSome = true := by
  obtain ⟨results, found⟩ := Option.isSome_iff_exists.1 all
  have reads := (mapM_eq_some_iff_forall₂.1 found).imp fun element result one =>
    show (read element).isSome = true ∧ read element = some result from ⟨by rw [one]; rfl, one⟩
  exact ((List.forall₂_and_left _ _).1 reads).1

end

end Json

namespace Scalar

/-- What the printed form of a value spells. -/
def spelled (value : Scalar) : Json := if value.IsFinite then value.toJson else .null

/-- A value is printed as what it spells. -/
theorem render_spelled (value : Scalar) : value.spelled.render = value.toJson.render := by
  unfold spelled
  split
  · rfl
  · next infinite =>
    cases value with
    | text s => exact absurd trivial infinite
    | number x =>
      have unbounded : x.isFinite = false := Bool.eq_false_iff.2 infinite
      have broken : x.isIntegral = false := by rw [Binary64.isIntegral, unbounded]; rfl
      simp only [toJson, broken, Bool.false_and, Bool.false_eq_true, if_false, Json.render,
        Json.numberText, Json.realText, unbounded]

/-- What a value spells can be printed. -/
theorem isWritable_spelled (value : Scalar) : value.spelled.IsWritable := by
  unfold spelled
  split
  · next finite => exact isWritable_toJson finite
  · exact .null

/-- What is read of a printed value, if anything, is a finite value. -/
theorem isFinite_of_ofSource?_spelled {value : Scalar}
    (read : (ofSource? value.spelled.toSource).isSome = true) : value.IsFinite := by
  by_contra infinite
  rw [spelled, if_neg infinite] at read
  cases read

/-- A finite value equals its representative. -/
theorem equals_groupKey {value : Scalar} (finite : value.IsFinite) :
    value.groupKey.equals value = true := by
  cases value with
  | text s => exact beq_self_eq_true s
  | number x =>
    have isNumber : x.isNaN = false := by
      have below : x.magnitude < Binary64.infinityMagnitude := of_decide_eq_true finite
      exact decide_eq_false (Nat.lt_asymm below)
    simp [equals, Binary64.equals, isNumber]

end Scalar

namespace Record

/-- What the printed form of a record spells. -/
def spelled (record : Record) : Json :=
  .object (record.entries.map fun entry => (entry.1, entry.2.spelled))

/-- Records with equal values under the same keys. -/
def Equals (left right : Record) : Prop :=
  List.Forall₂ (fun l r => l.1 = r.1 ∧ l.2.equals r.2 = true) left.entries right.entries

/-- A record is printed as what it spells. -/
theorem render_spelled (record : Record) : record.spelled.render = record.toJson.render := by
  rw [spelled, toJson, Json.render, Json.render,
    Json.renderMembers_map_congr fun entry _ => Scalar.render_spelled entry.2]

/-- What a record spells can be printed. -/
theorem isWritable_spelled (record : Record) : record.spelled.IsWritable := by
  refine .object fun member written => ?_
  obtain ⟨entry, -, rfl⟩ := List.mem_map.1 written
  exact Scalar.isWritable_spelled entry.2

/-- Only finite values are read of a printed record. -/
theorem isFinite_of_ofSource?_spelled {record : Record}
    (read : (ofSource? record.spelled.toSource).isSome = true) :
    ∀ value ∈ record.values, value.IsFinite := by
  rw [spelled, Json.toSource, ofSource?, Option.isSome_map] at read
  intro value held
  obtain ⟨entry, member, rfl⟩ := List.mem_map.1 held
  rw [Json.memberSources_eq_map, List.map_map] at read
  have one := Json.isSome_of_mapM read _ (List.mem_map_of_mem member)
  refine Scalar.isFinite_of_ofSource?_spelled ?_
  by_contra unread
  rw [Option.not_isSome_iff_eq_none] at unread
  simp only [Function.comp_apply, Option.bind_eq_bind, Option.bind_some, unread,
    Option.bind_none] at one
  cases one

end Record

namespace Dataset

variable {d : Dataset}

/-- A dataset of finite numbers. -/
def IsFinite (d : Dataset) : Prop := ∀ record ∈ d.data, ∀ value ∈ record.values, value.IsFinite

/-- What a dataset is read as has finite numbers exactly if the dataset has. -/
theorem isFinite_reread_iff : d.reread.IsFinite ↔ d.IsFinite := by
  simp only [IsFinite, reread, Record.reread, List.forall_mem_map, Keyed.values_map,
    Scalar.isFinite_reread_iff]

/-- Datasets with the same id, kind and size and with equal records. -/
structure Equals (left right : Dataset) : Prop where
  id : left.id = right.id
  kind : left.kind = right.kind
  numRows : left.numRows = right.numRows
  data : List.Forall₂ Record.Equals left.data right.data

/-- What the blob of a dataset spells. -/
def spelled (d : Dataset) : Json :=
  .object
    [("id", .text d.id), ("kind", .text d.kind.label), ("numRows", .ofNat d.numRows),
      ("data", .array (d.data.map Record.spelled))]

/-- A dataset is printed as what it spells. -/
theorem render_spelled (d : Dataset) : d.spelled.render = d.render := by
  simp only [render, spelled, toJson, Json.render, Json.renderMembers,
    Json.renderItems_map_congr fun record _ => Record.render_spelled record]

/-- What a dataset spells can be printed. -/
theorem isWritable_spelled (d : Dataset) : d.spelled.IsWritable := by
  have data : (Json.array (d.data.map Record.spelled)).IsWritable := by
    refine .array fun item member => ?_
    obtain ⟨record, -, rfl⟩ := List.mem_map.1 member
    exact Record.isWritable_spelled record
  refine .object fun member written => ?_
  simp only [List.mem_cons, List.not_mem_nil, or_false] at written
  rcases written with rfl | rfl | rfl | rfl
  · exact .text _
  · exact .text _
  · exact .number trivial
  · exact data

/-- A number that is read as a size below the bound is printed as one. -/
theorem lt_of_natBelow? {n size : Nat}
    (read : (Json.ofNat n).toSource.natBelow? 0x10000000000000000 = some size) :
    n < 0x10000000000000000 := by
  by_contra large
  rw [Json.ofNat, Json.toSource, Json.Source.natBelow?] at read
  obtain ⟨number, isNumber, isSize⟩ := Option.bind_eq_some_iff.1 read
  cases number with
  | integer m => exact JsonNumber.reread?_integer_ne (Nat.le_of_not_lt large) m isNumber
  | real x => cases isSize

/-- Only a dataset of finite numbers whose size is a machine word is read from its blob. -/
theorem isStorable_of_parse?_content (read : (parse? (Blob.content d)).isSome = true) :
    d.IsStorable := by
  have fields : d.spelled.toSource.fields? ["id", "kind", "numRows", "data"] = some _ :=
    Json.Source.fields?_toSource rfl (by decide)
  rw [parse?, Blob.content, ← render_spelled, Json.Source.parse?_render d.isWritable_spelled,
    Option.bind_some, ofSource?, fields] at read
  obtain ⟨whole, read⟩ := Option.isSome_iff_exists.1 read
  simp only [Option.bind_eq_bind, Option.bind_some, Option.bind_eq_some_iff] at read
  obtain ⟨_, -, _, -, size, announced, records, found, -⟩ := read
  refine ⟨lt_of_natBelow? announced, fun record member => ?_⟩
  change (Json.itemSources (d.data.map Record.spelled)).mapM Record.ofSource? = some records
    at found
  rw [Json.itemSources_eq_map, List.map_map] at found
  have each := Json.isSome_of_mapM (Option.isSome_iff_exists.2 ⟨records, found⟩)
  exact Record.isFinite_of_ofSource?_spelled (each _ (List.mem_map_of_mem member))

end Dataset
end Campus
