import Campus.Proofs.Ingest.Courses
import Campus.Proofs.Number.Integers
import Campus.Proofs.Query.Extremes
/-!
# The ids of sections

An element can give its id as an integer, and its record shows that id as text. On the way the id is
a binary64 number, so only ids up to `2 ^ 53` are sure to be shown as they are: of a larger one the
record shows an integer with the same nearest number. Counting ids counts these numbers.
-/

namespace Campus

/-- Values that a function tells apart are as many as their images. -/
theorem card_toFinset_map {α β : Type} [DecidableEq α] [DecidableEq β] {f : α → β} {list : List α}
    (apart : ∀ a ∈ list, ∀ b ∈ list, f a = f b → a = b) :
    (list.map f).toFinset.card = list.toFinset.card := by
  have image : (list.map f).toFinset = list.toFinset.image f := by
    ext
    simp
  rw [image]
  exact Finset.card_image_of_injOn fun a left b right =>
    apart a (List.mem_toFinset.1 left) b (List.mem_toFinset.1 right)

namespace SectionElement

/-- A record is the one of an element whose id is an integer of the sixty-four-bit range. -/
structure HasIntegerId (dataset : String) (id : ℤ) (record : Record) : Prop where
  element : ∃ doc, attribute? doc "id" = some (.number (.integer id)) ∧
    (ofJson? doc).bind (record? dataset) = some record
  low : -2 ^ 63 ≤ id
  high : id < 2 ^ 64

namespace HasIntegerId

variable {dataset : String} {id other : ℤ} {record another : Record}

/-- An id has at most sixty-four bits. -/
theorem natAbs_le (hasId : HasIntegerId dataset id record) : id.natAbs ≤ 2 ^ 64 := by
  have low := hasId.low
  have high := hasId.high
  omega

/-- A record shows the nearest number to its id. -/
theorem get?_uuid (hasId : HasIntegerId dataset id record) :
    record.get? (recordKey dataset .uuid) = some (.text (Binary64.ofInt id).display) := by
  obtain ⟨doc, stands, given⟩ := hasId.element
  obtain ⟨element, read, made⟩ := Option.bind_eq_some_iff.1 given
  obtain ⟨year, -, same⟩ := Option.map_eq_some_iff.1 made
  have shows : record.Shows dataset (element.value? year) := by
    rw [← same]
    exact shows_record dataset element year
  have uuid : element.uuid = .number (.ofInt id) := by
    obtain ⟨value, found, written⟩ := (isGiven_of_ofJson? read).uuid
    obtain rfl := Option.some.inj (stands.symm.trans found)
    generalize element.uuid = shown at written
    cases written
    rfl
  rw [shows.values, value?, uuid]
  rfl

/-- Two records show the same id exactly if their ids have one nearest number. -/
theorem get?_uuid_eq_iff (hasId : HasIntegerId dataset id record)
    (otherId : HasIntegerId dataset other another) :
    record.get? (recordKey dataset .uuid) = another.get? (recordKey dataset .uuid) ↔
      Binary64.ofInt id = Binary64.ofInt other := by
  rw [hasId.get?_uuid, otherId.get?_uuid, Option.some.injEq, Scalar.text.injEq]
  exact Binary64.display_ofInt_inj hasId.natAbs_le otherId.natAbs_le

/-- Counting the ids of records counts the nearest numbers. -/
theorem value?_of_count_uuid {rule : ApplyRule} (token : rule.token = .count)
    (target : rule.target = ⟨dataset, .uuid⟩) {rows : List (ℤ × Record)}
    (hasIds : ∀ row ∈ rows, HasIntegerId dataset row.1 row.2) :
    rule.value? (rows.map Prod.snd) = some (.number (.ofNat
      ((rows.map Prod.fst).map Binary64.ofInt).toFinset.card)) := by
  have shown : (Aggregate.values rule.target.text (rows.map Prod.snd)).map Scalar.groupKey =
      ((rows.map Prod.fst).map Binary64.ofInt).map fun x => .text x.display := by
    have texts : Aggregate.values rule.target.text (rows.map Prod.snd) =
        rows.map fun row => .text (Binary64.ofInt row.1).display := by
      rw [target, Aggregate.values, List.filterMap_map, ← List.filterMap_eq_map]
      exact List.filterMap_congr fun row member => (hasIds row member).get?_uuid
    rw [texts]
    simp only [List.map_map, Function.comp_def, Scalar.groupKey_text]
  rw [ApplyRule.value?_of_count token, shown, card_toFinset_map]
  simp only [List.map_map, List.forall_mem_map, Function.comp_apply]
  intro row member other otherMember same
  exact (Binary64.display_ofInt_inj (hasIds row member).natAbs_le
    (hasIds other otherMember).natAbs_le).1 (Scalar.text.inj same)

end HasIntegerId

/-- A record shows its id up to `2 ^ 53`, and of a larger one an integer with the same nearest
number. Records show the same id exactly if their ids have one nearest number, so records of
different ids up to `2 ^ 53` never do. Counting the ids of records counts the nearest numbers, which
up to `2 ^ 53` are as many as the ids. -/
theorem uuid_of_integer_ids (dataset : String) :
    (∀ id record, HasIntegerId dataset id record →
      (∃ m : ℤ, record.get? (recordKey dataset .uuid) = some (.text (toString m)) ∧
        Binary64.ofInt m = Binary64.ofInt id) ∧
      (id.natAbs ≤ 2 ^ 53 →
        record.get? (recordKey dataset .uuid) = some (.text (toString id)))) ∧
    (∀ id other record another,
      HasIntegerId dataset id record → HasIntegerId dataset other another →
      (record.get? (recordKey dataset .uuid) = another.get? (recordKey dataset .uuid) ↔
        Binary64.ofInt id = Binary64.ofInt other) ∧
      (id.natAbs ≤ 2 ^ 53 → other.natAbs ≤ 2 ^ 53 → id ≠ other →
        record.get? (recordKey dataset .uuid) ≠ another.get? (recordKey dataset .uuid))) ∧
    ∀ (rule : ApplyRule) (rows : List (ℤ × Record)), rule.token = .count →
      rule.target = ⟨dataset, .uuid⟩ → (∀ row ∈ rows, HasIntegerId dataset row.1 row.2) →
      rule.value? (rows.map Prod.snd) = some (.number (.ofNat
        ((rows.map Prod.fst).map Binary64.ofInt).toFinset.card)) ∧
      ((∀ row ∈ rows, row.1.natAbs ≤ 2 ^ 53) → rule.value? (rows.map Prod.snd) =
        some (.number (.ofNat (rows.map Prod.fst).toFinset.card))) := by
  refine ⟨fun id record hasId => ⟨?_, fun small => ?_⟩,
    fun id other record another hasId otherId => ⟨hasId.get?_uuid_eq_iff otherId,
      fun small otherSmall differ same => ?_⟩,
    fun rule rows token target hasIds => ?_⟩
  · obtain ⟨m, text, value⟩ := Binary64.exists_display_ofInt hasId.natAbs_le
    exact ⟨m, by rw [hasId.get?_uuid, text], value⟩
  · rw [hasId.get?_uuid, Binary64.display_ofInt small]
  · exact differ (Binary64.ofInt_injOn small otherSmall
      ((hasId.get?_uuid_eq_iff otherId).1 same))
  · have counted := HasIntegerId.value?_of_count_uuid token target hasIds
    refine ⟨counted, fun small => ?_⟩
    rw [counted, card_toFinset_map fun id member other otherMember same => ?_]
    have bound : ∀ id ∈ rows.map Prod.fst, id.natAbs ≤ 2 ^ 53 := List.forall_mem_map.2 small
    exact Binary64.ofInt_injOn (bound id member) (bound other otherMember) same

/-- An element with an integer as its id. -/
def numbered (id : ℤ) : Json :=
  .array [.number (.integer id), .text "110", .text "", .text "", .text "cpsc",
    .number (.integer 2015), .number (.integer 80), .number (.integer 1), .number (.integer 0),
    .number (.integer 0)]

/-- The record of such an element. -/
def numberedRecord (id : ℤ) : Record :=
  ((ofJson? (numbered id)).bind (record? "courses")).getD ∅

/-- Its record is the one of an element with that id. -/
theorem hasIntegerId_numberedRecord {id : ℤ} (low : -2 ^ 63 ≤ id) (high : id < 2 ^ 64) :
    HasIntegerId "courses" id (numberedRecord id) :=
  ⟨⟨numbered id, rfl, rfl⟩, low, high⟩

/-- Counting the ids of courses. -/
def countIds : ApplyRule := ⟨"ids", .count, ⟨"courses", .uuid⟩⟩

/-- The ids 7 and -8 are shown as they are, and counted as two. -/
theorem uuid_of_smallIds :
    HasIntegerId "courses" 7 (numberedRecord 7) ∧
    HasIntegerId "courses" (-8) (numberedRecord (-8)) ∧
    (numberedRecord 7).get? "courses_uuid" = some (.text "7") ∧
    (numberedRecord (-8)).get? "courses_uuid" = some (.text "-8") ∧
    countIds.value? [numberedRecord 7, numberedRecord (-8)] = some (.number (.ofNat 2)) := by
  have seven : HasIntegerId "courses" 7 (numberedRecord 7) :=
    hasIntegerId_numberedRecord (by decide) (by decide)
  have eight : HasIntegerId "courses" (-8) (numberedRecord (-8)) :=
    hasIntegerId_numberedRecord (by decide) (by decide)
  obtain ⟨shown, -, counted⟩ := uuid_of_integer_ids "courses"
  have both : ∀ row ∈ [(7, numberedRecord 7), (-8, numberedRecord (-8))],
      HasIntegerId "courses" row.1 row.2 :=
    List.forall_mem_cons.2 ⟨seven, List.forall_mem_singleton.2 eight⟩
  exact ⟨seven, eight, (shown 7 _ seven).2 (by decide), (shown (-8) _ eight).2 (by decide),
    (counted countIds _ rfl rfl both).2 (by decide)⟩

/-- The ids `2 ^ 53` and `2 ^ 53 + 1` are shown alike, and counted as one. -/
theorem uuid_of_adjacentIds :
    HasIntegerId "courses" 9007199254740992 (numberedRecord 9007199254740992) ∧
    HasIntegerId "courses" 9007199254740993 (numberedRecord 9007199254740993) ∧
    (numberedRecord 9007199254740992).get? "courses_uuid" = some (.text "9007199254740992") ∧
    (numberedRecord 9007199254740993).get? "courses_uuid" = some (.text "9007199254740992") ∧
    countIds.value? [numberedRecord 9007199254740992, numberedRecord 9007199254740993] =
      some (.number (.ofNat 1)) :=
  ⟨hasIntegerId_numberedRecord (by decide) (by decide),
    hasIntegerId_numberedRecord (by decide) (by decide), by decide +kernel, by decide +kernel,
    by decide +kernel⟩

end SectionElement
end Campus
