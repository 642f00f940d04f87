import Campus.Proofs.Query.Meaning
import Campus.Proofs.Query.Partition
import Campus.Proofs.Query.Results
/-!
# Drilling down

The filter that asks for the values of a row's group keys selects the records that the row was made
from. Grouping compares representatives of values and filtering compares the values themselves; the
two agree on every value but NaN, the two zeros included. So an aggregate of a grouped query is the
aggregate over what the query selects when this filter is added to its own.
-/

namespace Campus

/-- A record with a value under each of several keys, of the class of the key's field and not
NaN. -/
def Record.HasKeys (keys : List FieldKey) (record : Record) : Prop :=
  ∀ key ∈ keys, ∃ value, record.get? key.text = some value ∧
    value.fieldClass = key.fieldClass ∧ value.isNaN = false

namespace Filter

/-- The condition that a record has a given value under a key: an equal number, or the same
text. -/
def sharing (key : FieldKey) : Scalar → Filter
  | .number x => .compares .equal key x
  | .text s => .matches key (.exactly s)

/-- The condition that a record has what a row shows under each of several keys. -/
def drillDown (keys : List FieldKey) (row : Record) : Filter :=
  .and (keys.filterMap fun key => (row.get? key.text).map (sharing key))

variable {keys : List FieldKey} {key : FieldKey} {record row : Record} {value asked : Scalar}

/-- A conjunction selects what its conditions select one after the other. -/
theorem filter_accepts_and (first second : Filter) (records : List Record) :
    (records.filter fun record => (Filter.and [first, second]).accepts record) =
      (records.filter fun record => first.accepts record).filter fun record =>
        second.accepts record := by
  rw [List.filter_filter]
  exact List.filter_congr fun record _ => by simp [accepts, acceptsAll, Bool.and_comm]

/-- A record has a given value in the sense of filters when it has an equal one. -/
theorem accepts_sharing_iff_equals (found : record.get? key.text = some value) :
    (sharing key asked).accepts record = true ↔ value.equals asked = true := by
  cases asked with
  | number bound =>
    rw [sharing, accepts_compares_iff, found]
    cases value <;> simp [Scalar.equals, Comparator.holds]
  | text text =>
    rw [sharing, accepts_matches_iff, found]
    cases value <;> simp [Scalar.equals, Pattern.accepts]

/-- A record has a given value in the sense of filters when it has it in the sense of grouping. -/
theorem accepts_sharing_iff (found : record.get? key.text = some value)
    (someValue : value.isNaN = false) (someAsked : asked.isNaN = false) :
    (sharing key asked).accepts record = true ↔ value.groupKey = asked.groupKey := by
  rw [accepts_sharing_iff_equals found, Scalar.groupKey_eq_iff_equals someValue someAsked]

/-- The records that a row's values select are those that show the same tuple as the row. -/
theorem accepts_drillDown_iff (held : record.HasKeys keys) (shown : row.HasKeys keys) :
    (drillDown keys row).accepts record = true ↔
      Grouping.signature keys record = Grouping.signature keys row := by
  have each : ∀ key ∈ keys,
      (∀ condition, (row.get? key.text).map (sharing key) = some condition →
        condition.accepts record = true) ↔
      (record.get? key.text).map Scalar.groupKey = (row.get? key.text).map Scalar.groupKey := by
    intro key member
    obtain ⟨value, found, _, someValue⟩ := held key member
    obtain ⟨asked, shows, _, someAsked⟩ := shown key member
    simp [found, shows, accepts_sharing_iff found someValue someAsked]
  rw [drillDown, accepts, acceptsAll_eq_all, List.all_eq_true, Grouping.signature,
    Grouping.signature, List.map_inj_left]
  simp only [List.mem_filterMap, forall_exists_index, and_imp]
  constructor
  · intro accepted key member
    exact (each key member).1 fun condition => accepted condition key member
  · intro agree condition key member
    exact (each key member).2 (agree key member) condition

end Filter

namespace Grouping

variable {keys : List FieldKey} {records : List Record} {tuple : List (Option Scalar)}
  {row : Record}

/-- A row that shows a tuple selects the members of the tuple. -/
theorem filter_drillDown (held : ∀ record ∈ records, record.HasKeys keys)
    (shown : row.HasKeys keys) (shows : signature keys row = tuple) :
    (records.filter fun record => (Filter.drillDown keys row).accepts record) =
      members keys records tuple := by
  subst shows
  refine List.filter_congr fun record member => ?_
  rw [Bool.eq_iff_iff, Filter.accepts_drillDown_iff (held record member) shown, decide_eq_true_eq]

/-- Every member of a group selects the group. -/
theorem filter_drillDown_of_mem_groups (held : ∀ record ∈ records, record.HasKeys keys)
    {group : List Record} (formed : group ∈ groups keys records) :
    group ≠ [] ∧ ∀ member ∈ group,
      (records.filter fun record => (Filter.drillDown keys member).accepts record) = group := by
  rw [groups_eq] at formed
  obtain ⟨tuple, listed, rfl⟩ := List.mem_map.1 formed
  constructor
  · obtain ⟨record, stands, shows⟩ := mem_tuples_iff.1 listed
    exact List.ne_nil_of_mem (mem_members_iff.2 ⟨stands, shows⟩)
  · intro member inside
    obtain ⟨stands, shows⟩ := mem_members_iff.1 inside
    exact filter_drillDown held (held member stands) shows

end Grouping

namespace Transformations.IsRowOf

variable {t : Transformations} {columns : List String} {members : List Record} {row : Record}

/-- The row of a group shows the tuple of its members. -/
theorem signature_eq (made : t.IsRowOf columns members row) {record : Record}
    (member : record ∈ members) :
    Grouping.signature t.group row = Grouping.signature t.group record :=
  List.map_inj_left.2 fun key grouped => made.shared key grouped record member

/-- The row of a group has values under the group keys if the members have. -/
theorem hasKeys (made : t.IsRowOf columns members row) (someMember : members ≠ [])
    (held : ∀ record ∈ members, record.HasKeys t.group) : row.HasKeys t.group := by
  obtain ⟨first, rest, rfl⟩ := List.exists_cons_of_ne_nil someMember
  intro key grouped
  rw [made.first key grouped]
  exact held first List.mem_cons_self key grouped

end Transformations.IsRowOf

namespace Query

variable {inCatalog : String → Bool} {doc : Json} {query : Query} {t : Transformations}
  {rowLimit : Nat} {records rows : List Record}

/-- A row of a grouped query shows under the name of an aggregate its value over the records that
the query selects when the row's drill-down filter is added to its own. -/
theorem get?_name_of_mem_rows (read : Query.read inCatalog doc = .ok query)
    (grouped : query.transformations = some t)
    (held : ∀ record ∈ query.matching records, record.HasKeys t.group)
    (answered : query.execute rowLimit records = .ok rows) {row : Record} (member : row ∈ rows)
    {rule : ApplyRule} (applied : rule ∈ t.apply) (listed : rule.name ∈ query.columns) :
    row.get? rule.name = rule.value? (records.filter fun record =>
      (Filter.and [query.filter, .drillDown t.group row]).accepts record) := by
  obtain ⟨candidate, stands, rfl⟩ := exists_candidate_of_mem_rows answered member
  rw [candidates_of_grouped grouped] at stands
  obtain ⟨tuple, shown, rfl⟩ := List.mem_map.1 stands
  have made := Transformations.isRowOf_project (Grammar.isWellFormed_of_grouped read grouped) shown
  obtain ⟨witness, inside, shows⟩ := Grouping.mem_tuples_iff.1 shown
  have present : witness ∈ Grouping.members t.group (query.matching records) tuple :=
    Grouping.mem_members_iff.2 ⟨inside, shows⟩
  have keyed := made.hasKeys (List.ne_nil_of_mem present) fun record belongs =>
    held record (Grouping.mem_members_iff.1 belongs).1
  rw [made.aggregated rule applied listed, Filter.filter_accepts_and]
  exact congrArg rule.value?
    (Grouping.filter_drillDown held keyed ((made.signature_eq present).trans shows)).symm

/-- If every record has a value of the right class other than NaN under every group key, then each
group is what the values of its members select, in the order of the records. If the records that a
grouped query matches have such values, then each row of its answer shows for every aggregate among
its columns the value over the records that the query's filter and the row's values select. -/
theorem filter_drillDown_of_grouped :
    (∀ (keys : List FieldKey) (records : List Record),
      (∀ record ∈ records, record.HasKeys keys) →
      ∀ group ∈ Grouping.groups keys records, group ≠ [] ∧ ∀ member ∈ group,
        (records.filter fun record => (Filter.drillDown keys member).accepts record) = group) ∧
    ∀ (inCatalog : String → Bool) (doc : Json) (query : Query) (t : Transformations),
      Query.read inCatalog doc = .ok query → query.transformations = some t →
      ∀ (rowLimit : Nat) (records rows : List Record),
        (∀ record ∈ query.matching records, record.HasKeys t.group) →
        query.execute rowLimit records = .ok rows →
        ∀ row ∈ rows, ∀ rule ∈ t.apply, rule.name ∈ query.columns →
          row.get? rule.name = rule.value? (records.filter fun record =>
            (Filter.and [query.filter, .drillDown t.group row]).accepts record) :=
  ⟨fun _ _ held _ formed => Grouping.filter_drillDown_of_mem_groups held formed,
    fun _ _ _ _ read grouped _ _ _ held answered _ member _ applied listed =>
      get?_name_of_mem_rows read grouped held answered member applied listed⟩

/-- How many names there are for each number of seats and each type of room. -/
def namesBySeatsAndType : Query where
  dataset := "rooms"
  filter := .all
  columns := ["rooms_seats", "rooms_type", "names"]
  order := none
  transformations := some
    ⟨[⟨"rooms", .seats⟩, ⟨"rooms", .type⟩], [⟨"names", .count, ⟨"rooms", .name⟩⟩]⟩

/-- A room without seats. -/
def standingRoom (name : String) (seats : Binary64) (type : String) : Record :=
  (((∅ : Record).insert "rooms_seats" (.number seats)).insert "rooms_type" (.text type)).insert
    "rooms_name" (.text name)

/-- Two labs with either zero and an office: the negative zero of the second lab selects both labs,
and the row of the labs counts two names. -/
theorem filter_drillDown_standingRooms :
    let first := standingRoom "A" 0 "Lab"
    let second := standingRoom "B" (.ofMagnitude true 0) "Lab"
    let third := standingRoom "C" 0 "Office"
    let keys : List FieldKey := [⟨"rooms", .seats⟩, ⟨"rooms", .type⟩]
    ([first, third, second].filter fun record =>
      (Filter.drillDown keys second).accepts record) = [first, second] ∧
    ∃ row other, namesBySeatsAndType.execute 5000 [first, third, second] = .ok [row, other] ∧
      row.get? "names" = some (.number (.ofNat 2)) := by
  intro first second third keys
  have held : ∀ record ∈ [first, third, second], record.HasKeys keys := by
    have each (name : String) (seats : Binary64) (type : String) (number : seats.isNaN = false) :
        (standingRoom name seats type).HasKeys keys := by
      intro key member
      rcases List.mem_cons.1 member with rfl | member
      · exact ⟨.number seats, rfl, rfl, number⟩
      obtain rfl := List.mem_singleton.1 member
      exact ⟨.text type, rfl, rfl, rfl⟩
    refine List.forall_mem_cons.2 ⟨each _ _ _ (by decide), ?_⟩
    refine List.forall_mem_cons.2 ⟨each _ _ _ (by decide), ?_⟩
    exact List.forall_mem_singleton.2 (each _ _ _ (by decide))
  have wellFormed : Transformations.IsWellFormed "rooms" namesBySeatsAndType.columns
      ⟨keys, [⟨"names", .count, ⟨"rooms", .name⟩⟩]⟩ :=
    { someGroup := by decide
      group := by decide
      apply := by decide
      distinct := by decide
      produced := by
        simp [namesBySeatsAndType, Grammar.Produces, FieldKey.text, recordKey, Field.label, keys] }
  have formed : namesBySeatsAndType.IsWellFormed fun _ => true :=
    { hasId := by decide
      noUnderscore := by decide
      known := rfl
      filter := .inl rfl
      someColumns := by decide
      columnNames := by decide
      order := by
        rintro spec ⟨⟩
      ungrouped := by
        rintro ⟨⟩
      grouped := by
        rintro t ⟨rfl⟩
        exact wellFormed }
  obtain ⟨selected, reported⟩ := filter_drillDown_of_grouped
  have labs : [first, second] ∈ Grouping.groups keys [first, third, second] := by decide
  refine ⟨(selected keys _ held _ labs).2 second (by decide), ?_⟩
  have matching : namesBySeatsAndType.matching [first, third, second] =
      [first, third, second] := rfl
  refine ⟨_, _, rfl, ?_⟩
  refine (reported _ _ _ _ (read_toJson formed) rfl 5000 _ _ (matching ▸ held) rfl _
    List.mem_cons_self _ List.mem_cons_self (by decide)).trans ?_
  rfl

end Query
end Campus
