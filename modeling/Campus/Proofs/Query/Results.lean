import Campus.Proofs.Query.Answers
import Campus.Proofs.Query.Groups
import Campus.Proofs.Query.RoundTrip
/-!
# Results

What a query answers over any records. An ungrouped query has a row for each selected record, a
grouped one for each tuple that a selected record shows under the group keys, and it is these rows
that are counted against the limit. Reading a query ensures what makes the later stages harmless:
order columns are among the columns, so that rows may be restricted before they are put in order,
and no aggregate has the name of a group key or of another aggregate.

Putting rows in order breaks down for some rows whose comparison is no order, of which there have to
be more than twenty. Then nobody is answered, although the rows are within the limit.
-/

namespace Campus

namespace Record

/-- A record restricted to columns keeps what it has under them and nothing else. -/
theorem get?_project (columns : List String) (record : Record) (key : String) :
    (record.project columns).get? key = if key ∈ columns then record.get? key else none := by
  by_cases listed : key ∈ columns
  · rw [if_pos listed]
    ext value
    rw [project, Keyed.get?_filterKeys_eq_some_iff]
    simp [listed]
  · rw [if_neg listed, Option.eq_none_iff_forall_ne_some]
    intro value found
    exact listed (by simpa using (Keyed.get?_filterKeys_eq_some_iff.1 found).2)

/-- Looking up after a value was put in, if there was one. -/
theorem get?_putFound (row : Record) (key name : String) (found : Option Scalar) :
    (row.putFound key found).get? name =
      if name = key then found.or (row.get? name) else row.get? name := by
  cases found with
  | none => simp [putFound]
  | some value => simp [putFound, Keyed.get?_insert]

section

variable {α : Type} {key : α → String} {found : α → Option Scalar} {elements : List α}
  {row : Record} {name : String}

/-- Values put in under other keys change nothing. -/
theorem get?_putAll_of_forall_ne (others : ∀ element ∈ elements, key element ≠ name) :
    (putAll key found row elements).get? name = row.get? name := by
  induction elements generalizing row with
  | nil => rfl
  | cons element rest ih =>
    obtain ⟨differs, later⟩ := List.forall_mem_cons.1 others
    rw [putAll, List.foldl_cons]
    refine (ih later).trans ?_
    rw [get?_putFound, if_neg (Ne.symm differs)]

/-- A value put in is found if all elements with its key have it. -/
theorem get?_putAll_of_mem {value : Option Scalar}
    (listed : ∃ element ∈ elements, key element = name)
    (same : ∀ element ∈ elements, key element = name → found element = value) :
    (putAll key found row elements).get? name = value.or (row.get? name) := by
  induction elements generalizing row with
  | nil => simp at listed
  | cons element rest ih =>
    obtain ⟨sameFirst, sameRest⟩ := List.forall_mem_cons.1 same
    rw [putAll, List.foldl_cons]
    by_cases later : ∃ element ∈ rest, key element = name
    · refine (ih later sameRest).trans ?_
      rw [get?_putFound]
      split
      · next here =>
        rw [sameFirst here.symm, ← Option.or_assoc, Option.or_self]
      · rfl
    · have here : key element = name := by
        obtain ⟨other, member, named⟩ := listed
        rcases List.mem_cons.1 member with rfl | inRest
        · exact named
        · exact absurd ⟨other, inRest, named⟩ later
      have unnamed : ∀ other ∈ rest, key other ≠ name := fun other member named =>
        later ⟨other, member, named⟩
      refine (get?_putAll_of_forall_ne unnamed).trans ?_
      rw [get?_putFound, if_pos here.symm, sameFirst here]

end

end Record

namespace OrderSpec

variable {columns : List String}

/-- Rows restricted to columns that include those compared compare as before. -/
theorem compareBy_project {compared : List String} (within : ∀ column ∈ compared, column ∈ columns)
    (left right : Record) :
    compareBy compared (left.project columns) (right.project columns) =
      compareBy compared left right := by
  induction compared with
  | nil => rfl
  | cons column rest ih =>
    obtain ⟨listed, others⟩ := List.forall_mem_cons.1 within
    rw [compareBy, compareBy, Record.get?_project, Record.get?_project, if_pos listed,
      if_pos listed, ih others]

/-- Restricting rows to columns that include those of an order changes no comparison. -/
theorem compareRows_project {order : OrderSpec}
    (within : ∀ column ∈ order.columns, column ∈ columns) (left right : Record) :
    order.compareRows (left.project columns) (right.project columns) =
      order.compareRows left right := by
  rw [compareRows, compareRows, compareBy_project within]

/-- Rows may be restricted to columns that include those of an order before or after sorting. -/
theorem sort_project {order : OrderSpec} (within : ∀ column ∈ order.columns, column ∈ columns)
    (rows : List Record) :
    order.sort (rows.map (Record.project columns)) =
      (order.sort rows).map (List.map (Record.project columns)) := by
  refine (StableSort.map_sort fun left _ right _ => ?_).symm
  rw [compareRows_project within]

/-- What the order puts before what is a strict weak order among the rows. -/
abbrev IsLawfulOn (order : OrderSpec) (rows : List Record) : Prop :=
  StableSort.IsWeakOrderOn (fun left right => order.compareRows left right == .lt) rows

/-- Rows that cannot be put in order are more than are sorted by insertion, and the order is none
among them. -/
theorem sort_eq_none {order : OrderSpec} {rows : List Record} (failed : order.sort rows = none) :
    StableSort.insertionLimit < rows.length ∧ ¬order.IsLawfulOn rows := by
  have unsortable (sortable : rows.length ≤ StableSort.insertionLimit ∨ order.IsLawfulOn rows) :
      False := by
    have found := StableSort.isSome_sort_of_mem sortable
    rw [sort] at failed
    rw [failed] at found
    cases found
  exact ⟨Nat.not_le.1 fun few => unsortable (.inl few), fun lawful => unsortable (.inr lawful)⟩

end OrderSpec

namespace Grammar

variable {inCatalog : String → Bool} {doc : Json} {query : Query}

/-- What is spelled by an optional part is spelled by a part that is there. -/
theorem exists_of_rel_some {α : Type} {spelled : Json → α → Prop} {part : Option Json} {value : α}
    (optional : Option.Rel spelled part (some value)) :
    ∃ doc, part = some doc ∧ spelled doc value := by
  cases optional with
  | some holds => exact ⟨_, rfl, holds⟩

/-- Every order column of a query that is read is one of its columns. -/
theorem mem_columns_of_order (read : Query.read inCatalog doc = .ok query) {order : OrderSpec}
    (ordered : query.order = some order) : ∀ column ∈ order.columns, column ∈ query.columns := by
  obtain ⟨columnKeys, readParts, _, _⟩ := query_read_eq_ok_iff.1 read
  obtain ⟨members, options, whereDoc, rfl, spelled⟩ := parts_eq_ok_iff.1 readParts
  have optional := spelled.order
  simp only [ordered] at optional
  obtain ⟨part, _, spec⟩ := exists_of_rel_some optional
  cases spec with
  | column member => simpa [OrderSpec.columns] using member
  | keys _ _ _ _ inColumns => exact inColumns

/-- Grouping and aggregates of a query that is read are well formed. -/
theorem isWellFormed_of_grouped (read : Query.read inCatalog doc = .ok query) {t : Transformations}
    (grouped : query.transformations = some t) : t.IsWellFormed query.dataset query.columns := by
  obtain ⟨columnKeys, readParts, datasetsEq, _⟩ := query_read_eq_ok_iff.1 read
  obtain ⟨members, options, whereDoc, rfl, spelled⟩ := parts_eq_ok_iff.1 readParts
  obtain ⟨_, one⟩ := datasets_eq_singleton_iff.1 datasetsEq
  have optional := spelled.transformations
  have keyed := spelled.columnKeys
  simp only [grouped] at optional keyed one
  obtain ⟨part, _, readT⟩ := exists_of_rel_some optional
  refine isWellFormed_of_transformations readT (fun key member => one key ?_) keyed.1
  rw [Parts.keys]
  simp [member]

end Grammar

namespace Transformations

variable {t : Transformations} {dataset : String} {columns : List String} {members : List Record}

/-- The row of a group restricted to columns: it has nothing else, under every group key it has what
the first member has and, up to the sign of a zero, all members have, and under the name of every
aggregate among the columns the aggregate over the members, if there is one. -/
structure IsRowOf (t : Transformations) (columns : List String) (members : List Record)
    (row : Record) : Prop where
  onlyColumns : ∀ key, key ∉ columns → row.get? key = none
  first : ∀ key ∈ t.group, row.get? key.text = members.head?.bind fun record => record.get? key.text
  shared : ∀ key ∈ t.group, ∀ record ∈ members,
    (row.get? key.text).map Scalar.groupKey = (record.get? key.text).map Scalar.groupKey
  aggregated : ∀ rule ∈ t.apply, rule.name ∈ columns → row.get? rule.name = rule.value? members

/-- No group key is the name of an aggregate, which has no underscore. -/
theorem text_ne_name (wellFormed : t.IsWellFormed dataset columns) {rule : ApplyRule}
    (member : rule ∈ t.apply) (key : FieldKey) : key.text ≠ rule.name := by
  intro same
  have noUnderscore := (wellFormed.apply rule member).2.1
  rw [← same, FieldKey.text, toList_recordKey] at noUnderscore
  simp at noUnderscore

/-- A row shows under a group key what the first member has there. -/
theorem get?_row_text (wellFormed : t.IsWellFormed dataset columns) {key : FieldKey}
    (member : key ∈ t.group) (first : Record) (others : List Record) :
    (t.row (first :: others)).get? key.text = first.get? key.text := by
  have unnamed : ∀ rule ∈ t.apply, rule.name ≠ key.text := fun rule listed =>
    (text_ne_name wellFormed listed key).symm
  rw [row_eq, Record.get?_putAll_of_forall_ne unnamed, shown,
    Record.get?_putAll_of_mem ⟨key, member, rfl⟩ fun other _ same => by rw [same]]
  simp

/-- A row shows under the name of an aggregate its value over the members. -/
theorem get?_row_name (wellFormed : t.IsWellFormed dataset columns) {rule : ApplyRule}
    (member : rule ∈ t.apply) (members : List Record) :
    (t.row members).get? rule.name = rule.value? members := by
  have one : ∀ other ∈ t.apply, other.name = rule.name →
      other.value? members = rule.value? members := fun other listed same => by
    rw [List.inj_on_of_nodup_map wellFormed.distinct listed member same]
  have unshown : (t.shown members).get? rule.name = none := by
    cases members with
    | nil => rfl
    | cons first others =>
      exact Record.get?_putAll_of_forall_ne fun key _ => text_ne_name wellFormed member key
  rw [row_eq, Record.get?_putAll_of_mem ⟨rule, member, rfl⟩ one, unshown, Option.or_none]

/-- The row made from the members of a tuple is the row of their group. -/
theorem isRowOf_project (wellFormed : t.IsWellFormed dataset columns) {records : List Record}
    {tuple : List (Option Scalar)} (listed : tuple ∈ Grouping.tuples t.group records) :
    t.IsRowOf columns (Grouping.members t.group records tuple)
      ((t.row (Grouping.members t.group records tuple)).project columns) := by
  obtain ⟨witness, stands, shows⟩ := Grouping.mem_tuples_iff.1 listed
  have present : witness ∈ Grouping.members t.group records tuple :=
    Grouping.mem_members_iff.2 ⟨stands, shows⟩
  have alike : ∀ record ∈ Grouping.members t.group records tuple, ∀ key ∈ t.group,
      (record.get? key.text).map Scalar.groupKey = (witness.get? key.text).map Scalar.groupKey := by
    intro record member
    have same := ((Grouping.mem_members_iff.1 member).2).trans shows.symm
    exact fun key grouped => List.map_inj_left.1 same key grouped
  generalize Grouping.members t.group records tuple = members at present alike
  obtain ⟨first, others, rfl⟩ := List.exists_cons_of_ne_nil (List.ne_nil_of_mem present)
  have shown {key : FieldKey} (grouped : key ∈ t.group) :
      ((t.row (first :: others)).project columns).get? key.text = first.get? key.text := by
    rw [Record.get?_project, if_pos (wellFormed.group key grouped).2,
      get?_row_text wellFormed grouped]
  refine ⟨fun key absent => ?_, fun key grouped => shown grouped,
    fun key grouped record member => ?_, fun rule applied listed => ?_⟩
  · rw [Record.get?_project, if_neg absent]
  · rw [shown grouped, alike first List.mem_cons_self key grouped, alike record member key grouped]
  · rw [Record.get?_project, if_pos listed, get?_row_name wellFormed applied]

end Transformations

namespace Query

variable {inCatalog : String → Bool} {doc : Json} {query : Query}

/-- The records of a query's answer before grouping, in their order. -/
def matching (query : Query) (records : List Record) : List Record :=
  records.filter fun record => query.filter.accepts record

/-- Rows are arranged without loss and without doubles. -/
theorem perm_arrange {rows arranged : List Record} (found : query.arrange rows = some arranged) :
    arranged.Perm rows := by
  unfold arrange at found
  split at found
  · obtain rfl := Option.some.inj found
    exact List.Perm.refl rows
  · exact StableSort.perm_sort found

/-- Rows that cannot be arranged are more than twenty, and the query asks for an order that is none
among them. -/
theorem arrange_eq_none {rows : List Record} (failed : query.arrange rows = none) :
    ∃ order, query.order = some order ∧ order.sort rows = none ∧
      StableSort.insertionLimit < rows.length ∧ ¬order.IsLawfulOn rows := by
  unfold arrange at failed
  split at failed
  · cases failed
  · next order ordered => exact ⟨order, ordered, failed, OrderSpec.sort_eq_none failed⟩

/-- A query is refused when it has more rows than the limit. -/
theorem execute_eq_error_iff {rowLimit : Nat} {records : List Record} {n : Nat}
    (count : (query.candidates records).length = n) :
    query.execute rowLimit records = .error (.resultTooLarge n rowLimit) ↔ rowLimit < n := by
  subst count
  unfold execute
  dsimp only
  by_cases large : rowLimit < (query.candidates records).length
  · simp only [large, ↓reduceIte]
  · simp only [large, ↓reduceIte, iff_false]
    split <;> nofun

/-- A query within the limit has its rows restricted to its columns and arranged, if they can be. -/
theorem execute_of_le {rowLimit : Nat} {records : List Record}
    (within : (query.candidates records).length ≤ rowLimit) :
    query.execute rowLimit records =
      match query.arrange ((query.candidates records).map (Record.project query.columns)) with
      | some rows => .ok rows
      | none => .error .breakdown := by
  unfold execute
  exact if_neg (Nat.not_lt.2 within)

/-- The rows of a query's answer are its candidates, restricted to its columns. -/
theorem exists_candidate_of_mem_rows {rowLimit : Nat} {records rows : List Record}
    (answered : query.execute rowLimit records = .ok rows) {row : Record} (member : row ∈ rows) :
    ∃ candidate ∈ query.candidates records, candidate.project query.columns = row := by
  have within : (query.candidates records).length ≤ rowLimit := by
    by_contra tooMany
    rw [(execute_eq_error_iff rfl).2 (Nat.not_le.1 tooMany)] at answered
    cases answered
  rw [execute_of_le within] at answered
  split at answered
  · next arranged =>
    cases answered
    exact List.mem_map.1 ((perm_arrange arranged).mem_iff.1 member)
  · cases answered

/-- Without grouping the rows before they are restricted are the matching records. -/
theorem candidates_of_ungrouped (ungrouped : query.transformations = none)
    (records : List Record) : query.candidates records = query.matching records := by
  unfold Query.candidates
  rw [ungrouped]
  rfl

/-- With grouping there is a row for each tuple that a matching record shows, from its members. -/
theorem candidates_of_grouped {t : Transformations} (grouped : query.transformations = some t)
    (records : List Record) :
    query.candidates records = (Grouping.tuples t.group (query.matching records)).map
      fun tuple => t.row (Grouping.members t.group (query.matching records) tuple) := by
  unfold Query.candidates
  rw [grouped]
  show t.rows (query.matching records) = _
  rw [Transformations.rows, Grouping.groups_eq, List.map_map]
  rfl

/-- A query without grouping is refused exactly when more records match than the limit allows.
Otherwise its rows are the matching records restricted to its columns: in their order if it asks for
none, and else as if the matching records were put in order first. Restricting changes no comparison
that the order makes. Or else nobody is answered: this happens only if the matching records cannot be
put in order, which are more than twenty then, and among which the order is none. -/
theorem execute_of_ungrouped (read : Query.read inCatalog doc = .ok query)
    (ungrouped : query.transformations = none) (rowLimit : Nat) (records : List Record) :
    let selected := query.matching records
    let restrict := Record.project query.columns
    (query.execute rowLimit records = .error (.resultTooLarge selected.length rowLimit) ↔
      rowLimit < selected.length) ∧
    (selected.length ≤ rowLimit →
      (∃ rows, query.execute rowLimit records = .ok rows ∧ rows.Perm (selected.map restrict) ∧
        (query.order = none → rows = selected.map restrict) ∧
        ∀ order, query.order = some order →
          ∃ sorted, order.sort selected = some sorted ∧ rows = sorted.map restrict) ∨
      query.execute rowLimit records = .error .breakdown ∧
        ∃ order, query.order = some order ∧ order.sort selected = none ∧
          StableSort.insertionLimit < selected.length ∧ ¬order.IsLawfulOn selected) ∧
    (∀ order, query.order = some order → ∀ left right,
      order.compareRows (restrict left) (restrict right) = order.compareRows left right) ∧
    ∀ record key, (restrict record).get? key =
      if key ∈ query.columns then record.get? key else none := by
  intro selected restrict
  have candidates : query.candidates records = selected := candidates_of_ungrouped ungrouped records
  refine ⟨execute_eq_error_iff (congrArg List.length candidates), fun within => ?_,
    fun order ordered => OrderSpec.compareRows_project (Grammar.mem_columns_of_order read ordered),
    fun record key => Record.get?_project query.columns record key⟩
  have answered := execute_of_le (candidates ▸ within)
  rw [candidates] at answered
  -- Sorting the restricted rows is sorting the records they come from.
  have sorts (order : OrderSpec) (ordered : query.order = some order) :
      query.arrange (selected.map restrict) = (order.sort selected).map (List.map restrict) := by
    rw [arrange, ordered]
    exact OrderSpec.sort_project (Grammar.mem_columns_of_order read ordered) selected
  cases arranged : query.arrange (selected.map restrict) with
  | some rows =>
    refine .inl ⟨rows, by rw [answered, arranged], perm_arrange arranged, fun unordered => ?_,
      fun order ordered => ?_⟩
    · rw [arrange, unordered] at arranged
      exact (Option.some.inj arranged).symm
    · rw [sorts order ordered] at arranged
      obtain ⟨sorted, found, same⟩ := Option.map_eq_some_iff.1 arranged
      exact ⟨sorted, found, same.symm⟩
  | none =>
    obtain ⟨order, ordered, -⟩ := arrange_eq_none arranged
    rw [sorts order ordered, Option.map_eq_none_iff] at arranged
    exact .inr ⟨by rw [answered, sorts order ordered, arranged]; rfl, order, ordered, arranged,
      OrderSpec.sort_eq_none arranged⟩

/-- The record of a section. -/
def sectionRecord (dept uuid : String) (avg year : Binary64) : Record :=
  ((((∅ : Record).insert "courses_dept" (.text dept)).insert "courses_uuid" (.text uuid)).insert
    "courses_avg" (.number avg)).insert "courses_year" (.number year)

/-- Four sections of two departments. -/
def fourSections : List Record :=
  [sectionRecord "cpsc" "1" (.ofNat 85) (.ofNat 2010),
    sectionRecord "math" "2" (.ofNat 90) (.ofNat 2012),
    sectionRecord "cpsc" "3" (.ofNat 70) (.ofNat 2011),
    sectionRecord "math" "4" (.ofNat 50) (.ofNat 2013)]

/-- The departments and averages of the sections with an average above sixty, the lowest average
first. -/
def aboveSixty : Query where
  dataset := "courses"
  filter := .compares .greater ⟨"courses", .avg⟩ (.ofNat 60)
  columns := ["courses_dept", "courses_avg"]
  order := some (.key "courses_avg")
  transformations := none

/-- Three of four sections are too many for two rows, and three rows otherwise: the averages and
departments, in order, and nothing else. -/
theorem execute_aboveSixty :
    aboveSixty.execute 2 fourSections = .error (.resultTooLarge 3 2) ∧
      aboveSixty.execute 3 fourSections = .ok
        [(((∅ : Record).insert "courses_dept" (.text "cpsc")).insert "courses_avg"
            (.number (.ofNat 70))),
          (((∅ : Record).insert "courses_dept" (.text "cpsc")).insert "courses_avg"
            (.number (.ofNat 85))),
          (((∅ : Record).insert "courses_dept" (.text "math")).insert "courses_avg"
            (.number (.ofNat 90)))] := by
  have formed : aboveSixty.IsWellFormed fun _ => true :=
    { hasId := by decide
      noUnderscore := by decide
      known := rfl
      filter := .inr (.comparison rfl rfl (by decide +kernel))
      someColumns := by decide
      columnNames := by decide
      order := by
        rintro spec ⟨rfl⟩
        decide
      ungrouped := fun _ column listed => by
        simp only [aboveSixty, List.mem_cons, List.not_mem_nil, or_false] at listed
        rcases listed with rfl | rfl
        · exact ⟨.dept, rfl⟩
        · exact ⟨.avg, rfl⟩
      grouped := by
        rintro t ⟨⟩ }
  have read := read_toJson formed
  have count : (aboveSixty.matching fourSections).length = 3 := by decide +kernel
  obtain ⟨refused, _⟩ := execute_of_ungrouped read rfl 2 fourSections
  obtain ⟨_, answered, _⟩ := execute_of_ungrouped read rfl 3 fourSections
  rw [count] at refused answered
  refine ⟨refused.2 (by decide), ?_⟩
  rcases answered (Nat.le_refl 3) with ⟨rows, executed, _, _, ordered⟩ | ⟨_, _, _, _, long, _⟩
  · obtain ⟨sorted, found, rfl⟩ := ordered _ rfl
    have expected : (OrderSpec.key "courses_avg").sort (aboveSixty.matching fourSections) = some
        [sectionRecord "cpsc" "3" (.ofNat 70) (.ofNat 2011),
          sectionRecord "cpsc" "1" (.ofNat 85) (.ofNat 2010),
          sectionRecord "math" "2" (.ofNat 90) (.ofNat 2012)] := by decide +kernel
    obtain rfl := Option.some.inj (found.symm.trans expected)
    rw [executed]
    decide +kernel
  · exact absurd long (by decide)

/-- The years of twenty-one sections, one of them no number, as they come from uploads whose years
are texts. -/
def oddYears : List Binary64 :=
  [.ofNat 2004, .ofNat 2006, .ofNat 2012, .ofNat 2001, .ofNat 2012, .ofNat 2012, .ofNat 2014,
    .ofNat 2016, .nan false, .ofNat 2010, .ofNat 2014, .ofNat 2003, .ofNat 2010, .ofNat 2003,
    .ofNat 2008, .ofNat 2000, .ofNat 2002, .ofNat 2016, .ofNat 2002, .ofNat 2009, .ofNat 2009]

/-- Sections with these years. -/
def oddSections : List Record :=
  oddYears.mapIdx fun place year => sectionRecord "cpsc" (toString place) (.ofNat 70) year

/-- All years in order. -/
def years : Query where
  dataset := "courses"
  filter := .all
  columns := ["courses_year"]
  order := some (.key "courses_year")
  transformations := none

/-- The years of twenty-one sections, one of them no number, cannot be put in order: there is no
answer, though the limit allows for five thousand rows. -/
theorem execute_years :
    Query.read (· == "courses") years.toJson = .ok years ∧
      (years.matching oddSections).length = 21 ∧
      years.execute 5000 oddSections = .error .breakdown := by
  refine ⟨read_toJson ?_, by decide +kernel, by decide +kernel⟩
  exact
    { hasId := by decide
      noUnderscore := by decide
      known := rfl
      filter := .inl rfl
      someColumns := by decide
      columnNames := by decide
      order := by
        rintro spec ⟨rfl⟩
        decide
      ungrouped := fun _ => by simpa [years] using ⟨Field.year, rfl⟩
      grouped := by
        rintro t ⟨⟩ }

/-- A query with grouping is refused exactly when the matching records show more tuples under the
group keys than the limit allows, however many records match. Otherwise it has one row for each
tuple, made from all matching records that show it, and no aggregate has the name of a group key. Or
else nobody is answered: this happens only if the rows cannot be put in order, which are more than
twenty then, and among which the order is none. -/
theorem execute_of_grouped (read : Query.read inCatalog doc = .ok query) {t : Transformations}
    (grouped : query.transformations = some t) (rowLimit : Nat) (records : List Record) :
    let selected := query.matching records
    let count := (selected.map (Grouping.signature t.group)).toFinset.card
    (query.execute rowLimit records = .error (.resultTooLarge count rowLimit) ↔
      rowLimit < count) ∧
    (count ≤ rowLimit → ∃ (tuples : List (List (Option Scalar)))
        (rowOf : List (Option Scalar) → Record),
      tuples.Nodup ∧
      (∀ tuple, tuple ∈ tuples ↔
        ∃ record ∈ selected, Grouping.signature t.group record = tuple) ∧
      (∀ tuple ∈ tuples,
        t.IsRowOf query.columns (Grouping.members t.group selected tuple) (rowOf tuple)) ∧
      ((∃ rows, query.execute rowLimit records = .ok rows ∧ rows.Perm (tuples.map rowOf)) ∨
        query.execute rowLimit records = .error .breakdown ∧
          ∃ order, query.order = some order ∧ order.sort (tuples.map rowOf) = none ∧
            StableSort.insertionLimit < count ∧ ¬order.IsLawfulOn (tuples.map rowOf))) ∧
    ∀ key ∈ t.group, ∀ rule ∈ t.apply, key.text ≠ rule.name := by
  intro selected count
  have wellFormed := Grammar.isWellFormed_of_grouped read grouped
  have candidates := candidates_of_grouped grouped records
  have counted : (query.candidates records).length = count := by
    rw [candidates, List.length_map]
    exact Grouping.length_tuples t.group selected
  refine ⟨execute_eq_error_iff counted, fun within => ?_, fun key _ rule applied =>
    Transformations.text_ne_name wellFormed applied key⟩
  let rowOf (tuple : List (Option Scalar)) : Record :=
    (t.row (Grouping.members t.group selected tuple)).project query.columns
  have answered := execute_of_le (counted ▸ within)
  have restricted : (query.candidates records).map (Record.project query.columns) =
      (Grouping.tuples t.group selected).map rowOf := by
    rw [candidates, List.map_map]
    rfl
  rw [restricted] at answered
  refine ⟨Grouping.tuples t.group selected, rowOf, Grouping.nodup_tuples t.group selected,
    fun tuple => Grouping.mem_tuples_iff,
    fun tuple listed => Transformations.isRowOf_project wellFormed listed, ?_⟩
  cases arranged : query.arrange ((Grouping.tuples t.group selected).map rowOf) with
  | some rows => exact .inl ⟨rows, by rw [answered, arranged], perm_arrange arranged⟩
  | none =>
    obtain ⟨order, ordered, failed, long, unlawful⟩ := arrange_eq_none arranged
    refine .inr ⟨by rw [answered, arranged], order, ordered, failed, ?_, unlawful⟩
    rw [← counted, ← List.length_map (Record.project query.columns), restricted]
    exact long

/-- The best average and the number of sections of each department, the best first. -/
def bestByDepartment : Query where
  dataset := "courses"
  filter := .all
  columns := ["courses_dept", "best", "many"]
  order := some (.keys .down ["best"])
  transformations := some ⟨[⟨"courses", .dept⟩],
    [⟨"best", .max, ⟨"courses", .avg⟩⟩, ⟨"many", .count, ⟨"courses", .uuid⟩⟩]⟩

/-- Four sections of two departments make two rows, which are too many for one row; each row has its
department, the best average in it and how many sections it has. -/
theorem execute_bestByDepartment :
    bestByDepartment.execute 1 fourSections = .error (.resultTooLarge 2 1) ∧
      ∃ rows cpsc math, bestByDepartment.execute 2 fourSections = .ok rows ∧
        rows.Perm [cpsc, math] ∧
        cpsc.get? "courses_dept" = some (.text "cpsc") ∧
        cpsc.get? "best" = some (.number (.ofNat 85)) ∧
        cpsc.get? "many" = some (.number (.ofNat 2)) ∧
        math.get? "courses_dept" = some (.text "math") ∧
        math.get? "best" = some (.number (.ofNat 90)) ∧
        math.get? "many" = some (.number (.ofNat 2)) ∧
        math.get? "courses_avg" = none := by
  have formed : bestByDepartment.IsWellFormed fun _ => true :=
    { hasId := by decide
      noUnderscore := by decide
      known := rfl
      filter := .inl rfl
      someColumns := by decide
      columnNames := by decide
      order := by
        rintro spec ⟨rfl⟩
        decide
      ungrouped := by
        rintro ⟨⟩
      grouped := by
        rintro t ⟨rfl⟩
        exact
          { someGroup := by decide
            group := by decide
            apply := by decide
            distinct := by decide
            produced := by
              simp [bestByDepartment, Grammar.Produces, FieldKey.text, recordKey, Field.label] } }
  have read := read_toJson formed
  have count : ((bestByDepartment.matching fourSections).map
      (Grouping.signature [⟨"courses", .dept⟩])).toFinset.card = 2 := by decide +kernel
  obtain ⟨refused, _⟩ := execute_of_grouped read rfl 1 fourSections
  obtain ⟨_, answered, _⟩ := execute_of_grouped read rfl 2 fourSections
  rw [count] at refused answered
  refine ⟨refused.2 (by decide), ?_⟩
  obtain ⟨tuples, rowOf, distinct, listed, made, outcome⟩ := answered (Nat.le_refl 2)
  have both : tuples.Perm [[some (.text "cpsc")], [some (.text "math")]] := by
    refine (List.perm_ext_iff_of_nodup distinct (by decide)).2 fun tuple => ?_
    have signatures : (bestByDepartment.matching fourSections).map
        (Grouping.signature [⟨"courses", .dept⟩]) = [[some (.text "cpsc")], [some (.text "math")],
          [some (.text "cpsc")], [some (.text "math")]] := by decide +kernel
    rw [listed, ← List.mem_map, signatures]
    simp only [List.mem_cons, List.not_mem_nil, or_false]
    constructor
    · rintro (same | same | same | same)
      exacts [.inl same, .inr same, .inl same, .inr same]
    · rintro (same | same)
      exacts [.inl same, .inr (.inl same)]
  have cpsc := made [some (.text "cpsc")] (both.mem_iff.2 (by simp))
  have math := made [some (.text "math")] (both.mem_iff.2 (by simp))
  rcases outcome with ⟨rows, executed, perm⟩ | ⟨_, _, _, _, long, _⟩
  · refine ⟨rows, _, _, executed, perm.trans (both.map rowOf), ?_, ?_, ?_, ?_, ?_, ?_, ?_⟩
    · exact (cpsc.first ⟨"courses", .dept⟩ (by simp)).trans (by decide +kernel)
    · exact (cpsc.aggregated ⟨"best", .max, ⟨"courses", .avg⟩⟩ (by simp) (by decide)).trans
        (by decide +kernel)
    · exact (cpsc.aggregated ⟨"many", .count, ⟨"courses", .uuid⟩⟩ (by simp) (by decide)).trans
        (by decide +kernel)
    · exact (math.first ⟨"courses", .dept⟩ (by simp)).trans (by decide +kernel)
    · exact (math.aggregated ⟨"best", .max, ⟨"courses", .avg⟩⟩ (by simp) (by decide)).trans
        (by decide +kernel)
    · exact (math.aggregated ⟨"many", .count, ⟨"courses", .uuid⟩⟩ (by simp) (by decide)).trans
        (by decide +kernel)
    · exact math.onlyColumns _ (by decide)
  · exact absurd long (by decide)

/-- The years of each single section, in order. -/
def yearsById : Query where
  dataset := "courses"
  filter := .all
  columns := ["courses_uuid", "courses_year"]
  order := some (.key "courses_year")
  transformations := some ⟨[⟨"courses", .uuid⟩, ⟨"courses", .year⟩], []⟩

/-- Rows of groups cannot be put in order either if their years are those of these twenty-one
sections. -/
theorem execute_yearsById :
    Query.read (· == "courses") yearsById.toJson = .ok yearsById ∧
      (oddSections.map (Grouping.signature
        [⟨"courses", .uuid⟩, ⟨"courses", .year⟩])).toFinset.card = 21 ∧
      yearsById.execute 5000 oddSections = .error .breakdown := by
  refine ⟨read_toJson ?_, by decide +kernel, by decide +kernel⟩
  exact
    { hasId := by decide
      noUnderscore := by decide
      known := rfl
      filter := .inl rfl
      someColumns := by decide
      columnNames := by decide
      order := by
        rintro spec ⟨rfl⟩
        decide
      ungrouped := by
        rintro ⟨⟩
      grouped := by
        rintro t ⟨rfl⟩
        exact
          { someGroup := by decide
            group := by decide
            apply := by decide
            distinct := by decide
            produced := by
              simp [yearsById, Grammar.Produces, FieldKey.text, recordKey, Field.label] } }

end Query

end Campus
