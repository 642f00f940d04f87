import Campus.Proofs.Json.Proper
import Campus.Proofs.Query.Documents
/-!
# Queries and their documents

Well-formed queries are the image of reading. Every query that is read is well formed, and every
well-formed query is read from the document that writes it, so the typed form loses nothing.
-/

namespace Campus

mutual

/-- The document of a filter. -/
def Filter.toJson : Filter → Json
  | .all => .object []
  | .and conditions => .object [("AND", .array (Filter.toJsonAll conditions))]
  | .or conditions => .object [("OR", .array (Filter.toJsonAll conditions))]
  | .not condition => .object [("NOT", condition.toJson)]
  | .compares comparator key bound =>
    .object [(comparator.label, .object [(key.text, .number (.real bound))])]
  | .matches key pattern => .object [("IS", .object [(key.text, .text pattern.literal)])]

/-- The documents of several filters. -/
def Filter.toJsonAll : List Filter → List Json
  | [] => []
  | condition :: rest => condition.toJson :: Filter.toJsonAll rest

end

/-- The document of an order. -/
def OrderSpec.toJson : OrderSpec → Json
  | .key column => .text column
  | .keys direction columns =>
    .object [("dir", .text direction.label), ("keys", .array (columns.map .text))]

/-- The document of grouping and aggregates. -/
def Transformations.toJson (t : Transformations) : Json :=
  .object [("APPLY", .array (t.apply.map ApplyRule.toJson)),
    ("GROUP", .array (t.group.map fun key => .text key.text))]

namespace Query

/-- The members of a query's options. -/
def optionMembers (query : Query) : Entries Json :=
  match query.order with
  | none => [("COLUMNS", .array (query.columns.map .text))]
  | some spec => [("COLUMNS", .array (query.columns.map .text)), ("ORDER", spec.toJson)]

/-- The members of a query's document. -/
def members (query : Query) : Entries Json :=
  match query.transformations with
  | none => [("OPTIONS", .object query.optionMembers), ("WHERE", query.filter.toJson)]
  | some t =>
    [("OPTIONS", .object query.optionMembers), ("TRANSFORMATIONS", t.toJson),
      ("WHERE", query.filter.toJson)]

/-- The document that writes a query. -/
def toJson (query : Query) : Json := .object query.members

end Query

/-- A filter over one dataset that is not the one that accepts everything: conjunctions and
disjunctions have conditions, numeric fields are compared with finite numbers and textual ones with
patterns in normal form. -/
inductive Filter.IsWellFormed (dataset : String) : Filter → Prop
  | conjunction {conditions : List Filter} (nonEmpty : conditions ≠ [])
    (each : ∀ condition ∈ conditions, condition.IsWellFormed dataset) :
    Filter.IsWellFormed dataset (.and conditions)
  | disjunction {conditions : List Filter} (nonEmpty : conditions ≠ [])
    (each : ∀ condition ∈ conditions, condition.IsWellFormed dataset) :
    Filter.IsWellFormed dataset (.or conditions)
  | negation {condition : Filter} (inner : condition.IsWellFormed dataset) :
    Filter.IsWellFormed dataset (.not condition)
  | comparison {comparator : Comparator} {key : FieldKey} {bound : Binary64}
    (one : key.dataset = dataset) (numeric : key.fieldClass = .numeric)
    (finite : bound.isFinite = true) : Filter.IsWellFormed dataset (.compares comparator key bound)
  | pattern {key : FieldKey} {pattern : Pattern} (one : key.dataset = dataset)
    (textual : key.fieldClass = .text) (normal : pattern.IsNormal) :
    Filter.IsWellFormed dataset (.matches key pattern)

/-- Grouping by columns and aggregates over one dataset: there is a group key, aggregates are sound
and have different names, and every column is a group key or the name of an aggregate. -/
structure Transformations.IsWellFormed (dataset : String) (columns : List String)
    (t : Transformations) : Prop where
  someGroup : t.group ≠ []
  group : ∀ key ∈ t.group, key.dataset = dataset ∧ key.text ∈ columns
  apply : ∀ rule ∈ t.apply, rule.name ≠ "" ∧ '_' ∉ rule.name.toList ∧
    rule.target.dataset = dataset ∧ (rule.token = .count ∨ rule.target.fieldClass = .numeric)
  distinct : (t.apply.map ApplyRule.name).Nodup
  produced : ∀ column ∈ columns, Grammar.Produces t column

/-- A query over one dataset of a catalog. Without transformations its columns are keys of that
dataset; only the filter as a whole may accept everything. -/
structure Query.IsWellFormed (inCatalog : String → Bool) (query : Query) : Prop where
  hasId : query.dataset ≠ ""
  noUnderscore : '_' ∉ query.dataset.toList
  known : inCatalog query.dataset = true
  filter : query.filter = .all ∨ query.filter.IsWellFormed query.dataset
  someColumns : query.columns ≠ []
  columnNames : ∀ column ∈ query.columns, column ≠ ""
  order : ∀ spec, query.order = some spec →
    spec.columns ≠ [] ∧ ∀ column ∈ spec.columns, column ∈ query.columns
  ungrouped : query.transformations = none →
    ∀ column ∈ query.columns, ∃ field, column = recordKey query.dataset field
  grouped : ∀ t, query.transformations = some t → t.IsWellFormed query.dataset query.columns

namespace Grammar

variable {dataset : String}

/-- What is read as a filter from a proper document is well formed if its keys name one dataset. -/
theorem isWellFormed_of_filter {doc : Json} {found : Filter} (read : filter doc = .ok found)
    (proper : doc.IsProper) (one : ∀ key ∈ found.keys, key.dataset = dataset) :
    found.IsWellFormed dataset := by
  have conditions {operator : String} {items : List Json} {parts : List Filter}
      (each : List.Forall₂ (fun doc (f : Filter) => doc.IsProper →
        (∀ key ∈ f.keys, key.dataset = dataset) → f.IsWellFormed dataset) items parts)
      (proper : (Json.object [(operator, .array items)]).IsProper)
      (one : ∀ key ∈ Filter.keysOfAll parts, key.dataset = dataset) :
      ∀ part ∈ parts, part.IsWellFormed dataset := by
    intro part stands
    obtain ⟨item, member, wellFormed⟩ := Reading.exists_result_of_mem each.flip stands
    cases Json.isProper_of_single proper with
    | array properItems =>
      exact wellFormed (properItems item member) fun key mentioned =>
        one key (Filter.mem_keysOfAll_iff.2 ⟨part, stands, mentioned⟩)
  have someParts {R : Json → Filter → Prop} {items : List Json} {parts : List Filter}
      (nonEmpty : items ≠ []) (each : List.Forall₂ R items parts) : parts ≠ [] := by
    rintro rfl
    exact nonEmpty (List.forall₂_nil_right_iff.1 each)
  refine filter_induction (P := fun doc f => doc.IsProper →
    (∀ key ∈ f.keys, key.dataset = dataset) → f.IsWellFormed dataset)
    ?_ ?_ ?_ ?_ ?_ read proper one
  · intro items parts nonEmpty each proper one
    exact .conjunction (someParts nonEmpty each) (conditions each proper one)
  · intro items parts nonEmpty each proper one
    exact .disjunction (someParts nonEmpty each) (conditions each proper one)
  · intro operand inner wellFormed proper one
    exact .negation (wellFormed (Json.isProper_of_single proper) one)
  · intro comparator key bound _ numeric proper one
    cases Json.isProper_of_single (Json.isProper_of_single proper) with
    | number finite => exact .comparison (one key (by simp [Filter.keys])) numeric finite
  · intro key literal pattern _ textual readLiteral _ one
    have normal := (Pattern.ofLiteral_eq_ok_iff.1 readLiteral).1
    exact .pattern (one key (by simp [Filter.keys])) textual normal

/-- What is read as grouping and aggregates is well formed if all keys name one dataset. -/
theorem isWellFormed_of_transformations {columns : List String} {doc : Json} {t : Transformations}
    (read : transformations columns doc = .ok t) (one : ∀ key ∈ t.keys, key.dataset = dataset)
    (produced : ∀ column ∈ columns, Produces t column) : t.IsWellFormed dataset columns := by
  obtain ⟨members, -, -, -, -, someGroup, group, apply, distinct⟩ :=
    transformations_eq_ok_iff.1 read
  refine ⟨someGroup, fun key member => ?_, fun rule member => ?_, distinct, produced⟩
  · exact ⟨one key (List.mem_append_left _ member), (group key member).2⟩
  · have sound := apply rule member
    have accepted := sound.accepted
    simp only [ApplyToken.acceptsClass, Bool.or_eq_true, beq_iff_eq] at accepted
    exact ⟨sound.named, sound.noUnderscore,
      one _ (List.mem_append_right _ (List.mem_map_of_mem member)), accepted⟩

/-- A key of a dataset with a proper id names its field. -/
theorem isSound_of_dataset {key : FieldKey} (hasId : dataset ≠ "")
    (noUnderscore : '_' ∉ dataset.toList) (one : key.dataset = dataset) : key.IsSound := by
  subst one
  exact namesField_recordKey_iff.2 ⟨hasId, noUnderscore⟩

end Grammar

namespace Filter

/-- The documents of several filters are written one by one. -/
theorem toJsonAll_eq_map (conditions : List Filter) :
    toJsonAll conditions = conditions.map toJson := by
  induction conditions with
  | nil => rfl
  | cons condition rest ih => rw [toJsonAll, ih, List.map_cons]

variable {dataset : String} {found : Filter}

/-- A well-formed filter is written as a proper document. -/
theorem isProper_toJson (wellFormed : found.IsWellFormed dataset) : found.toJson.IsProper := by
  have all {conditions : List Filter} (each : ∀ condition ∈ conditions, condition.toJson.IsProper) :
      (Json.array (toJsonAll conditions)).IsProper := by
    refine .array fun item member => ?_
    rw [toJsonAll_eq_map] at member
    obtain ⟨condition, stands, rfl⟩ := List.mem_map.1 member
    exact each condition stands
  induction wellFormed with
  | conjunction _ _ ih => exact Json.isProper_single _ (all ih)
  | disjunction _ _ ih => exact Json.isProper_single _ (all ih)
  | negation _ ih => exact Json.isProper_single _ ih
  | comparison _ _ finite =>
    exact Json.isProper_single _ (Json.isProper_single _ (.number finite))
  | pattern => exact Json.isProper_single _ (Json.isProper_single _ (.text _))

/-- A well-formed filter is read from the document that writes it. -/
theorem read_toJson (hasId : dataset ≠ "") (noUnderscore : '_' ∉ dataset.toList)
    (wellFormed : found.IsWellFormed dataset) : Grammar.filter found.toJson = .ok found := by
  have all {conditions : List Filter}
      (each : ∀ condition ∈ conditions, Grammar.filter condition.toJson = .ok condition) :
      Grammar.filters (toJsonAll conditions) = .ok conditions := by
    rw [toJsonAll_eq_map, Grammar.filters_eq_ok_iff, List.forall₂_map_left_iff,
      List.forall₂_same]
    exact each
  have someItems {conditions : List Filter} (nonEmpty : conditions ≠ []) :
      toJsonAll conditions ≠ [] := by
    rw [toJsonAll_eq_map]
    exact fun empty => nonEmpty (List.map_eq_nil_iff.1 empty)
  induction wellFormed with
  | conjunction nonEmpty _ ih =>
    exact Grammar.filter_eq_ok_iff.2 (.conjunction (someItems nonEmpty) (all ih))
  | disjunction nonEmpty _ ih =>
    exact Grammar.filter_eq_ok_iff.2 (.disjunction (someItems nonEmpty) (all ih))
  | negation _ ih => exact Grammar.filter_eq_ok_iff.2 (.negation ih)
  | @comparison comparator key bound one numeric _ =>
    have sound := Grammar.isSound_of_dataset hasId noUnderscore one
    exact Grammar.filter_eq_ok_iff.2 (.comparison comparator (.real bound) sound numeric)
  | @pattern key pattern one textual normal =>
    have sound := Grammar.isSound_of_dataset hasId noUnderscore one
    have readLiteral := Pattern.ofLiteral_eq_ok_iff.2 ⟨normal, Or.inl rfl⟩
    exact Grammar.filter_eq_ok_iff.2 (.pattern sound textual readLiteral)

/-- All keys of a well-formed filter have its dataset. -/
theorem dataset_of_mem_keys (wellFormed : found.IsWellFormed dataset) :
    ∀ key ∈ found.keys, key.dataset = dataset := by
  induction wellFormed with
  | conjunction _ _ ih | disjunction _ _ ih =>
    intro key mentioned
    rw [keys] at mentioned
    obtain ⟨condition, stands, inside⟩ := mem_keysOfAll_iff.1 mentioned
    exact ih condition stands key inside
  | negation _ ih =>
    rw [keys]
    exact ih
  | comparison one _ _ | pattern one _ _ => simpa [keys] using one

end Filter

namespace OrderSpec

/-- An order is written as a proper document. -/
theorem isProper_toJson (spec : OrderSpec) : spec.toJson.IsProper := by
  cases spec with
  | key column => exact .text column
  | keys direction columns =>
    have ascending : ["dir", "keys"].Pairwise (· < ·) := by decide
    refine .object (Entries.ascending_of_keys ascending) fun member stands => ?_
    simp only [List.mem_cons, List.not_mem_nil, or_false] at stands
    rcases stands with rfl | rfl
    · exact .text _
    · exact Json.isProper_texts columns

/-- An order by columns of a query is what its document spells. -/
theorem spelled_toJson {columns : List String} {spec : OrderSpec} (nonEmpty : spec.columns ≠ [])
    (inColumns : ∀ column ∈ spec.columns, column ∈ columns) :
    Grammar.OrderSpelled columns spec.toJson spec := by
  cases spec with
  | key column => exact .column (inColumns column List.mem_cons_self)
  | keys direction names =>
    exact .keys (by simp) (by simp [Entries.get?]) (by simp [Entries.get?]) nonEmpty inColumns

end OrderSpec

namespace Transformations

variable {dataset : String} {columns : List String} {t : Transformations}

/-- Grouping and aggregates are written as a proper document. -/
theorem isProper_toJson (t : Transformations) : t.toJson.IsProper := by
  have ascending : ["APPLY", "GROUP"].Pairwise (· < ·) := by decide
  refine .object (Entries.ascending_of_keys ascending) fun member stands => ?_
  simp only [List.mem_cons, List.not_mem_nil, or_false] at stands
  rcases stands with rfl | rfl
  · refine .array fun item member => ?_
    obtain ⟨rule, _, rfl⟩ := List.mem_map.1 member
    exact Json.isProper_single _ (Json.isProper_single _ (.text _))
  · have texts := Json.isProper_texts (t.group.map FieldKey.text)
    rwa [List.map_map] at texts

/-- Well-formed grouping and aggregates are read from the document that writes them. -/
theorem read_toJson (hasId : dataset ≠ "") (noUnderscore : '_' ∉ dataset.toList)
    (wellFormed : t.IsWellFormed dataset columns) :
    Grammar.transformations columns t.toJson = .ok t := by
  refine Grammar.transformations_eq_ok_iff.2 ⟨_, rfl, by simp, by simp [Entries.get?],
    by simp [Entries.get?], wellFormed.someGroup, fun key member => ?_, fun rule member => ?_,
    wellFormed.distinct⟩
  · obtain ⟨one, inColumns⟩ := wellFormed.group key member
    exact ⟨Grammar.isSound_of_dataset hasId noUnderscore one, inColumns⟩
  · obtain ⟨named, plain, one, accepted⟩ := wellFormed.apply rule member
    refine ⟨named, plain, Grammar.isSound_of_dataset hasId noUnderscore one, ?_⟩
    simpa [ApplyToken.acceptsClass] using accepted

/-- Well-formed grouping and aggregates mention keys, all of one dataset. -/
theorem keys_of_isWellFormed (wellFormed : t.IsWellFormed dataset columns) :
    t.keys ≠ [] ∧ ∀ key ∈ t.keys, key.dataset = dataset := by
  constructor
  · simp [keys, wellFormed.someGroup]
  · intro key mentioned
    rcases List.mem_append.1 mentioned with grouped | targeted
    · exact (wellFormed.group key grouped).1
    · obtain ⟨rule, stands, rfl⟩ := List.mem_map.1 targeted
      exact (wellFormed.apply rule stands).2.2.1

end Transformations

namespace Query

open Grammar

variable {inCatalog : String → Bool} {query : Query}

/-- Every query that is read from a proper document is well formed. -/
theorem isWellFormed_of_read {doc : Json} (proper : doc.IsProper)
    (read : Query.read inCatalog doc = .ok query) : query.IsWellFormed inCatalog := by
  obtain ⟨columnKeys, readParts, datasetsEq, known⟩ := query_read_eq_ok_iff.1 read
  obtain ⟨top, options, whereDoc, rfl, spelled⟩ := parts_eq_ok_iff.1 readParts
  obtain ⟨someKeys, one⟩ := datasets_eq_singleton_iff.1 datasetsEq
  simp only [Parts.keys, List.mem_append] at one
  have keyed := spelled.columnKeys
  have readT := spelled.transformations
  have ordered := spelled.order
  have readCondition := spelled.filter
  obtain ⟨dataset, filter, columns, order, t⟩ := query
  -- One of the keys is sound, and all have the dataset of the query.
  have idOf : ∀ key : FieldKey, key.IsSound → key.dataset = dataset →
      dataset ≠ "" ∧ '_' ∉ dataset.toList := by
    rintro key sound rfl
    exact namesField_recordKey_iff.1 sound
  have valid : dataset ≠ "" ∧ '_' ∉ dataset.toList := by
    cases t with
    | none =>
      obtain ⟨rfl, sounds⟩ : columns = columnKeys.map FieldKey.text ∧ _ := keyed
      obtain ⟨key, stands⟩ := List.exists_mem_of_ne_nil columnKeys fun empty =>
        spelled.someColumns (by simp [empty])
      exact idOf key (sounds key stands) (one key (.inr stands))
    | some t =>
      generalize Entries.get? "TRANSFORMATIONS" top = part at readT
      cases readT with
      | some readT =>
        obtain ⟨members, -, -, -, -, someGroup, group, -⟩ := transformations_eq_ok_iff.1 readT
        obtain ⟨key, stands⟩ := List.exists_mem_of_ne_nil t.group someGroup
        exact idOf key (group key stands).1 (one key (.inl (.inr (List.mem_append_left _ stands))))
  refine ⟨valid.1, valid.2, known, ?_, spelled.someColumns, spelled.columnNames, ?_, ?_, ?_⟩
  · refine (condition_eq_ok_iff.1 readCondition).imp And.right fun readFilter => ?_
    exact isWellFormed_of_filter readFilter (Json.isProper_of_get? proper spelled.hasWhere)
      fun key mentioned => one key (.inl (.inl mentioned))
  · rintro spec rfl
    generalize Entries.get? "ORDER" options = part at ordered
    cases ordered with
    | some spelled =>
      cases spelled with
      | column member => exact ⟨List.cons_ne_nil _ _, by simpa [OrderSpec.columns] using member⟩
      | keys _ _ _ nonEmpty inColumns => exact ⟨nonEmpty, inColumns⟩
  · rintro rfl column member
    obtain ⟨rfl, -⟩ : columns = columnKeys.map FieldKey.text ∧ _ := keyed
    obtain ⟨key, stands, rfl⟩ := List.mem_map.1 member
    exact ⟨key.field, by rw [← one key (.inr stands)]; rfl⟩
  · rintro t rfl
    generalize Entries.get? "TRANSFORMATIONS" top = part at readT
    cases readT with
    | some readT =>
      exact isWellFormed_of_transformations readT (fun key member => one key (.inl (.inr member)))
        keyed.1

/-- A well-formed query is written as a proper document. -/
theorem isProper_toJson (wellFormed : query.IsWellFormed inCatalog) : query.toJson.IsProper := by
  have conditionProper : query.filter.toJson.IsProper := by
    rcases wellFormed.filter with all | filterFormed
    · rw [all]
      exact .object List.Pairwise.nil (by simp)
    · exact Filter.isProper_toJson filterFormed
  have columnsProper := Json.isProper_texts query.columns
  have optionsProper : (Json.object query.optionMembers).IsProper := by
    unfold optionMembers
    split
    · exact Json.isProper_single _ columnsProper
    · next spec _ =>
      have ascending : ["COLUMNS", "ORDER"].Pairwise (· < ·) := by decide
      refine .object (Entries.ascending_of_keys ascending) fun member stands => ?_
      simp only [List.mem_cons, List.not_mem_nil, or_false] at stands
      rcases stands with rfl | rfl
      · exact columnsProper
      · exact OrderSpec.isProper_toJson spec
  unfold toJson members
  split
  · have ascending : ["OPTIONS", "WHERE"].Pairwise (· < ·) := by decide
    refine .object (Entries.ascending_of_keys ascending) fun member stands => ?_
    simp only [List.mem_cons, List.not_mem_nil, or_false] at stands
    rcases stands with rfl | rfl
    · exact optionsProper
    · exact conditionProper
  · next t _ =>
    have ascending : ["OPTIONS", "TRANSFORMATIONS", "WHERE"].Pairwise (· < ·) := by decide
    refine .object (Entries.ascending_of_keys ascending) fun member stands => ?_
    simp only [List.mem_cons, List.not_mem_nil, or_false] at stands
    rcases stands with rfl | rfl | rfl
    · exact optionsProper
    · exact Transformations.isProper_toJson t
    · exact conditionProper

/-- The condition of a well-formed query is read from what it is written as, and is about its
dataset. -/
theorem condition_toJson (wellFormed : query.IsWellFormed inCatalog) :
    condition query.filter.toJson = .ok query.filter ∧
      ∀ key ∈ query.filter.keys, key.dataset = query.dataset := by
  rcases wellFormed.filter with all | formed
  · rw [all]
    exact ⟨rfl, by simp [Filter.keys]⟩
  · have read := Filter.read_toJson wellFormed.hasId wellFormed.noUnderscore formed
    exact ⟨condition_eq_ok_iff.2 (.inr read), Filter.dataset_of_mem_keys formed⟩

/-- The columns of a well-formed query are keys or come from its grouping, and there are keys
outside its condition, which are about its dataset. -/
theorem exists_columnKeys (wellFormed : query.IsWellFormed inCatalog) :
    ∃ columnKeys, ColumnsKeyed query.columns columnKeys query.transformations ∧
      (query.transformations.map Transformations.keys).getD [] ++ columnKeys ≠ [] ∧
      ∀ key ∈ (query.transformations.map Transformations.keys).getD [] ++ columnKeys,
        key.dataset = query.dataset := by
  cases grouped : query.transformations with
  | none =>
    have named : ∀ column ∈ query.columns, ∃ field, NamesField query.dataset field column := by
      intro column member
      obtain ⟨field, rfl⟩ := wellFormed.ungrouped grouped column member
      exact ⟨field, namesField_recordKey_iff.2 ⟨wellFormed.hasId, wellFormed.noUnderscore⟩⟩
    obtain ⟨keys, sameColumns, sounds⟩ := exists_keys_of_namesField named
    refine ⟨keys, ⟨sameColumns, fun key stands => (sounds key stands).1⟩, ?_,
      fun key stands => (sounds key stands).2⟩
    rintro (rfl : keys = [])
    exact wellFormed.someColumns sameColumns
  | some t =>
    have formed := wellFormed.grouped t grouped
    obtain ⟨someKeys, one⟩ := Transformations.keys_of_isWellFormed formed
    exact ⟨[], ⟨formed.produced, rfl⟩, by simpa using someKeys, by simpa using one⟩

/-- The parts of a well-formed query are spelled by the members it is written as. -/
theorem spelled_members (wellFormed : query.IsWellFormed inCatalog) {columnKeys : List FieldKey}
    (keyed : ColumnsKeyed query.columns columnKeys query.transformations) :
    PartsSpelled query.members query.optionMembers query.filter.toJson
      ⟨query.filter, query.columns, query.order, query.transformations, columnKeys⟩ := by
  have readT : Option.Rel (fun doc t => Grammar.transformations query.columns doc = .ok t)
      (Entries.get? "TRANSFORMATIONS" query.members) query.transformations := by
    cases grouped : query.transformations with
    | none => simp [members, grouped, Entries.get?]
    | some t =>
      have read := Transformations.read_toJson wellFormed.hasId wellFormed.noUnderscore
        (wellFormed.grouped t grouped)
      simpa [members, grouped, Entries.get?] using Option.Rel.some read
  have ordered : Option.Rel (OrderSpelled query.columns)
      (Entries.get? "ORDER" query.optionMembers) query.order := by
    cases order : query.order with
    | none => simp [optionMembers, order, Entries.get?]
    | some spec =>
      obtain ⟨nonEmpty, inColumns⟩ := wellFormed.order spec order
      have spelled := OrderSpec.spelled_toJson nonEmpty inColumns
      simpa [optionMembers, order, Entries.get?] using Option.Rel.some spelled
  exact
    { topKeys := by unfold members; split <;> simp
      hasWhere := by unfold members; split <;> simp [Entries.get?]
      hasOptions := by unfold members; split <;> simp [Entries.get?]
      filter := (condition_toJson wellFormed).1
      optionKeys := by unfold optionMembers; split <;> simp
      columns := by unfold optionMembers; split <;> simp [Entries.get?]
      someColumns := wellFormed.someColumns
      columnNames := wellFormed.columnNames
      transformations := readT
      columnKeys := keyed
      order := ordered }

/-- A well-formed query is read from the document that writes it. -/
theorem read_toJson (wellFormed : query.IsWellFormed inCatalog) :
    Query.read inCatalog query.toJson = .ok query := by
  obtain ⟨columnKeys, keyed, someKeys, one⟩ := exists_columnKeys wellFormed
  have oneInFilter := (condition_toJson wellFormed).2
  let parts : Parts :=
    ⟨query.filter, query.columns, query.order, query.transformations, columnKeys⟩
  have oneDataset : datasets parts.keys = [query.dataset] := by
    apply datasets_eq_singleton_iff.2
    rw [Parts.keys, List.append_assoc]
    refine ⟨fun empty => someKeys (List.append_eq_nil_iff.1 empty).2, fun key mentioned => ?_⟩
    exact (List.mem_append.1 mentioned).elim (oneInFilter key) (one key)
  exact query_read_eq_ok_iff.2
    ⟨columnKeys, parts_eq_ok_iff.2 ⟨_, _, _, rfl, spelled_members wellFormed keyed⟩, oneDataset,
      wellFormed.known⟩

/-- Every query that is read from a proper document is well formed, and every well-formed query is
written as a proper document from which it is read. -/
theorem read_wellFormed_and_read_toJson (inCatalog : String → Bool) :
    (∀ doc query, doc.IsProper → Query.read inCatalog doc = .ok query →
      query.IsWellFormed inCatalog) ∧
    ∀ query : Query, query.IsWellFormed inCatalog →
      query.toJson.IsProper ∧ Query.read inCatalog query.toJson = .ok query :=
  ⟨fun _ _ proper read => isWellFormed_of_read proper read,
    fun _ wellFormed => ⟨isProper_toJson wellFormed, read_toJson wellFormed⟩⟩

/-- The departments with sections above ninety, by their average. -/
def departmentsAboveNinety : Query where
  dataset := "courses"
  filter := .and [.compares .greater ⟨"courses", .avg⟩ ⟨0x4056800000000000⟩,
    .not (.matches ⟨"courses", .title⟩ (.containing "seminar"))]
  columns := ["courses_dept", "average"]
  order := some (.keys .down ["average"])
  transformations := some ⟨[⟨"courses", .dept⟩], [⟨"average", .avg, ⟨"courses", .avg⟩⟩]⟩

/-- The departments above ninety are written as a document that is read as them, and reading that
document shows them to be well formed. -/
theorem read_departmentsAboveNinety :
    let inCatalog := fun id => id == "courses"
    departmentsAboveNinety.IsWellFormed inCatalog ∧
      departmentsAboveNinety.toJson.IsProper ∧
      Query.read inCatalog departmentsAboveNinety.toJson = .ok departmentsAboveNinety := by
  intro inCatalog
  have filterFormed : departmentsAboveNinety.filter.IsWellFormed "courses" := by
    refine .conjunction (by simp) ?_
    simp only [List.mem_cons, List.not_mem_nil, or_false, forall_eq_or_imp, forall_eq]
    exact ⟨.comparison rfl rfl (by decide),
      .negation (.pattern rfl rfl (by simp [Pattern.IsNormal]))⟩
  have grouped : Transformations.IsWellFormed "courses" departmentsAboveNinety.columns
      ⟨[⟨"courses", .dept⟩], [⟨"average", .avg, ⟨"courses", .avg⟩⟩]⟩ :=
    { someGroup := by simp
      group := by simp [departmentsAboveNinety, FieldKey.text, recordKey, Field.label]
      apply := by simp [FieldKey.fieldClass, Field.fieldClass]
      distinct := by simp
      produced := by
        simp [departmentsAboveNinety, Grammar.Produces, FieldKey.text, recordKey, Field.label] }
  have formed : departmentsAboveNinety.IsWellFormed inCatalog :=
    { hasId := by simp [departmentsAboveNinety]
      noUnderscore := by simp [departmentsAboveNinety]
      known := by simp [departmentsAboveNinety, inCatalog]
      filter := .inr filterFormed
      someColumns := by simp [departmentsAboveNinety]
      columnNames := by simp [departmentsAboveNinety]
      order := by simp [departmentsAboveNinety, OrderSpec.columns]
      ungrouped := by simp [departmentsAboveNinety]
      grouped := by
        rintro t ⟨rfl⟩
        exact grouped }
  obtain ⟨proper, read⟩ := (read_wellFormed_and_read_toJson inCatalog).2 _ formed
  exact ⟨(read_wellFormed_and_read_toJson inCatalog).1 _ _ proper read, proper, read⟩

end Query
end Campus
