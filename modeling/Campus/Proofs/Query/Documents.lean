import Campus.Proofs.Data.Keyed
import Campus.Proofs.Query.Filters
/-!
# Accepted query documents

The grammar of query documents over one dataset, as predicates on documents that do not mention
reading. A document is accepted exactly when the grammar allows it over some dataset that exists.
-/

namespace Campus

/-- A filter over one dataset: `AND` or `OR` over a non-empty array of filters, `NOT` over a filter,
`LT`, `GT` or `EQ` over one numeric field with a number, `IS` over one textual field with a literal
whose asterisks stand at its ends. -/
inductive IsFilterDocument (dataset : String) : Json → Prop
  | junction {operator : String} {items : List Json} (junction : operator ∈ ["AND", "OR"])
    (nonEmpty : items ≠ []) (filters : ∀ item ∈ items, IsFilterDocument dataset item) :
    IsFilterDocument dataset (.object [(operator, .array items)])
  | negation {operand : Json} (filter : IsFilterDocument dataset operand) :
    IsFilterDocument dataset (.object [("NOT", operand)])
  | comparison {operator text : String} {field : Field} (bound : JsonNumber)
    (compares : operator ∈ ["LT", "GT", "EQ"]) (names : NamesField dataset field text)
    (numeric : field.fieldClass = .numeric) :
    IsFilterDocument dataset (.object [(operator, .object [(text, .number bound)])])
  | pattern {text literal : String} {field : Field} (names : NamesField dataset field text)
    (textual : field.fieldClass = .text) (ends : Pattern.AsterisksAtEnds literal) :
    IsFilterDocument dataset (.object [("IS", .object [(text, .text literal)])])

/-- The options of a query: `COLUMNS`, a non-empty array of non-empty texts, and perhaps `ORDER`,
and nothing else. -/
structure IsOptions (columns : List String) (options : Entries Json) : Prop where
  onlyKeys : ∀ member ∈ options, member.1 ∈ ["COLUMNS", "ORDER"]
  listed : Entries.get? "COLUMNS" options = some (.array (columns.map .text))
  someColumns : columns ≠ []
  columnNames : ∀ column ∈ columns, column ≠ ""
  order : ∀ doc, Entries.get? "ORDER" options = some doc →
    ∃ order, Grammar.OrderSpelled columns doc order

/-- An aggregate of a field of one dataset, under a non-empty name without underscores: of any field
for counting, of a numeric one else. -/
def IsApplyRule (dataset : String) (doc : Json) (name : String) : Prop :=
  name ≠ "" ∧ '_' ∉ name.toList ∧
    ∃ (token : ApplyToken) (field : Field) (text : String),
      doc = .object [(name, .object [(token.label, .text text)])] ∧
      NamesField dataset field text ∧ (token = .count ∨ field.fieldClass = .numeric)

/-- Grouping and aggregates over one dataset: exactly `GROUP`, a non-empty array of keys that are
columns, and `APPLY`, an array of aggregates with different names. Every column is a group key or
the name of an aggregate. -/
structure IsTransformations (dataset : String) (columns group names : List String)
    (members : Entries Json) : Prop where
  onlyKeys : ∀ member ∈ members, member.1 ∈ ["GROUP", "APPLY"]
  listed : Entries.get? "GROUP" members = some (.array (group.map .text))
  someGroup : group ≠ []
  groupKeys : ∀ text ∈ group, text ∈ columns ∧ ∃ field, NamesField dataset field text
  apply : ∃ rules, Entries.get? "APPLY" members = some (.array rules) ∧
    List.Forall₂ (IsApplyRule dataset) rules names
  distinct : names.Nodup
  produced : ∀ column ∈ columns, column ∈ group ∨ column ∈ names

/-- A query over one dataset: an object of `WHERE`, which is empty or a filter, `OPTIONS`, perhaps
`TRANSFORMATIONS`, and nothing else. Without transformations every column names a field. -/
def IsQueryDocument (dataset : String) (doc : Json) : Prop :=
  ∃ top options whereDoc columns, doc = .object top ∧
    (∀ member ∈ top, member.1 ∈ ["WHERE", "OPTIONS", "TRANSFORMATIONS"]) ∧
    Entries.get? "WHERE" top = some whereDoc ∧
    (whereDoc = .object [] ∨ IsFilterDocument dataset whereDoc) ∧
    Entries.get? "OPTIONS" top = some (.object options) ∧ IsOptions columns options ∧
    match Entries.get? "TRANSFORMATIONS" top with
    | none => ∀ column ∈ columns, ∃ field, NamesField dataset field column
    | some t => ∃ members group names, t = .object members ∧
        IsTransformations dataset columns group names members

namespace Grammar

variable {dataset : String}

/-- What is read as a filter whose keys name one dataset is a filter over that dataset. -/
theorem isFilterDocument_of_read {doc : Json} {found : Filter} (read : filter doc = .ok found)
    (one : ∀ key ∈ found.keys, key.dataset = dataset) : IsFilterDocument dataset doc := by
  have junction {operator : String} {items : List Json} {parts : List Filter}
      (joins : operator ∈ ["AND", "OR"]) (nonEmpty : items ≠ [])
      (each : List.Forall₂ (fun doc (f : Filter) =>
        (∀ key ∈ f.keys, key.dataset = dataset) → IsFilterDocument dataset doc) items parts)
      (one : ∀ key ∈ Filter.keysOfAll parts, key.dataset = dataset) :
      IsFilterDocument dataset (.object [(operator, .array items)]) := by
    refine .junction joins nonEmpty fun item member => ?_
    obtain ⟨part, stands, isFilter⟩ := Reading.exists_result_of_mem each member
    exact isFilter fun key mentioned =>
      one key (Filter.mem_keysOfAll_iff.2 ⟨part, stands, mentioned⟩)
  refine filter_induction (P := fun doc f => (∀ key ∈ f.keys, key.dataset = dataset) →
    IsFilterDocument dataset doc) ?_ ?_ ?_ ?_ ?_ read one
  · intro items parts nonEmpty each one
    exact junction (by simp) nonEmpty each one
  · intro items parts nonEmpty each one
    exact junction (by simp) nonEmpty each one
  · intro operand inner ih one
    exact .negation (ih one)
  · intro comparator key bound sound numeric one
    obtain rfl := one key (by simp [Filter.keys])
    exact .comparison bound (by cases comparator <;> decide) sound numeric
  · intro key literal pattern sound textual readLiteral one
    obtain rfl := one key (by simp [Filter.keys])
    exact .pattern sound textual (Pattern.exists_ofLiteral_iff.1 ⟨pattern, readLiteral⟩)

/-- A filter over one dataset is read, and all its keys name that dataset. -/
theorem read_of_isFilterDocument {doc : Json} (isFilter : IsFilterDocument dataset doc) :
    ∃ found, filter doc = .ok found ∧ ∀ key ∈ found.keys, key.dataset = dataset := by
  induction isFilter with
  | @junction operator items joins nonEmpty _ ih =>
    obtain ⟨parts, each⟩ := Reading.exists_results ih
    have read : filters items = .ok parts :=
      filters_eq_ok_iff.2 (each.imp fun _ _ found => found.1)
    have one : ∀ key ∈ Filter.keysOfAll parts, key.dataset = dataset := by
      intro key mentioned
      obtain ⟨part, stands, inPart⟩ := Filter.mem_keysOfAll_iff.1 mentioned
      obtain ⟨item, _, found⟩ := Reading.exists_result_of_mem each.flip stands
      exact found.2 key inPart
    simp only [List.mem_cons, List.not_mem_nil, or_false] at joins
    rcases joins with rfl | rfl
    · exact ⟨.and parts, filter_eq_ok_iff.2 (.conjunction nonEmpty read), one⟩
    · exact ⟨.or parts, filter_eq_ok_iff.2 (.disjunction nonEmpty read), one⟩
  | negation _ ih =>
    obtain ⟨inner, read, one⟩ := ih
    exact ⟨.not inner, filter_eq_ok_iff.2 (.negation read), one⟩
  | @comparison operator text field bound compares names numeric =>
    obtain ⟨comparator, rfl⟩ : ∃ comparator : Comparator, operator = comparator.label := by
      simp only [List.mem_cons, List.not_mem_nil, or_false] at compares
      rcases compares with rfl | rfl | rfl
      · exact ⟨.less, rfl⟩
      · exact ⟨.greater, rfl⟩
      · exact ⟨.equal, rfl⟩
    obtain rfl : text = recordKey dataset field := names.spelled
    let key : FieldKey := ⟨dataset, field⟩
    have sound : key.IsSound := names
    exact ⟨.compares comparator key bound.toBinary64,
      filter_eq_ok_iff.2 (.comparison comparator bound sound numeric), by simp [Filter.keys, key]⟩
  | @pattern text literal field names textual ends =>
    obtain ⟨pattern, readLiteral⟩ := Pattern.exists_ofLiteral_iff.2 ends
    obtain rfl : text = recordKey dataset field := names.spelled
    let key : FieldKey := ⟨dataset, field⟩
    have sound : key.IsSound := names
    exact ⟨.matches key pattern, filter_eq_ok_iff.2 (.pattern sound textual readLiteral),
      by simp [Filter.keys, key]⟩

/-- Keys name exactly one dataset when there are some and all name it. -/
theorem datasets_eq_singleton_iff {keys : List FieldKey} :
    datasets keys = [dataset] ↔ keys ≠ [] ∧ ∀ key ∈ keys, key.dataset = dataset := by
  have member (id : String) : id ∈ datasets keys ↔ ∃ key ∈ keys, key.dataset = id := by
    rw [datasets, Keyed.mem_keys_ofList_iff, List.map_map]
    simp
  constructor
  · intro only
    rw [only] at member
    constructor
    · rintro rfl
      simpa using (member dataset).1 List.mem_cons_self
    · intro key stands
      exact List.mem_singleton.1 ((member key.dataset).2 ⟨key, stands, rfl⟩)
  · rintro ⟨nonEmpty, one⟩
    have all : ∀ id ∈ datasets keys, id = dataset := by
      intro id stands
      obtain ⟨key, mentioned, rfl⟩ := (member id).1 stands
      exact one key mentioned
    obtain ⟨key, mentioned⟩ := List.exists_mem_of_ne_nil keys nonEmpty
    have first : key.dataset ∈ datasets keys := (member _).2 ⟨key, mentioned, rfl⟩
    have distinct : (datasets keys).Nodup := Keyed.keys_nodup _
    cases found : datasets keys with
    | nil => rw [found] at first; cases first
    | cons id others =>
      rw [found] at all distinct
      cases others with
      | nil => rw [all id List.mem_cons_self]
      | cons other _ =>
        have same : id = other := by rw [all id (by simp), all other (by simp)]
        exact absurd (by simp [same]) (List.nodup_cons.1 distinct).1

/-- A document is read as a query when its parts are and their keys name one dataset that exists. -/
theorem query_read_eq_ok_iff {inCatalog : String → Bool} {doc : Json} {query : Query} :
    Query.read inCatalog doc = .ok query ↔
      ∃ columnKeys, parts doc = .ok
          ⟨query.filter, query.columns, query.order, query.transformations, columnKeys⟩ ∧
        datasets (Parts.keys
          ⟨query.filter, query.columns, query.order, query.transformations, columnKeys⟩) =
          [query.dataset] ∧
        inCatalog query.dataset = true := by
  unfold Query.read
  constructor
  · intro read
    split at read
    · cases read
    next found readParts =>
    split at read
    · cases read
    · next dataset one =>
      split at read
      · next known =>
        cases read
        exact ⟨found.columnKeys, readParts, one, known⟩
      · cases read
    · cases read
  · rintro ⟨columnKeys, readParts, one, known⟩
    simp only [readParts, one, known, ↓reduceIte]

/-- The aggregates of a query that is read are sound. -/
theorem isSound_of_mem_apply {inCatalog : String → Bool} {doc : Json} {query : Query}
    (read : Query.read inCatalog doc = .ok query) {t : Transformations}
    (grouped : query.transformations = some t) {rule : ApplyRule} (stands : rule ∈ t.apply) :
    rule.IsSound := by
  obtain ⟨columnKeys, readParts, -⟩ := query_read_eq_ok_iff.1 read
  obtain ⟨top, options, whereDoc, -, spelled⟩ := parts_eq_ok_iff.1 readParts
  have readT := spelled.transformations
  rw [grouped] at readT
  generalize Entries.get? "TRANSFORMATIONS" top = part at readT
  cases readT with
  | some readT =>
    obtain ⟨members, -, -, -, -, -, -, sound, -⟩ := transformations_eq_ok_iff.1 readT
    exact sound rule stands

/-- The aggregates over one dataset are the documents of sound aggregates of its fields. -/
theorem isApplyRule_iff {doc : Json} {name : String} :
    IsApplyRule dataset doc name ↔
      ∃ rule : ApplyRule, doc = rule.toJson ∧ rule.IsSound ∧ rule.target.dataset = dataset ∧
        rule.name = name := by
  constructor
  · rintro ⟨named, absent, token, field, text, rfl, names, accepted⟩
    obtain rfl : text = recordKey dataset field := names.spelled
    let rule : ApplyRule := ⟨name, token, ⟨dataset, field⟩⟩
    have accepts : token.acceptsClass field.fieldClass = true := by
      simpa [ApplyToken.acceptsClass] using accepted
    have sound : rule.IsSound := ⟨named, absent, names, accepts⟩
    exact ⟨rule, rfl, sound, rfl, rfl⟩
  · rintro ⟨rule, rfl, sound, rfl, rfl⟩
    have accepted : rule.token = .count ∨ rule.target.field.fieldClass = .numeric := by
      simpa [ApplyToken.acceptsClass, FieldKey.fieldClass] using sound.accepted
    exact ⟨sound.named, sound.noUnderscore, rule.token, rule.target.field, rule.target.text, rfl,
      sound.target, accepted⟩

/-- Documents of aggregates under some names are read from sound aggregates of these names. -/
theorem forall₂_isApplyRule_iff {docs : List Json} {names : List String} :
    List.Forall₂ (IsApplyRule dataset) docs names ↔
      ∃ rules : List ApplyRule, docs = rules.map ApplyRule.toJson ∧
        names = rules.map ApplyRule.name ∧
        ∀ rule ∈ rules, rule.IsSound ∧ rule.target.dataset = dataset := by
  constructor
  · intro each
    induction each with
    | nil => exact ⟨[], rfl, rfl, by simp⟩
    | cons first _ ih =>
      obtain ⟨rules, rfl, rfl, sounds⟩ := ih
      obtain ⟨rule, rfl, sound, one, rfl⟩ := isApplyRule_iff.1 first
      exact ⟨rule :: rules, rfl, rfl, List.forall_mem_cons.2 ⟨⟨sound, one⟩, sounds⟩⟩
  · rintro ⟨rules, rfl, rfl, sounds⟩
    rw [List.forall₂_map_left_iff, List.forall₂_map_right_iff, List.forall₂_same]
    intro rule member
    exact isApplyRule_iff.2 ⟨rule, rfl, (sounds rule member).1, (sounds rule member).2, rfl⟩

/-- Texts that name fields of one dataset are the texts of sound keys of it. -/
theorem exists_keys_of_namesField {texts : List String}
    (each : ∀ text ∈ texts, ∃ field, NamesField dataset field text) :
    ∃ keys : List FieldKey, texts = keys.map FieldKey.text ∧
      ∀ key ∈ keys, key.IsSound ∧ key.dataset = dataset := by
  have found : ∀ text ∈ texts, ∃ key : FieldKey,
      text = key.text ∧ key.IsSound ∧ key.dataset = dataset := by
    intro text member
    obtain ⟨field, names⟩ := each text member
    obtain rfl : text = recordKey dataset field := names.spelled
    exact ⟨⟨dataset, field⟩, rfl, names, rfl⟩
  obtain ⟨keys, related⟩ := Reading.exists_results found
  exact ⟨keys, Reading.forall₂_written_iff.1 related⟩

/-- What is read as grouping and aggregates over one dataset is that over the dataset. -/
theorem isTransformations_of_read {columns : List String} {doc : Json} {t : Transformations}
    (read : transformations columns doc = .ok t) (one : ∀ key ∈ t.keys, key.dataset = dataset)
    (produced : ∀ column ∈ columns, Produces t column) :
    ∃ members group names, doc = .object members ∧
      IsTransformations dataset columns group names members := by
  obtain ⟨members, rfl, allowed, listed, applied, nonEmpty, keys, rules, distinct⟩ :=
    transformations_eq_ok_iff.1 read
  have oneGroup : ∀ key ∈ t.group, key.dataset = dataset := fun key member =>
    one key (List.mem_append_left _ member)
  have oneTarget : ∀ rule ∈ t.apply, rule.target.dataset = dataset := fun rule member =>
    one _ (List.mem_append_right _ (List.mem_map_of_mem member))
  refine ⟨members, t.group.map FieldKey.text, t.apply.map ApplyRule.name, rfl, allowed,
    by rw [listed, List.map_map]; rfl, by simpa using nonEmpty, ?_, ⟨_, applied, ?_⟩, distinct, ?_⟩
  · intro text member
    obtain ⟨key, stands, rfl⟩ := List.mem_map.1 member
    obtain ⟨sound, inColumns⟩ := keys key stands
    exact ⟨inColumns, key.field, oneGroup key stands ▸ sound⟩
  · exact forall₂_isApplyRule_iff.2
      ⟨t.apply, rfl, rfl, fun rule member => ⟨rules rule member, oneTarget rule member⟩⟩
  · intro column member
    rw [List.mem_map, List.mem_map]
    exact produced column member

/-- Grouping and aggregates over one dataset are read, and all their keys name that dataset. -/
theorem read_of_isTransformations {columns group names : List String} {members : Entries Json}
    (isTransformations : IsTransformations dataset columns group names members) :
    ∃ t, transformations columns (.object members) = .ok t ∧ t.group ≠ [] ∧
      (∀ key ∈ t.keys, key.dataset = dataset) ∧ ∀ column ∈ columns, Produces t column := by
  obtain ⟨rules, applied, each⟩ := isTransformations.apply
  obtain ⟨apply, rfl, rfl, sounds⟩ := forall₂_isApplyRule_iff.1 each
  obtain ⟨keys, rfl, soundKeys⟩ :=
    exists_keys_of_namesField fun text member => (isTransformations.groupKeys text member).2
  have nonEmpty : keys ≠ [] := by
    rintro rfl
    exact isTransformations.someGroup rfl
  have grouped : ∀ key ∈ keys, key.IsSound ∧ key.text ∈ columns := fun key member =>
    ⟨(soundKeys key member).1, (isTransformations.groupKeys _ (List.mem_map_of_mem member)).1⟩
  have read : transformations columns (.object members) = .ok ⟨keys, apply⟩ :=
    transformations_eq_ok_iff.2 ⟨members, rfl, isTransformations.onlyKeys,
      by rw [isTransformations.listed, List.map_map]; rfl, applied, nonEmpty, grouped,
      fun rule member => (sounds rule member).1, isTransformations.distinct⟩
  refine ⟨⟨keys, apply⟩, read, nonEmpty, ?_, ?_⟩
  · intro key member
    rcases List.mem_append.1 member with grouped | targeted
    · exact (soundKeys key grouped).2
    · obtain ⟨rule, stands, rfl⟩ := List.mem_map.1 targeted
      exact (sounds rule stands).2
  · intro column member
    have produced := isTransformations.produced column member
    rwa [List.mem_map, List.mem_map] at produced

end Grammar

namespace Query

open Grammar

variable {inCatalog : String → Bool} {doc : Json}

/-- What is read as a query is a query document over the dataset of the query. -/
theorem isQueryDocument_of_read {query : Query} (read : Query.read inCatalog doc = .ok query) :
    inCatalog query.dataset = true ∧ IsQueryDocument query.dataset doc := by
  obtain ⟨columnKeys, readParts, datasetsEq, known⟩ := query_read_eq_ok_iff.1 read
  obtain ⟨top, options, whereDoc, rfl, spelled⟩ := parts_eq_ok_iff.1 readParts
  obtain ⟨-, one⟩ := datasets_eq_singleton_iff.1 datasetsEq
  simp only [Parts.keys, List.mem_append] at one
  obtain ⟨dataset, filter, columns, order, t⟩ := query
  have ordered : ∀ doc, Entries.get? "ORDER" options = some doc →
      ∃ order, OrderSpelled columns doc order := by
    intro doc found
    have ordered := spelled.order
    rw [found] at ordered
    cases ordered with
    | some spelled => exact ⟨_, spelled⟩
  refine ⟨known, top, options, whereDoc, columns, rfl, spelled.topKeys, spelled.hasWhere, ?_,
    spelled.hasOptions, ⟨spelled.optionKeys, spelled.columns, spelled.someColumns,
    spelled.columnNames, ordered⟩, ?_⟩
  · refine (condition_eq_ok_iff.1 spelled.filter).imp And.left fun readFilter => ?_
    exact isFilterDocument_of_read readFilter fun key mentioned => one key (.inl (.inl mentioned))
  · have readT := spelled.transformations
    have keyed := spelled.columnKeys
    cases t with
    | none =>
      obtain ⟨rfl, sounds⟩ : columns = columnKeys.map FieldKey.text ∧ _ := keyed
      split
      · intro column member
        obtain ⟨key, stands, rfl⟩ := List.mem_map.1 member
        exact ⟨key.field, one key (.inr stands) ▸ sounds key stands⟩
      · next found =>
        rw [found] at readT
        cases readT
    | some t =>
      split
      · next found =>
        rw [found] at readT
        cases readT
      · next doc found =>
        rw [found] at readT
        cases readT with
        | some readT =>
          exact isTransformations_of_read readT (fun key member => one key (.inl (.inr member)))
            keyed.1

/-- A query document over a dataset that exists is read. -/
theorem exists_read_of_isQueryDocument {dataset : String} (known : inCatalog dataset = true)
    (isQuery : IsQueryDocument dataset doc) :
    ∃ query, Query.read inCatalog doc = .ok query := by
  obtain ⟨top, options, whereDoc, columns, rfl, topKeys, hasWhere, isCondition, hasOptions,
    isOptions, produced⟩ := isQuery
  obtain ⟨filter, readFilter, oneFilter⟩ : ∃ filter, condition whereDoc = .ok filter ∧
      ∀ key ∈ filter.keys, key.dataset = dataset := by
    rcases isCondition with rfl | isFilter
    · exact ⟨.all, rfl, by simp [Filter.keys]⟩
    · obtain ⟨filter, read, one⟩ := read_of_isFilterDocument isFilter
      exact ⟨filter, condition_eq_ok_iff.2 (.inr read), one⟩
  obtain ⟨order, ordered⟩ : ∃ order, Option.Rel (OrderSpelled columns)
      (Entries.get? "ORDER" options) order := by
    cases found : Entries.get? "ORDER" options with
    | none => exact ⟨none, .none⟩
    | some doc =>
      obtain ⟨order, spelled⟩ := isOptions.order doc found
      exact ⟨some order, .some spelled⟩
  obtain ⟨t, columnKeys, readT, keyed, nonEmpty, one⟩ : ∃ t columnKeys,
      Option.Rel (fun doc t => Grammar.transformations columns doc = .ok t)
        (Entries.get? "TRANSFORMATIONS" top) t ∧ ColumnsKeyed columns columnKeys t ∧
      ((t.map Transformations.keys).getD [] ++ columnKeys) ≠ [] ∧
      ∀ key ∈ (t.map Transformations.keys).getD [] ++ columnKeys, key.dataset = dataset := by
    split at produced
    · next found =>
      obtain ⟨keys, rfl, sounds⟩ := exists_keys_of_namesField produced
      rw [found]
      refine ⟨none, keys, .none, ⟨rfl, fun key member => (sounds key member).1⟩, ?_,
        fun key member => (sounds key member).2⟩
      rintro rfl
      exact isOptions.someColumns rfl
    · next doc found =>
      obtain ⟨members, group, names, rfl, isTransformations⟩ := produced
      obtain ⟨t, read, nonEmpty, one, produced⟩ := read_of_isTransformations isTransformations
      rw [found]
      refine ⟨some t, [], .some read, ⟨produced, rfl⟩, ?_, by simpa using one⟩
      simp [Transformations.keys, nonEmpty]
  let query : Query := ⟨dataset, filter, columns, order, t⟩
  have spelled : PartsSpelled top options whereDoc ⟨filter, columns, order, t, columnKeys⟩ :=
    ⟨topKeys, hasWhere, hasOptions, readFilter, isOptions.onlyKeys, isOptions.listed,
      isOptions.someColumns, isOptions.columnNames, readT, keyed, ordered⟩
  have oneDataset : datasets (Parts.keys ⟨filter, columns, order, t, columnKeys⟩) = [dataset] := by
    apply datasets_eq_singleton_iff.2
    rw [Parts.keys, List.append_assoc]
    refine ⟨fun empty => nonEmpty (List.append_eq_nil_iff.1 empty).2, fun key member => ?_⟩
    exact (List.mem_append.1 member).elim (oneFilter key) (one key)
  exact ⟨query, query_read_eq_ok_iff.2
    ⟨columnKeys, parts_eq_ok_iff.2 ⟨top, options, whereDoc, rfl, spelled⟩, oneDataset, known⟩⟩

/-- A document is accepted exactly when it is a query document over a dataset that exists. -/
theorem exists_read_iff_isQueryDocument (inCatalog : String → Bool) (doc : Json) :
    (∃ query, Query.read inCatalog doc = .ok query) ↔
      ∃ dataset, inCatalog dataset = true ∧ IsQueryDocument dataset doc := by
  constructor
  · rintro ⟨query, read⟩
    exact ⟨query.dataset, isQueryDocument_of_read read⟩
  · rintro ⟨dataset, known, isQuery⟩
    exact exists_read_of_isQueryDocument known isQuery

end Query
end Campus
