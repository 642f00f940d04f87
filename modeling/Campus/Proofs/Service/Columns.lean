import Campus.Proofs.Query.Results
import Campus.Proofs.Service.Reopening
/-!
# The columns of results

Every row of a result has a value under each of the columns and nothing else, provided that the
query names fields which the dataset has and its aggregates only count or compare. Three parts of
the program have to agree for this: ingestion gives each record a value of the right class for every
field of its kind, reading a query lets only numeric fields be compared and only group keys and
aggregates be columns of a grouped query, and an aggregate has a value wherever a number is found.
Sums and means are left out, as they have no value when a number is too large for a decimal.
-/

namespace Campus

/-- A query that names only fields of a kind in its columns, its group keys and its aggregates, and
whose aggregates count or compare. -/
structure Query.ShowsOnly (kind : DatasetKind) (query : Query) : Prop where
  columns : query.transformations = none →
    ∀ column ∈ query.columns, ∃ field ∈ kind.fields, column = recordKey query.dataset field
  keys : ∀ t, query.transformations = some t → ∀ key ∈ t.keys, key.field ∈ kind.fields
  tokens : ∀ t, query.transformations = some t →
    ∀ rule ∈ t.apply, rule.token = .count ∨ rule.token = .max ∨ rule.token = .min

namespace Record

variable {dataset : String} {kind : DatasetKind} {record : Record}

/-- A record restricted to columns has those of its keys that are among them. -/
theorem mem_keys_project_iff {columns : List String} {key : String} :
    key ∈ (record.project columns).keys ↔ key ∈ columns ∧ (record.get? key).isSome = true := by
  rw [Keyed.mem_keys_iff, get?_project]
  by_cases listed : key ∈ columns
  · simp [listed]
  · simp [listed]

/-- A record of some shape has a value under the key of every field. -/
theorem HasShape.isSome_get? (shaped : record.HasShape dataset kind) (key : FieldKey)
    (sameDataset : key.dataset = dataset) (member : key.field ∈ kind.fields) :
    (record.get? key.text).isSome = true := by
  obtain ⟨value, found, -⟩ := exists_get?_of_hasShape shaped member
  rw [FieldKey.text, sameDataset, found]
  rfl

end Record

namespace Aggregate

/-- Combining some numbers gives one. -/
theorem isSome_reduce? (combine : Binary64 → Binary64 → Binary64) {numbers : List Binary64}
    (nonEmpty : numbers ≠ []) : (reduce? combine numbers).isSome = true := by
  cases numbers with
  | nil => exact absurd rfl nonEmpty
  | cons first rest => rfl

/-- Records of some shape, at least one, have numbers under a numeric field. -/
theorem numbers_ne_nil {dataset : String} {kind : DatasetKind} {records : List Record}
    (shaped : ∀ record ∈ records, record.HasShape dataset kind) (someRecord : records ≠ [])
    {field : Field} (member : field ∈ kind.fields) (numeric : field.fieldClass = .numeric) :
    numbers (recordKey dataset field) records ≠ [] := by
  obtain ⟨first, rest, rfl⟩ := List.exists_cons_of_ne_nil someRecord
  obtain ⟨value, found, sameClass⟩ :=
    Record.exists_get?_of_hasShape (shaped first List.mem_cons_self) member
  cases value with
  | text => exact absurd (sameClass.trans numeric) nofun
  | number value =>
    refine List.ne_nil_of_mem (a := value) (List.mem_filterMap.2 ⟨.number value, ?_, rfl⟩)
    exact List.mem_filterMap.2 ⟨first, List.mem_cons_self, found⟩

end Aggregate

/-- An aggregate that counts, or compares the numbers of a numeric field, has a value over records
of some shape. -/
theorem ApplyRule.isSome_value? {rule : ApplyRule} {kind : DatasetKind} {members : List Record}
    (shaped : ∀ record ∈ members, record.HasShape rule.target.dataset kind)
    (someMember : members ≠ []) (member : rule.target.field ∈ kind.fields)
    (accepted : rule.token = .count ∨ rule.target.fieldClass = .numeric)
    (plain : rule.token = .count ∨ rule.token = .max ∨ rule.token = .min) :
    (rule.value? members).isSome = true := by
  have numbers : rule.token ≠ .count → Aggregate.numbers rule.target.text members ≠ [] :=
    fun notCount =>
      Aggregate.numbers_ne_nil shaped someMember member (accepted.resolve_left notCount)
  unfold value?
  rcases plain with token | token | token
  · rw [token]
    rfl
  · rw [token] at numbers ⊢
    exact (Option.isSome_map ..).trans (Aggregate.isSome_reduce? _ (numbers nofun))
  · rw [token] at numbers ⊢
    exact (Option.isSome_map ..).trans (Aggregate.isSome_reduce? _ (numbers nofun))

namespace Transformations

variable {t : Transformations} {dataset : String} {columns : List String} {kind : DatasetKind}
  {members : List Record} {row : Record}

/-- The row of a group of shaped records has exactly the columns. -/
theorem IsRowOf.mem_keys_iff (made : t.IsRowOf columns members row)
    (wellFormed : t.IsWellFormed dataset columns)
    (shaped : ∀ record ∈ members, record.HasShape dataset kind) (someMember : members ≠ [])
    (fields : ∀ key ∈ t.keys, key.field ∈ kind.fields)
    (plain : ∀ rule ∈ t.apply, rule.token = .count ∨ rule.token = .max ∨ rule.token = .min)
    (key : String) : key ∈ row.keys ↔ key ∈ columns := by
  rw [Keyed.mem_keys_iff]
  constructor
  · intro present
    by_contra unlisted
    rw [made.onlyColumns key unlisted] at present
    cases present
  intro listed
  rcases wellFormed.produced key listed with ⟨grouped, member, rfl⟩ | ⟨rule, member, rfl⟩
  · obtain ⟨first, rest, rfl⟩ := List.exists_cons_of_ne_nil someMember
    rw [made.first grouped member]
    exact (shaped first List.mem_cons_self).isSome_get? _ (wellFormed.group grouped member).1
      (fields grouped (List.mem_append_left _ member))
  · obtain ⟨-, -, sameDataset, accepted⟩ := wellFormed.apply rule member
    have target : rule.target ∈ t.keys := List.mem_append_right _ (List.mem_map_of_mem member)
    rw [made.aggregated rule member listed]
    exact ApplyRule.isSome_value? (by rwa [sameDataset]) someMember (fields _ target) accepted
      (plain rule member)

end Transformations

namespace Query

variable {inCatalog : String → Bool} {doc : Json} {query : Query} {kind : DatasetKind}
  {records : List Record}

/-- The candidates of a query over shaped records have exactly its columns once they are restricted
to them. -/
theorem mem_keys_project_candidate_iff (read : Query.read inCatalog doc = .ok query)
    (shows : query.ShowsOnly kind)
    (shaped : ∀ record ∈ records, record.HasShape query.dataset kind) {row : Record}
    (candidate : row ∈ query.candidates records) (key : String) :
    key ∈ (row.project query.columns).keys ↔ key ∈ query.columns := by
  have selected : ∀ record ∈ query.matching records, record.HasShape query.dataset kind :=
    fun record member => shaped record (List.mem_of_mem_filter member)
  cases transformed : query.transformations with
  | none =>
    rw [candidates_of_ungrouped transformed] at candidate
    rw [Record.mem_keys_project_iff, and_iff_left_iff_imp]
    intro listed
    obtain ⟨field, member, rfl⟩ := shows.columns transformed key listed
    exact (selected row candidate).isSome_get? ⟨query.dataset, field⟩ rfl member
  | some t =>
    rw [candidates_of_grouped transformed] at candidate
    obtain ⟨tuple, listed, rfl⟩ := List.mem_map.1 candidate
    have wellFormed := Grammar.isWellFormed_of_grouped read transformed
    obtain ⟨witness, stands, shown⟩ := Grouping.mem_tuples_iff.1 listed
    refine (Transformations.isRowOf_project wellFormed listed).mem_keys_iff wellFormed
      (fun record member => selected record (Grouping.mem_members_iff.1 member).1)
      (List.ne_nil_of_mem (Grouping.mem_members_iff.2 ⟨stands, shown⟩))
      (shows.keys t transformed) (shows.tokens t transformed) key

end Query

namespace Service

/-- Whatever calls have been made on an empty service, and whatever a query on a dataset that it
holds filters and orders by: if the query shows only fields of the dataset's kind and its aggregates
count or compare, then every row of its answer has a value under each of its columns and under
nothing else. -/
theorem keys_of_row_of_run (folder : Option Folder) (rowLimit : Nat)
    (calls : List (Surroundings × ServiceCall)) {inCatalog : String → Bool} {doc : Json}
    {query : Query} (read : Query.read inCatalog doc = .ok query) {d : Dataset}
    (held : ((onStore ⟨.empty, folder⟩ rowLimit).run calls).1.store.get? query.dataset =
      .ok (some d))
    (shows : query.ShowsOnly d.kind) {limit : Nat} {rows : List Record}
    (answered : query.execute limit d.data = .ok rows) :
    ∀ row ∈ rows, ∀ key, key ∈ row.keys ↔ key ∈ query.columns := by
  have wellFormed : ((onStore ⟨.empty, folder⟩ rowLimit).run calls).1.store.shelf.IsWellFormed :=
    isWellFormed_run Shelf.isWellFormed_empty calls
  obtain ⟨sameId, ingested⟩ := wellFormed.stored _ d (Shelf.get?_eq_ok_iff.1 held).2
  intro row member key
  obtain ⟨candidate, stands, rfl⟩ := Query.exists_candidate_of_mem_rows answered member
  exact Query.mem_keys_project_candidate_iff read shows (sameId ▸ ingested.records) stands key

/-- The best average of each department. -/
def bestByDepartment : Query where
  dataset := "courses"
  filter := .all
  columns := ["courses_dept", "best"]
  order := none
  transformations := some ⟨[⟨"courses", .dept⟩], [⟨"best", .max, ⟨"courses", .avg⟩⟩]⟩

/-- One section that was added has one row, with its department and the best average. -/
theorem keys_of_row_bestByDepartment :
    let calls : List (Surroundings × ServiceCall) :=
      [(⟨Device.sound, fun _ => .error ""⟩, .add "courses" .sections oneSection)]
    let service := ((onStore ⟨.empty, none⟩ 5000).run calls).1
    ∃ d row, service.store.get? "courses" = .ok (some d) ∧
      bestByDepartment.execute 5000 d.data = .ok [row] ∧
      ∀ key, key ∈ row.keys ↔ key = "courses_dept" ∨ key = "best" := by
  intro calls service
  have wellFormed : Transformations.IsWellFormed "courses" bestByDepartment.columns
      ⟨[⟨"courses", .dept⟩], [⟨"best", .max, ⟨"courses", .avg⟩⟩]⟩ :=
    { someGroup := by decide
      group := by decide
      apply := by decide
      distinct := by decide
      produced := by
        simp [bestByDepartment, Grammar.Produces, FieldKey.text, recordKey, Field.label] }
  have formed : bestByDepartment.IsWellFormed fun _ => true :=
    { hasId := by decide
      noUnderscore := by decide
      known := rfl
      filter := .inl rfl
      someColumns := by decide
      columnNames := by decide
      order := by
        rintro spec ⟨⟩
      ungrouped := by
        rintro ⟨⟩
      grouped := by
        rintro t ⟨rfl⟩
        exact wellFormed }
  have shows : bestByDepartment.ShowsOnly .sections :=
    { columns := by
        rintro ⟨⟩
      keys := by
        rintro t ⟨rfl⟩
        decide
      tokens := by
        rintro t ⟨rfl⟩
        decide }
  have read := Query.read_toJson formed
  have computed : ((service.store.get? "courses").toOption.bind id).map (fun d =>
      (d.kind, (bestByDepartment.execute 5000 d.data).toOption.map List.length)) =
        some (.sections, some 1) := by
    decide +kernel
  cases held : service.store.get? "courses" with
  | error error => simp [held, Except.toOption] at computed
  | ok found =>
    rw [held] at computed
    obtain ⟨d, rfl, answer⟩ := Option.map_eq_some_iff.1 computed
    obtain ⟨kind, rest⟩ := Prod.mk.inj answer
    obtain ⟨rows, answered, one⟩ := Option.map_eq_some_iff.1 rest
    obtain ⟨row, rfl⟩ := List.length_eq_one_iff.1 one
    replace answered : bestByDepartment.execute 5000 d.data = .ok [row] := by
      cases outcome : bestByDepartment.execute 5000 d.data with
      | error error => simp [outcome, Except.toOption] at answered
      | ok rows =>
        rw [outcome] at answered
        cases answered
        rfl
    refine ⟨d, row, rfl, answered, fun key => ?_⟩
    rw [keys_of_row_of_run none 5000 calls read held (kind ▸ shows) answered row
      List.mem_cons_self key]
    simp [bestByDepartment]

end Service
end Campus
