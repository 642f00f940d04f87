import Campus.Proofs.Dataset.Shape
import Campus.Proofs.Query.RoundTrip
/-!
# Record keys in queries

Ingestion joins the id of a dataset and the name of a field to a record key; queries split key texts
again. A field name has no underscore, so the last underscore of a record key is where it was
joined, and keys tell pairs apart for all ids. Queries split at the first underscore and take only
texts with one, so they read back exactly the keys of ids without underscores.
-/

namespace Campus

/-- Record keys agree only for one id and one field, whatever underscores the ids have. -/
theorem recordKey_eq_iff {left right : String} {leftField rightField : Field} :
    recordKey left leftField = recordKey right rightField ↔
      left = right ∧ leftField = rightField := by
  refine ⟨fun same => ?_, fun ⟨sameId, sameField⟩ => sameId ▸ sameField ▸ rfl⟩
  -- From the back, the underscore that joined the parts comes first.
  have split (dataset : String) (field : Field) :
      Grammar.splitAtUnderscore (recordKey dataset field).toList.reverse =
        some (field.label.toList.reverse, dataset.toList.reverse) :=
    Grammar.splitAtUnderscore_eq_some_iff.2 ⟨by simp [toList_recordKey],
      by simpa using Field.underscore_notMem_label field⟩
  have parts := (split left leftField).symm.trans (same ▸ split right rightField)
  simp only [Option.some.injEq, Prod.mk.injEq, List.reverse_inj, String.toList_inj] at parts
  exact ⟨parts.2, Field.label_injective parts.1⟩

/-- No key has the empty text. -/
theorem FieldKey.text_ne_empty (key : FieldKey) : key.text ≠ "" := by
  intro empty
  have chars := congrArg String.toList empty
  rw [FieldKey.text, toList_recordKey] at chars
  simp at chars

/-- A usable id is one that keys can have. -/
theorem hasKeys_of_isValidDatasetId {id : String} (valid : isValidDatasetId id = true) :
    id ≠ "" ∧ '_' ∉ id.toList := by
  obtain ⟨⟨c, member, -⟩, noUnderscore⟩ := isValidDatasetId_iff.1 valid
  refine ⟨?_, noUnderscore⟩
  rintro rfl
  exact List.not_mem_nil member

namespace Grammar

/-- A text is read as a key when it is the text of that key, whose id is not empty and has no
underscore. -/
theorem key_eq_ok_iff_recordKey {text : String} {found : FieldKey} :
    key text = .ok found ↔
      text = found.text ∧ found.dataset ≠ "" ∧ '_' ∉ found.dataset.toList := by
  rw [key_eq_ok_iff_text]
  exact and_congr_right fun _ => namesField_recordKey_iff

/-- The record key of an id that has an underscore is split into too many parts. -/
theorem key_recordKey_of_underscore {dataset : String} (field : Field)
    (underscore : '_' ∈ dataset.toList) :
    key (recordKey dataset field) = .error (.keyForm (recordKey dataset field)) := by
  obtain ⟨before, after, chars, absent⟩ := List.eq_append_cons_of_mem underscore
  have split : splitAtUnderscore (recordKey dataset field).toList =
      some (before, after ++ '_' :: field.label.toList) :=
    splitAtUnderscore_eq_some_iff.2 ⟨by simp [toList_recordKey, chars], absent⟩
  unfold key
  simp [split]

/-- The record key of the empty id has no id before its underscore. -/
theorem key_recordKey_empty (field : Field) :
    key (recordKey "" field) = .error (.keyWithoutDataset (recordKey "" field)) := by
  have split : splitAtUnderscore (recordKey "" field).toList = some ([], field.label.toList) :=
    splitAtUnderscore_eq_some_iff.2 ⟨by simp [toList_recordKey], List.not_mem_nil⟩
  unfold key
  simp [split, Field.underscore_notMem_label]

/-- Reading a record key gives back the id and the field it was joined from, unless the id has an
underscore or is empty. -/
theorem key_recordKey (dataset : String) (field : Field) :
    key (recordKey dataset field) =
      if '_' ∈ dataset.toList then .error (.keyForm (recordKey dataset field))
      else if dataset = "" then .error (.keyWithoutDataset (recordKey dataset field))
      else .ok ⟨dataset, field⟩ := by
  split_ifs with underscore empty
  · exact key_recordKey_of_underscore field underscore
  · rw [empty]
    exact key_recordKey_empty field
  · exact key_eq_ok_iff_recordKey.2 ⟨rfl, empty, underscore⟩

end Grammar

namespace Query

/-- The ways in which a query uses one field of a dataset: it shows the field, compares it, matches
it, puts rows in its order, groups by it or aggregates it in the groups of some field. -/
inductive UsesField (key : FieldKey) : Query → Prop
  | shown : UsesField key ⟨key.dataset, .all, [key.text], none, none⟩
  | compared (comparator : Comparator) {bound : Binary64} (numeric : key.fieldClass = .numeric)
    (finite : bound.isFinite = true) :
    UsesField key ⟨key.dataset, .compares comparator key bound, [key.text], none, none⟩
  | matched {pattern : Pattern} (textual : key.fieldClass = .text) (normal : pattern.IsNormal) :
    UsesField key ⟨key.dataset, .matches key pattern, [key.text], none, none⟩
  | ordered (direction : Direction) :
    UsesField key ⟨key.dataset, .all, [key.text], some (.keys direction [key.text]), none⟩
  | grouped : UsesField key ⟨key.dataset, .all, [key.text], none, some ⟨[key], []⟩⟩
  | aggregated (group : Field) {name : String} {token : ApplyToken}
    (accepted : token.acceptsClass key.fieldClass = true) (named : name ≠ "")
    (noUnderscore : '_' ∉ name.toList) :
    UsesField key ⟨key.dataset, .all, [recordKey key.dataset group, name], none,
      some ⟨[⟨key.dataset, group⟩], [⟨name, token, key⟩]⟩⟩

variable {inCatalog : String → Bool} {key : FieldKey}

/-- A query that shows one field of a dataset, in its order or in none, is well formed. -/
theorem isWellFormed_of_shown {filter : Filter} {order : Option OrderSpec}
    (hasKeys : key.dataset ≠ "" ∧ '_' ∉ key.dataset.toList) (known : inCatalog key.dataset = true)
    (formed : filter = .all ∨ filter.IsWellFormed key.dataset)
    (ordered : ∀ spec ∈ order, spec.columns = [key.text]) :
    IsWellFormed inCatalog ⟨key.dataset, filter, [key.text], order, none⟩ where
  hasId := hasKeys.1
  noUnderscore := hasKeys.2
  known := known
  filter := formed
  someColumns := List.cons_ne_nil _ _
  columnNames := by simpa using key.text_ne_empty
  order := by
    intro spec given
    simp [ordered spec given]
  ungrouped := by
    intro _ column member
    exact ⟨key.field, List.mem_singleton.1 member⟩
  grouped := by simp

/-- A query that groups by one field of a dataset and shows it with the aggregates of its groups is
well formed. -/
theorem isWellFormed_of_grouped (key : FieldKey) (rules : List ApplyRule)
    (hasKeys : key.dataset ≠ "" ∧ '_' ∉ key.dataset.toList) (known : inCatalog key.dataset = true)
    (sound : ∀ rule ∈ rules, rule.name ≠ "" ∧ '_' ∉ rule.name.toList ∧
      rule.target.dataset = key.dataset ∧ (rule.token = .count ∨ rule.target.fieldClass = .numeric))
    (distinct : (rules.map ApplyRule.name).Nodup) :
    IsWellFormed inCatalog
      ⟨key.dataset, .all, key.text :: rules.map ApplyRule.name, none, some ⟨[key], rules⟩⟩ where
  hasId := hasKeys.1
  noUnderscore := hasKeys.2
  known := known
  filter := .inl rfl
  someColumns := List.cons_ne_nil _ _
  columnNames := by
    simpa using ⟨key.text_ne_empty, fun rule member => (sound rule member).1⟩
  order := by simp
  ungrouped := by simp
  grouped := by
    rintro t ⟨rfl⟩
    exact
      { someGroup := List.cons_ne_nil _ _
        group := by simp
        apply := sound
        distinct := distinct
        produced := by
          simp only [Grammar.Produces, List.mem_cons, List.mem_map]
          rintro column (rfl | named)
          · exact .inl ⟨key, .inl rfl, rfl⟩
          · exact .inr named }

/-- A query that uses a field of a dataset is well formed when keys can have the id of the dataset
and the dataset exists. -/
theorem isWellFormed_of_usesField {query : Query} (uses : UsesField key query)
    (hasKeys : key.dataset ≠ "" ∧ '_' ∉ key.dataset.toList)
    (known : inCatalog key.dataset = true) : query.IsWellFormed inCatalog := by
  cases uses with
  | shown => exact isWellFormed_of_shown hasKeys known (.inl rfl) (by simp)
  | compared comparator numeric finite =>
    exact isWellFormed_of_shown hasKeys known (.inr (.comparison rfl numeric finite)) (by simp)
  | matched textual normal =>
    exact isWellFormed_of_shown hasKeys known (.inr (.pattern rfl textual normal)) (by simp)
  | ordered direction =>
    exact isWellFormed_of_shown hasKeys known (.inl rfl) (by simp [OrderSpec.columns])
  | grouped => exact isWellFormed_of_grouped key [] hasKeys known (by simp) (by simp)
  | @aggregated group name token accepted named noUnderscore =>
    simp only [ApplyToken.acceptsClass, Bool.or_eq_true, beq_iff_eq] at accepted
    exact isWellFormed_of_grouped ⟨key.dataset, group⟩ [⟨name, token, key⟩] hasKeys known
      (by simpa using ⟨named, noUnderscore, accepted⟩) (by simp)

/-- Every key that is read is spelled as the text it is read from, and its id is not empty and has
no underscore. Of the record keys, exactly those of such ids are read, as the id and the field they
were joined from; the others are refused for their form or their lack of an id. So record keys tell
ids and fields apart, and whatever use a query makes of any field of an existing dataset with a
usable id, the query is read from its document. -/
theorem key_inverts_recordKey :
    (∀ text found, Grammar.key text = .ok found →
      found.text = text ∧ found.dataset ≠ "" ∧ '_' ∉ found.dataset.toList) ∧
    (∀ dataset field, Grammar.key (recordKey dataset field) =
      if '_' ∈ dataset.toList then .error (.keyForm (recordKey dataset field))
      else if dataset = "" then .error (.keyWithoutDataset (recordKey dataset field))
      else .ok ⟨dataset, field⟩) ∧
    (∀ left right leftField rightField, recordKey left leftField = recordKey right rightField →
      left = right ∧ leftField = rightField) ∧
    ∀ dataset, isValidDatasetId dataset = true →
      (∀ field, Grammar.key (recordKey dataset field) = .ok ⟨dataset, field⟩) ∧
      ∀ (inCatalog : String → Bool), inCatalog dataset = true →
        ∀ field query, UsesField ⟨dataset, field⟩ query →
          Query.read inCatalog query.toJson = .ok query := by
  refine ⟨fun text found read => ?_, Grammar.key_recordKey,
    fun _ _ _ _ same => recordKey_eq_iff.1 same, fun dataset valid => ?_⟩
  · obtain ⟨rfl, hasKeys⟩ := Grammar.key_eq_ok_iff_recordKey.1 read
    exact ⟨rfl, hasKeys⟩
  · have hasKeys := hasKeys_of_isValidDatasetId valid
    refine ⟨fun field => Grammar.key_eq_ok_iff_recordKey.2 ⟨rfl, hasKeys⟩,
      fun inCatalog known field query uses => ?_⟩
    exact read_toJson (isWellFormed_of_usesField uses hasKeys known)

/-- The averages above ninety in the winter term. -/
def aboveNinetyInWinter : Query where
  dataset := "winter term"
  filter := .compares .greater ⟨"winter term", .avg⟩ ⟨0x4056800000000000⟩
  columns := ["winter term_avg"]
  order := none
  transformations := none

/-- The keys of the winter term are read and no other pair has them, while an underscore in place
of the space spoils them; the term can be asked for its averages above ninety. -/
theorem key_inverts_recordKey_winterTerm :
    isValidDatasetId "winter term" = true ∧
    Grammar.key "winter term_avg" = .ok ⟨"winter term", .avg⟩ ∧
    (⟨"winter term", .avg⟩ : FieldKey).text = "winter term_avg" ∧
    recordKey "winter term" .avg ≠ recordKey "winter" .avg ∧
    Grammar.key "winter_term_avg" = .error (.keyForm "winter_term_avg") ∧
    Query.read (· == "winter term") aboveNinetyInWinter.toJson = .ok aboveNinetyInWinter := by
  obtain ⟨exact, reads, apart, queried⟩ := key_inverts_recordKey
  have valid : isValidDatasetId "winter term" = true := by decide
  obtain ⟨readable, accepted⟩ := queried "winter term" valid
  have read : Grammar.key "winter term_avg" = .ok ⟨"winter term", .avg⟩ := readable .avg
  refine ⟨valid, read, (exact _ _ read).1, fun same => ?_, ?_, ?_⟩
  · exact absurd (apart _ _ _ _ same).1 (by decide)
  · exact (reads "winter_term" .avg).trans (if_pos (by decide))
  · exact accepted _ (by decide) .avg _ (.compared .greater rfl (by decide))

end Query
end Campus
