import Campus.Proofs.Query.Clauses
/-!
# Filters in query documents

A filter is read by its operator and the filters in its operand. What is to be shown of all filters
that are read is therefore shown operator by operator, by one induction over the document.
-/

namespace Campus

namespace Filter

/-- Several filters mention the keys that one of them mentions. -/
theorem mem_keysOfAll_iff {key : FieldKey} {conditions : List Filter} :
    key ∈ keysOfAll conditions ↔ ∃ condition ∈ conditions, key ∈ condition.keys := by
  induction conditions with
  | nil => simp [keysOfAll]
  | cons condition rest ih =>
    rw [keysOfAll, List.mem_append, ih]
    simp

end Filter

namespace Reading

variable {α β : Type} {R : α → β → Prop}

/-- What is read item by item has a result for every item. -/
theorem exists_result_of_mem {items : List α} {results : List β}
    (each : List.Forall₂ R items results) {item : α} (member : item ∈ items) :
    ∃ result ∈ results, R item result := by
  induction each with
  | nil => cases member
  | cons first _ ih =>
    rcases List.mem_cons.1 member with rfl | later
    · exact ⟨_, List.mem_cons_self, first⟩
    · obtain ⟨result, stands, related⟩ := ih later
      exact ⟨result, List.mem_cons_of_mem _ stands, related⟩

/-- If every item has a result, there is a list of results. -/
theorem exists_results {items : List α} (each : ∀ item ∈ items, ∃ result, R item result) :
    ∃ results, List.Forall₂ R items results := by
  induction items with
  | nil => exact ⟨[], .nil⟩
  | cons item rest ih =>
    obtain ⟨⟨first, related⟩, others⟩ := List.forall_mem_cons.1 each
    obtain ⟨results, relatedRest⟩ := ih others
    exact ⟨first :: results, .cons related relatedRest⟩

end Reading

namespace Grammar

/-- The documents of a filter by its operator, one level deep. -/
inductive FilterClause : Json → Filter → Prop
  | conjunction {items : List Json} {found : List Filter} (nonEmpty : items ≠ [])
    (read : filters items = .ok found) : FilterClause (.object [("AND", .array items)]) (.and found)
  | disjunction {items : List Json} {found : List Filter} (nonEmpty : items ≠ [])
    (read : filters items = .ok found) : FilterClause (.object [("OR", .array items)]) (.or found)
  | negation {operand : Json} {inner : Filter} (read : filter operand = .ok inner) :
    FilterClause (.object [("NOT", operand)]) (.not inner)
  | comparison (comparator : Comparator) {key : FieldKey} (bound : JsonNumber) (sound : key.IsSound)
    (numeric : key.fieldClass = .numeric) :
    FilterClause (.object [(comparator.label, .object [(key.text, .number bound)])])
      (.compares comparator key bound.toBinary64)
  | pattern {key : FieldKey} {literal : String} {pattern : Pattern} (sound : key.IsSound)
    (textual : key.fieldClass = .text) (read : Pattern.ofLiteral literal = .ok pattern) :
    FilterClause (.object [("IS", .object [(key.text, .text literal)])]) (.matches key pattern)

/-- Filters in sequence are read one by one. -/
theorem filters_eq_ok_iff {docs : List Json} {found : List Filter} :
    filters docs = .ok found ↔ List.Forall₂ (fun doc f => filter doc = .ok f) docs found := by
  induction docs generalizing found with
  | nil =>
    simp only [filters, List.forall₂_nil_left_iff, Except.ok.injEq]
    exact eq_comm
  | cons doc rest ih =>
    simp only [filters, Reading.bind_eq_ok_iff, List.forall₂_cons_left_iff, ← ih]
    constructor
    · rintro ⟨first, readFirst, others, readOthers, done⟩
      exact ⟨first, others, readFirst, readOthers, (Except.ok.inj done).symm⟩
    · rintro ⟨first, others, readFirst, readOthers, rfl⟩
      exact ⟨first, readFirst, others, readOthers, rfl⟩

/-- The operand of `AND` and `OR` is a non-empty array of filters. -/
theorem conjunction_eq_ok_iff {combine : List Filter → Filter} {operator : String} {doc : Json}
    {found : Filter} :
    conjunction combine operator doc = .ok found ↔
      ∃ items parts, doc = .array items ∧ items ≠ [] ∧ filters items = .ok parts ∧
        found = combine parts := by
  constructor
  · intro read
    unfold conjunction at read
    split at read
    · cases read
    · next item rest =>
      simp only [Reading.bind_eq_ok_iff] at read
      obtain ⟨first, readFirst, others, readOthers, done⟩ := read
      refine ⟨item :: rest, first :: others, rfl, List.cons_ne_nil _ _, ?_, ?_⟩
      · simp only [filters, Reading.bind_eq_ok_iff]
        exact ⟨first, readFirst, others, readOthers, rfl⟩
      · exact (Except.ok.inj done).symm
    · cases read
  · rintro ⟨items, parts, rfl, nonEmpty, read, rfl⟩
    cases items with
    | nil => exact absurd rfl nonEmpty
    | cons item rest =>
      simp only [filters, Reading.bind_eq_ok_iff] at read
      obtain ⟨first, readFirst, others, readOthers, done⟩ := read
      cases done
      simp only [conjunction, Reading.bind_eq_ok_iff]
      exact ⟨first, readFirst, others, readOthers, rfl⟩

/-- A filter is read by its operator. -/
theorem filter_eq_ok_iff {doc : Json} {found : Filter} :
    filter doc = .ok found ↔ FilterClause doc found := by
  constructor
  · intro read
    unfold filter at read
    split at read
    · split at read
      · obtain ⟨items, parts, rfl, nonEmpty, readItems, rfl⟩ := conjunction_eq_ok_iff.1 read
        exact .conjunction nonEmpty readItems
      · obtain ⟨items, parts, rfl, nonEmpty, readItems, rfl⟩ := conjunction_eq_ok_iff.1 read
        exact .disjunction nonEmpty readItems
      · split at read
        · next members =>
          cases inner : filter (.object members) with
          | error fault =>
            rw [inner] at read
            cases read
          | ok f =>
            rw [inner] at read
            cases read
            exact .negation inner
        · cases read
      · obtain ⟨key, bound, rfl, sound, numeric, rfl⟩ := comparison_eq_ok_iff.1 read
        exact .comparison .less bound sound numeric
      · obtain ⟨key, bound, rfl, sound, numeric, rfl⟩ := comparison_eq_ok_iff.1 read
        exact .comparison .greater bound sound numeric
      · obtain ⟨key, bound, rfl, sound, numeric, rfl⟩ := comparison_eq_ok_iff.1 read
        exact .comparison .equal bound sound numeric
      · obtain ⟨key, literal, pattern, rfl, sound, textual, readLiteral, rfl⟩ :=
          pattern_eq_ok_iff.1 read
        exact .pattern sound textual readLiteral
      · cases read
    · cases read
    · cases read
  · intro clause
    cases clause with
    | conjunction nonEmpty read =>
      rw [filter]
      exact conjunction_eq_ok_iff.2 ⟨_, _, rfl, nonEmpty, read, rfl⟩
    | disjunction nonEmpty read =>
      rw [filter]
      exact conjunction_eq_ok_iff.2 ⟨_, _, rfl, nonEmpty, read, rfl⟩
    | @negation operand inner read =>
      cases operand with
      | object members =>
        rw [filter, read]
        rfl
      | _ => simp [filter] at read
    | comparison comparator bound sound numeric =>
      cases comparator <;> exact comparison_eq_ok_iff.2 ⟨_, _, rfl, sound, numeric, rfl⟩
    | pattern sound textual read =>
      exact pattern_eq_ok_iff.2 ⟨_, _, _, rfl, sound, textual, read, rfl⟩

/-- What holds of filters by their operator, given that it holds of the filters in their operands,
holds of all that is read. -/
theorem filter_induction {P : Json → Filter → Prop}
    (conjunction : ∀ {items : List Json} {found : List Filter}, items ≠ [] →
      List.Forall₂ P items found → P (.object [("AND", .array items)]) (.and found))
    (disjunction : ∀ {items : List Json} {found : List Filter}, items ≠ [] →
      List.Forall₂ P items found → P (.object [("OR", .array items)]) (.or found))
    (negation : ∀ {operand : Json} {inner : Filter}, P operand inner →
      P (.object [("NOT", operand)]) (.not inner))
    (comparison : ∀ (comparator : Comparator) {key : FieldKey} (bound : JsonNumber), key.IsSound →
      key.fieldClass = .numeric →
      P (.object [(comparator.label, .object [(key.text, .number bound)])])
        (.compares comparator key bound.toBinary64))
    (pattern : ∀ {key : FieldKey} {literal : String} {pattern : Pattern}, key.IsSound →
      key.fieldClass = .text → Pattern.ofLiteral literal = .ok pattern →
      P (.object [("IS", .object [(key.text, .text literal)])]) (.matches key pattern))
    {doc : Json} {found : Filter} (read : filter doc = .ok found) : P doc found := by
  induction size : sizeOf doc using Nat.strongRecOn generalizing doc found with
  | _ bound ih =>
    subst size
    have items {docs : List Json} {parts : List Filter} (smaller : sizeOf docs < sizeOf doc)
        (readItems : filters docs = .ok parts) : List.Forall₂ P docs parts := by
      have each := filters_eq_ok_iff.1 readItems
      have inside : ∀ item ∈ docs, sizeOf item < sizeOf doc := fun item member =>
        Nat.lt_trans (List.sizeOf_lt_of_mem member) smaller
      exact ((List.forall₂_and_left docs parts).2 ⟨inside, each⟩).imp
        fun item part ⟨less, readItem⟩ => ih _ less readItem rfl
    cases filter_eq_ok_iff.1 read with
    | conjunction nonEmpty readItems =>
      exact conjunction nonEmpty (items (by simp; omega) readItems)
    | disjunction nonEmpty readItems =>
      exact disjunction nonEmpty (items (by simp; omega) readItems)
    | negation readOperand =>
      exact negation (ih _ (by simp; omega) readOperand rfl)
    | comparison comparator bound sound numeric =>
      exact comparison comparator bound sound numeric
    | pattern sound textual readLiteral => exact pattern sound textual readLiteral

/-- A condition is an empty object or a filter. -/
theorem condition_eq_ok_iff {doc : Json} {found : Filter} :
    condition doc = .ok found ↔ (doc = .object [] ∧ found = .all) ∨ filter doc = .ok found := by
  constructor
  · intro read
    unfold condition at read
    split at read
    · cases read
      exact Or.inl ⟨rfl, rfl⟩
    · exact Or.inr read
    · cases read
  · rintro (⟨rfl, rfl⟩ | read)
    · rfl
    · have clause := filter_eq_ok_iff.1 read
      cases clause <;> exact read

end Grammar
end Campus
