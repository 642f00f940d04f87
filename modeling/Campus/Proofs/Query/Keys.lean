import Campus.Query.Grammar
import Mathlib.Data.List.Forall2
/-!
# Keys in query documents

A key text consists of the id of a dataset, the only underscore and the name of a field. Reading
takes exactly such texts, and each of them as the key it is the text of.
-/

namespace Campus

namespace Reading

variable {α β : Type}

/-- Reading two parts in sequence succeeds when both do. -/
theorem bind_eq_ok_iff {first : Reading α} {next : α → Reading β} {result : β} :
    (first >>= next) = .ok result ↔ ∃ value, first = .ok value ∧ next value = .ok result := by
  cases first with
  | error fault => simp [bind, Except.bind]
  | ok value => simp [bind, Except.bind]

/-- Reading the parts of a list succeeds with the readings of the parts in their order. -/
theorem mapM_eq_ok_iff {read : α → Reading β} {parts : List α} {results : List β} :
    parts.mapM read = .ok results ↔
      List.Forall₂ (fun part result => read part = .ok result) parts results := by
  induction parts generalizing results with
  | nil =>
    simp only [List.mapM_nil, List.forall₂_nil_left_iff]
    exact ⟨fun same => (Except.ok.inj same).symm, fun same => congrArg Except.ok same.symm⟩
  | cons part rest ih =>
    simp only [List.mapM_cons, bind_eq_ok_iff, List.forall₂_cons_left_iff, ih]
    constructor
    · rintro ⟨first, readFirst, others, readOthers, same⟩
      exact ⟨first, others, readFirst, readOthers, (Except.ok.inj same).symm⟩
    · rintro ⟨first, others, readFirst, readOthers, same⟩
      exact ⟨first, readFirst, others, readOthers, congrArg Except.ok same.symm⟩

/-- Items that are one by one the written forms of sound results are the written forms of them. -/
theorem forall₂_written_iff {write : β → α} {sound : β → Prop} {items : List α}
    {results : List β} :
    List.Forall₂ (fun item result => item = write result ∧ sound result) items results ↔
      items = results.map write ∧ ∀ result ∈ results, sound result := by
  induction results generalizing items with
  | nil => simp
  | cons first rest ih =>
    rw [List.forall₂_cons_right_iff]
    constructor
    · rintro ⟨item, others, ⟨rfl, soundFirst⟩, related, rfl⟩
      obtain ⟨rfl, soundRest⟩ := ih.1 related
      exact ⟨rfl, List.forall_mem_cons.2 ⟨soundFirst, soundRest⟩⟩
    · rintro ⟨rfl, sounds⟩
      obtain ⟨soundFirst, soundRest⟩ := List.forall_mem_cons.1 sounds
      exact ⟨_, _, ⟨rfl, soundFirst⟩, ih.2 ⟨rfl, soundRest⟩, rfl⟩

/-- Where only the written form of a sound result is read as it, the same holds of lists. -/
theorem mapM_eq_ok_iff_of_written {read : α → Reading β} {write : β → α} {sound : β → Prop}
    (each : ∀ item result, read item = .ok result ↔ item = write result ∧ sound result)
    {items : List α} {results : List β} :
    items.mapM read = .ok results ↔
      items = results.map write ∧ ∀ result ∈ results, sound result := by
  simp only [mapM_eq_ok_iff, each, forall₂_written_iff]

end Reading

/-- A text names a field of a dataset: it is the id of the dataset, which is not empty, then its
only underscore, then the name of the field. -/
structure NamesField (dataset : String) (field : Field) (text : String) : Prop where
  spelled : text = dataset ++ "_" ++ field.label
  hasId : dataset ≠ ""
  oneUnderscore : text.toList.count '_' = 1

/-- A key whose text names its field. -/
abbrev FieldKey.IsSound (key : FieldKey) : Prop := NamesField key.dataset key.field key.text

namespace Field

/-- No field has an underscore in its name. -/
theorem underscore_notMem_label (field : Field) : '_' ∉ field.label.toList := by
  cases field <;> decide

end Field

/-- The characters of a record key. -/
theorem toList_recordKey (dataset : String) (field : Field) :
    (recordKey dataset field).toList = dataset.toList ++ '_' :: field.label.toList := by
  simp [recordKey]

/-- A record key names its field when the id is not empty and has no underscore. -/
theorem namesField_recordKey_iff {dataset : String} {field : Field} :
    NamesField dataset field (recordKey dataset field) ↔
      dataset ≠ "" ∧ '_' ∉ dataset.toList := by
  have count : (recordKey dataset field).toList.count '_' = dataset.toList.count '_' + 1 := by
    rw [toList_recordKey, List.count_append, List.count_cons_self,
      List.count_eq_zero_of_not_mem (Field.underscore_notMem_label field)]
  constructor
  · intro names
    have one := names.oneUnderscore
    rw [count] at one
    exact ⟨names.hasId, List.count_eq_zero.1 (by omega)⟩
  · rintro ⟨hasId, absent⟩
    exact ⟨rfl, hasId, by rw [count, List.count_eq_zero_of_not_mem absent]⟩

namespace Grammar

/-- A text is split at its first underscore. -/
theorem splitAtUnderscore_eq_some_iff {chars before after : List Char} :
    splitAtUnderscore chars = some (before, after) ↔
      chars = before ++ '_' :: after ∧ '_' ∉ before := by
  induction chars generalizing before with
  | nil => simp [splitAtUnderscore]
  | cons c rest ih =>
    simp only [splitAtUnderscore]
    by_cases underscore : c = '_'
    · subst underscore
      simp only [↓reduceIte, Option.some.injEq, Prod.mk.injEq]
      constructor
      · rintro ⟨rfl, rfl⟩
        simp
      · rintro ⟨same, absent⟩
        cases before with
        | nil => simpa using same
        | cons d others =>
          have first : '_' = d := (List.cons.inj same).1
          exact absurd (first ▸ List.mem_cons_self) absent
    · simp only [underscore, ↓reduceIte, Option.map_eq_some_iff, Prod.mk.injEq, Prod.exists]
      constructor
      · rintro ⟨others, tail, split, rfl, rfl⟩
        obtain ⟨rfl, absent⟩ := ih.1 split
        exact ⟨rfl, by simp [absent, Ne.symm underscore]⟩
      · rintro ⟨same, absent⟩
        cases before with
        | nil => exact absurd (List.cons.inj same).1 underscore
        | cons d others =>
          obtain ⟨rfl, rfl⟩ := List.cons.inj same
          exact ⟨others, after, ih.2 ⟨rfl, fun member => absent (List.mem_cons_of_mem _ member)⟩,
            rfl, rfl⟩

/-- A text is read as a key exactly when it names the key's field. -/
theorem key_eq_ok_iff {text : String} {found : FieldKey} :
    key text = .ok found ↔ NamesField found.dataset found.field text := by
  unfold key
  constructor
  · intro read
    split at read
    · cases read
    next dataset label split =>
    obtain ⟨chars, absent⟩ := splitAtUnderscore_eq_some_iff.1 split
    split at read
    · cases read
    split at read
    · cases read
    next nonEmpty =>
    dsimp only at read
    split at read
    · next field named =>
      cases read
      have label_eq := Field.label_of_ofLabel? named
      have text_eq : text = recordKey (String.ofList dataset) field := by
        apply String.toList_inj.1
        rw [toList_recordKey, label_eq, chars, String.toList_ofList, String.toList_ofList]
      rw [text_eq]
      apply namesField_recordKey_iff.2
      refine ⟨fun empty => nonEmpty ?_, by simpa using absent⟩
      simpa using congrArg String.toList empty
    · cases read
  · intro names
    obtain rfl : text = recordKey found.dataset found.field := names.spelled
    obtain ⟨hasId, absent⟩ := namesField_recordKey_iff.1 names
    have split : splitAtUnderscore (recordKey found.dataset found.field).toList =
        some (found.dataset.toList, found.field.label.toList) :=
      splitAtUnderscore_eq_some_iff.2 ⟨toList_recordKey _ _, absent⟩
    have notEmpty : found.dataset.toList.isEmpty = false := by
      simpa [List.isEmpty_iff] using hasId
    simp only [split]
    simp [Field.underscore_notMem_label, notEmpty, Field.ofLabel?_label]

/-- Only its own text is read as a key. -/
theorem key_eq_ok_iff_text {text : String} {found : FieldKey} :
    key text = .ok found ↔ text = found.text ∧ found.IsSound := by
  rw [key_eq_ok_iff]
  constructor
  · intro names
    obtain rfl : text = found.text := names.spelled
    exact ⟨rfl, names⟩
  · rintro ⟨rfl, names⟩
    exact names

end Grammar
end Campus
