import Campus.Json.Source
/-!
# Proper documents

A document in memory is a finite tree of texts, numbers that are finite, and objects whose keys
ascend. These are the documents that JSON text can spell.
-/

namespace Campus

/-- A document whose numbers are finite and whose objects hold every key once, in order. -/
inductive Json.IsProper : Json → Prop
  | null : IsProper .null
  | bool (value : Bool) : IsProper (.bool value)
  | number {value : JsonNumber} (finite : value.toBinary64.isFinite = true) :
    IsProper (.number value)
  | text (value : String) : IsProper (.text value)
  | array {items : List Json} (each : ∀ item ∈ items, item.IsProper) : IsProper (.array items)
  | object {members : Entries Json} (ascending : Entries.Ascending members)
    (each : ∀ member ∈ members, member.2.IsProper) : IsProper (.object members)

namespace Json

/-- A found member of a proper object is proper. -/
theorem isProper_of_get? {members : Entries Json} {key : String} {doc : Json}
    (proper : (Json.object members).IsProper) (found : Entries.get? key members = some doc) :
    doc.IsProper := by
  cases proper with
  | object _ each => exact each _ (Entries.mem_of_get? found)

/-- The value of the only member of a proper object is proper. -/
theorem isProper_of_single {key : String} {doc : Json}
    (proper : (Json.object [(key, doc)]).IsProper) : doc.IsProper :=
  isProper_of_get? proper (show Entries.get? key [(key, doc)] = some doc by simp [Entries.get?])

/-- An object of one member is proper when the value is. -/
theorem isProper_single (key : String) {doc : Json} (proper : doc.IsProper) :
    (Json.object [(key, doc)]).IsProper :=
  .object (List.pairwise_singleton _ _) (by simpa using proper)

/-- Texts in an array are proper. -/
theorem isProper_texts (texts : List String) : (Json.array (texts.map .text)).IsProper := by
  refine .array fun item member => ?_
  obtain ⟨text, _, rfl⟩ := List.mem_map.1 member
  exact .text text

end Json
end Campus
