import Campus.Proofs.Query.Documents
import Campus.Proofs.Query.Globs
import Campus.Query.Selection
/-!
# What a condition says

What the condition of a query says of a record can be told from the document alone, without reading
it into a filter first: operators are connectives, and a comparison or a match looks up the text of
its key in the record. A filter that is read from the document accepts exactly the records of which
the document holds.
-/

namespace Campus

namespace Json

variable (record : Record)

/-- The record has a number under the key of the operand, and that number is in a relation to the
number of the operand. -/
def Compares (related : Binary64 → Binary64 → Prop) : Json → Prop
  | .object [(key, .number bound)] =>
    ∃ actual, record.get? key = some (.number actual) ∧ related actual bound.toBinary64
  | _ => False

/-- The record has a text under the key of the operand, and that text fits the glob of the
operand. -/
def Fits : Json → Prop
  | .object [(key, .text glob)] =>
    ∃ actual, record.get? key = some (.text actual) ∧ Pattern.Globs glob.toList actual.toList
  | _ => False

/-- What a document says of a record by its operators. An empty object says nothing, and a document
that is no condition holds of no record. -/
def Holds : Json → Prop
  | .object [] => True
  | .object [("AND", .array items)] => ∀ item ∈ items, Holds item
  | .object [("OR", .array items)] => ∃ (item : Json) (_ : item ∈ items), Holds item
  | .object [("NOT", operand)] => ¬Holds operand
  | .object [("LT", operand)] => operand.Compares record fun actual bound => actual.less bound
  | .object [("GT", operand)] => operand.Compares record fun actual bound => bound.less actual
  | .object [("EQ", operand)] => operand.Compares record fun actual bound => actual.equals bound
  | .object [("IS", operand)] => operand.Fits record
  | _ => False

end Json

namespace Filter

variable {record : Record}

/-- A comparison asks for a number under its key that is in its relation to the bound. -/
theorem accepts_compares_iff {comparator : Comparator} {key : FieldKey} {bound : Binary64} :
    (compares comparator key bound).accepts record = true ↔
      ∃ actual, record.get? key.text = some (.number actual) ∧
        comparator.holds actual bound = true := by
  cases found : record.get? key.text with
  | none => simp [accepts, found]
  | some value => cases value <;> simp [accepts, found, Scalar.asNumber?]

/-- A match asks for a text under its key that its pattern accepts. -/
theorem accepts_matches_iff {key : FieldKey} {pattern : Pattern} :
    (Filter.matches key pattern).accepts record = true ↔
      ∃ actual, record.get? key.text = some (.text actual) ∧ pattern.accepts actual = true := by
  cases found : record.get? key.text with
  | none => simp [accepts, found]
  | some value => cases value <;> simp [accepts, found, Scalar.asText?]

end Filter

namespace Grammar

variable {record : Record}

/-- A filter accepts the records of which the document holds that it is read from. -/
theorem accepts_iff_holds_of_filter {doc : Json} {found : Filter} (read : filter doc = .ok found) :
    found.accepts record = true ↔ doc.Holds record := by
  let Agrees (doc : Json) (found : Filter) : Prop := found.accepts record = true ↔ doc.Holds record
  have conjunction {items : List Json} {parts : List Filter}
      (each : List.Forall₂ Agrees items parts) :
      parts.all (fun part => part.accepts record) = true ↔ ∀ item ∈ items, item.Holds record := by
    induction each with
    | nil => simp
    | cons first _ ih => simp [ih, show _ ↔ _ from first]
  have disjunction {items : List Json} {parts : List Filter}
      (each : List.Forall₂ Agrees items parts) :
      parts.any (fun part => part.accepts record) = true ↔
        ∃ (item : Json) (_ : item ∈ items), item.Holds record := by
    induction each with
    | nil => simp
    | cons first _ ih => simp [ih, show _ ↔ _ from first]
  refine filter_induction (P := Agrees) ?_ ?_ ?_ ?_ ?_ read
  · intro items parts _ each
    show (Filter.and parts).accepts record = true ↔ _
    rw [Filter.accepts, Filter.acceptsAll_eq_all, Json.Holds]
    exact conjunction each
  · intro items parts _ each
    show (Filter.or parts).accepts record = true ↔ _
    rw [Filter.accepts, Filter.acceptsAny_eq_any, Json.Holds]
    exact disjunction each
  · intro operand inner agrees
    show (Filter.not inner).accepts record = true ↔ _
    rw [Filter.accepts, Json.Holds, Bool.not_eq_true', ← Bool.not_eq_true]
    exact not_congr agrees
  · intro comparator key bound _ _
    show (Filter.compares comparator key bound.toBinary64).accepts record = true ↔ _
    rw [Filter.accepts_compares_iff]
    cases comparator <;> rw [Comparator.label, Json.Holds, Json.Compares] <;> rfl
  · intro key literal pattern _ _ readLiteral
    show (Filter.matches key pattern).accepts record = true ↔ _
    simp only [Filter.accepts_matches_iff, Json.Holds, Json.Fits,
      Pattern.accepts_iff_globs readLiteral]

/-- A filter accepts the records of which the condition holds that it is read from. -/
theorem accepts_iff_holds_of_condition {doc : Json} {found : Filter}
    (read : condition doc = .ok found) : found.accepts record = true ↔ doc.Holds record := by
  rcases condition_eq_ok_iff.1 read with ⟨rfl, rfl⟩ | readFilter
  · rw [Filter.accepts, Json.Holds]
    exact iff_of_true rfl trivial
  · exact accepts_iff_holds_of_filter readFilter

end Grammar

namespace Query

/-- Whatever condition is read, its filter accepts the records of which the condition holds; and a
query that is read selects the records of which the condition of its document holds. -/
theorem accepts_iff_condition_holds (record : Record) :
    (∀ doc found, Grammar.condition doc = .ok found →
      (found.accepts record = true ↔ doc.Holds record)) ∧
    ∀ inCatalog doc query, Query.read inCatalog doc = .ok query →
      ∃ members whereDoc, doc = .object members ∧ Entries.get? "WHERE" members = some whereDoc ∧
        (query.filter.accepts record = true ↔ whereDoc.Holds record) := by
  constructor
  · intro doc found read
    exact Grammar.accepts_iff_holds_of_condition read
  · intro inCatalog doc query read
    obtain ⟨columnKeys, readParts, _, _⟩ := Grammar.query_read_eq_ok_iff.1 read
    obtain ⟨members, options, whereDoc, rfl, spelled⟩ := Grammar.parts_eq_ok_iff.1 readParts
    exact ⟨members, whereDoc, rfl, spelled.hasWhere,
      Grammar.accepts_iff_holds_of_condition spelled.filter⟩

/-- The condition of sections whose average is not above a bound. -/
def averageNotAbove (bound : JsonNumber) : Json :=
  .object [("NOT", .object [("GT", .object [("courses_avg", .number bound)])])]

/-- A record without an average satisfies the negated comparison, whatever the bound is. -/
theorem accepts_averageNotAbove :
    Grammar.condition (averageNotAbove (.integer 97)) =
        .ok (.not (.compares .greater ⟨"courses", .avg⟩ (.ofInt 97))) ∧
      (Filter.not (.compares .greater ⟨"courses", .avg⟩ (.ofInt 97))).accepts ∅ = true := by
  have sound : FieldKey.IsSound ⟨"courses", .avg⟩ := namesField_recordKey_iff.2 (by decide)
  have compared :
      Grammar.filter (.object [("GT", .object [("courses_avg", .number (.integer 97))])]) =
        .ok (.compares .greater ⟨"courses", .avg⟩ (.ofInt 97)) :=
    Grammar.filter_eq_ok_iff.2 (.comparison .greater (.integer 97) sound rfl)
  have read : Grammar.condition (averageNotAbove (.integer 97)) =
      .ok (.not (.compares .greater ⟨"courses", .avg⟩ (.ofInt 97))) :=
    Grammar.condition_eq_ok_iff.2 (.inr (Grammar.filter_eq_ok_iff.2 (.negation compared)))
  refine ⟨read, ((accepts_iff_condition_holds ∅).1 _ _ read).2 ?_⟩
  rw [averageNotAbove, Json.Holds, Json.Holds, Json.Compares]
  rintro ⟨actual, found, _⟩
  cases found

end Query
end Campus
