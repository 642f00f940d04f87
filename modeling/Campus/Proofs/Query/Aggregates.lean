import Campus.Proofs.Dataset.Normal
import Campus.Query.Aggregate
import Campus.Query.Selection
/-!
# Rows up to the sign of zeros

Filters accept a record with and without signs of zeros alike, groups are formed alike, and an
aggregate over a group has the same value up to the sign of a zero. So the rows of a query before
they are put in order differ by signs of zeros only when its records do.
-/

namespace Campus

/-- A comparison does not see the sign of a zero. -/
@[simp]
theorem Comparator.holds_normalize (comparator : Comparator) (actual bound : Binary64) :
    comparator.holds actual.normalize bound = comparator.holds actual bound := by
  cases comparator <;> simp [holds]

namespace Filter

variable (record : Record)

mutual

/-- A filter accepts a record with and without signs of zeros alike. -/
theorem accepts_normalize : ∀ filter : Filter,
    accepts record.normalize filter = accepts record filter
  | .all => rfl
  | .and conditions => by rw [accepts, accepts, acceptsAll_normalize conditions]
  | .or conditions => by rw [accepts, accepts, acceptsAny_normalize conditions]
  | .not condition => by rw [accepts, accepts, accepts_normalize condition]
  | .compares comparator key bound => by
    rw [accepts, accepts, Record.get?_normalize]
    cases record.get? key.text with
    | none => rfl
    | some value => cases value <;> simp [Scalar.asNumber?]
  | .matches key pattern => by
    rw [accepts, accepts, Record.get?_normalize]
    cases record.get? key.text with
    | none => rfl
    | some value => cases value <;> simp [Scalar.asText?]

/-- Several filters accept a record with and without signs of zeros alike. -/
theorem acceptsAll_normalize : ∀ conditions : List Filter,
    acceptsAll record.normalize conditions = acceptsAll record conditions
  | [] => rfl
  | condition :: rest => by
    rw [acceptsAll, acceptsAll, accepts_normalize condition, acceptsAll_normalize rest]

/-- One of several filters accepts a record with and without signs of zeros alike. -/
theorem acceptsAny_normalize : ∀ conditions : List Filter,
    acceptsAny record.normalize conditions = acceptsAny record conditions
  | [] => rfl
  | condition :: rest => by
    rw [acceptsAny, acceptsAny, accepts_normalize condition, acceptsAny_normalize rest]

end

end Filter

namespace Grouping

variable {keys : List FieldKey}

/-- Group keys do not show the signs of zeros. -/
@[simp]
theorem signature_normalize (record : Record) :
    signature keys record.normalize = signature keys record := by
  refine List.map_congr_left fun key _ => ?_
  simp only [Record.get?_normalize, Option.map_map, Function.comp_def, Scalar.groupKey_groupKey]

/-- Groups under construction whose records are changed. -/
def Open.map (change : Record → Record) (opened : Open) : Open :=
  List.map (fun group => (group.1, group.2.map change)) opened

/-- A record may be changed before or after it is put in its group. -/
theorem map_place (change : Record → Record) (sig : List (Option Scalar)) (record : Record)
    (opened : Open) :
    Open.map change (place sig record opened) =
      place sig (change record) (opened.map change) := by
  induction opened with
  | nil => rfl
  | cons group rest ih =>
    obtain ⟨other, members⟩ := group
    by_cases same : other = sig
    · simp only [Open.map, place, same, if_true, List.map_cons]
    · have tail : List.map (fun group => (group.1, group.2.map change)) (place sig record rest) =
          place sig (change record)
            (List.map (fun group => (group.1, group.2.map change)) rest) := ih
      simp only [Open.map, place, same, if_false, List.map_cons, tail]

/-- The groups of records without signs of zeros. -/
theorem groups_normalize (records : List Record) :
    groups keys (records.map Record.normalize) =
      (groups keys records).map (List.map Record.normalize) := by
  have placed (opened : Open) :
      (records.map Record.normalize).foldl
        (fun opened record => place (signature keys record) record opened)
          (opened.map Record.normalize) =
        Open.map Record.normalize (records.foldl
          (fun opened record => place (signature keys record) record opened) opened) := by
    induction records generalizing opened with
    | nil => rfl
    | cons record rest ih =>
      rw [List.map_cons, List.foldl_cons, List.foldl_cons, ← ih, signature_normalize, map_place]
  have all := placed []
  simp only [groups]
  rw [show ([] : Open) = Open.map Record.normalize [] from rfl, all]
  simp only [Open.map, List.map_map, Function.comp_def, List.map_reverse, List.map_nil]

/-- What holds of all records in groups holds after another one is put in its group. -/
theorem forall_mem_place {P : Record → Prop} {sig : List (Option Scalar)} {record : Record}
    {opened : Open} (holds : P record) (each : ∀ group ∈ opened, ∀ r ∈ group.2, P r) :
    ∀ group ∈ place sig record opened, ∀ r ∈ group.2, P r := by
  induction opened with
  | nil =>
    simp only [place, List.mem_singleton]
    rintro _ rfl r member
    rw [List.mem_singleton.1 member]
    exact holds
  | cons head rest ih =>
    obtain ⟨other, members⟩ := head
    obtain ⟨first, later⟩ := List.forall_mem_cons.1 each
    rw [place]
    split
    · exact List.forall_mem_cons.2 ⟨List.forall_mem_cons.2 ⟨holds, first⟩, later⟩
    · exact List.forall_mem_cons.2 ⟨first, ih later⟩

/-- What holds of all records holds of the records in their groups. -/
theorem forall_mem_groups {P : Record → Prop} {records : List Record}
    (each : ∀ record ∈ records, P record) :
    ∀ group ∈ groups keys records, ∀ record ∈ group, P record := by
  have placed (opened : Open) (before : ∀ group ∈ opened, ∀ r ∈ group.2, P r) :
      ∀ group ∈ records.foldl
        (fun opened record => place (signature keys record) record opened) opened,
          ∀ r ∈ group.2, P r := by
    induction records generalizing opened with
    | nil => exact before
    | cons record rest ih =>
      obtain ⟨first, later⟩ := List.forall_mem_cons.1 each
      exact ih later _ (forall_mem_place first before)
  intro group formed record member
  obtain ⟨part, stands, rfl⟩ := List.mem_map.1 formed
  exact placed [] (by simp) part stands record (List.mem_reverse.1 member)

end Grouping

namespace Aggregate

/-- Values without signs of zeros are the grouping keys. -/
theorem values_normalize (key : String) (records : List Record) :
    values key (records.map Record.normalize) = (values key records).map Scalar.groupKey := by
  unfold values
  rw [List.filterMap_map, List.map_filterMap]
  simp only [Function.comp_def, Record.get?_normalize]

/-- Numbers without signs of zeros. -/
theorem numbers_normalize (key : String) (records : List Record) :
    numbers key (records.map Record.normalize) =
      (numbers key records).map Binary64.normalize := by
  unfold numbers
  rw [values_normalize, List.filterMap_map, List.map_filterMap]
  congr 1
  funext value
  cases value <;> simp [Scalar.asNumber?]

/-- Different values are counted without signs of zeros. -/
theorem distinct_normalize (key : String) (records : List Record) :
    distinct (values key (records.map Record.normalize)) = distinct (values key records) := by
  rw [values_normalize, distinct, distinct, List.map_map]
  simp only [Function.comp_def, Scalar.groupKey_groupKey]

/-- Combining from left to right may drop the signs of zeros first or last. -/
theorem reduce?_normalize {combine : Binary64 → Binary64 → Binary64}
    (commutes : ∀ x y, combine (Binary64.normalize x) (Binary64.normalize y) =
      (combine x y).normalize) (numbers : List Binary64) :
    reduce? combine (numbers.map Binary64.normalize) =
      (reduce? combine numbers).map Binary64.normalize := by
  cases numbers with
  | nil => rfl
  | cons first rest =>
    have folded : (rest.map Binary64.normalize).foldl combine first.normalize =
        (rest.foldl combine first).normalize := by
      induction rest generalizing first with
      | nil => rfl
      | cons next rest ih => rw [List.map_cons, List.foldl_cons, commutes, ih, List.foldl_cons]
    rw [List.map_cons, reduce?, folded]
    rfl

/-- The decimal of a number does not show the sign of a zero. -/
theorem ofBinary64?_normalize (x : Binary64) :
    Decimal.ofBinary64? x.normalize = Decimal.ofBinary64? x := by
  cases zero : x.isZero with
  | false => rw [Binary64.normalize, zero, if_neg Bool.false_ne_true]
  | true =>
    have positive : (0 : Binary64).shortest .up = ⟨0, 0⟩ := by decide
    have signed : x.shortest .up = ⟨0, 0⟩ := by rw [Binary64.shortest, if_pos zero]
    have finite : x.isFinite = true := by
      rw [Binary64.isFinite, eq_of_beq zero]
      decide
    have same (negative : Bool) : Decimal.ofNumeral? negative ⟨0, 0⟩ =
        Decimal.ofNumeral? false ⟨0, 0⟩ := by
      cases negative <;> decide
    rw [Binary64.normalize, if_pos zero, Decimal.ofBinary64?, Decimal.ofBinary64?, if_pos finite,
      if_pos (by decide), positive, signed, same, same x.isNegative]

/-- A decimal sum does not show the signs of zeros. -/
theorem decimalSum?_normalize (numbers : List Binary64) :
    decimalSum? (numbers.map Binary64.normalize) = decimalSum? numbers := by
  cases numbers with
  | nil => rfl
  | cons first rest =>
    rw [List.map_cons, decimalSum?, decimalSum?, ← List.map_cons, List.foldlM_map]
    simp only [ofBinary64?_normalize]
    · simp
    · simp

end Aggregate

/-- An aggregate has the same value with and without signs of zeros, up to the sign of a zero. -/
theorem ApplyRule.value?_normalize (rule : ApplyRule) (group : List Record) :
    (rule.value? (group.map Record.normalize)).map Scalar.groupKey =
      (rule.value? group).map Scalar.groupKey := by
  have numbers := Aggregate.numbers_normalize rule.target.text group
  unfold value?
  cases rule.token with
  | count => simp only [Aggregate.distinct_normalize]
  | max =>
    simp only [numbers, Aggregate.reduce?_normalize Binary64.max_normalize, Option.map_map,
      Function.comp_def, Scalar.groupKey_number, Binary64.normalize_normalize]
  | min =>
    simp only [numbers, Aggregate.reduce?_normalize Binary64.min_normalize, Option.map_map,
      Function.comp_def, Scalar.groupKey_number, Binary64.normalize_normalize]
  | sum => simp only [numbers, Aggregate.decimalSum?_normalize]
  | avg => simp only [numbers, Aggregate.decimalSum?_normalize, List.length_map]

end Campus
