import Campus.Number.Decimal
import Campus.Query.Grouping
/-!
# Aggregates

An aggregate is taken over the values that the records of a group have under its target. Counting
counts different values; the others look at numbers only and have no value when there are none. Sums
and means are taken in decimals and rounded to two places, halves away from zero; they have no value
either when a number is too large for a decimal or a sum overflows.
-/

namespace Campus

namespace Aggregate

/-- The values present under a key. -/
def values (key : String) (records : List Record) : List Scalar :=
  records.filterMap fun record => record.get? key

/-- The numbers present under a key. -/
def numbers (key : String) (records : List Record) : List Binary64 :=
  (values key records).filterMap Scalar.asNumber?

/-- The values without repetition, up to grouping key. -/
def distinct (found : List Scalar) : List Scalar :=
  (found.map Scalar.groupKey).foldl
    (fun seen value => if seen.contains value then seen else value :: seen) []

/-- The decimal sum of numbers, absent when there are none or one does not fit. -/
def decimalSum? : List Binary64 → Option Decimal
  | [] => none
  | numbers =>
    numbers.foldlM (fun total number => do total.add? (← Decimal.ofBinary64? number)) Decimal.zero

/-- Combine numbers from left to right, absent when there are none. -/
def reduce? (combine : Binary64 → Binary64 → Binary64) : List Binary64 → Option Binary64
  | [] => none
  | first :: rest => some (rest.foldl combine first)

end Aggregate

/-- The value of an aggregate over the records of a group. -/
def ApplyRule.value? (rule : ApplyRule) (group : List Record) : Option Scalar :=
  let key := rule.target.text
  let numbers := Aggregate.numbers key group
  match rule.token with
  | .count => some (.number (.ofNat (Aggregate.distinct (Aggregate.values key group)).length))
  | .max => (Aggregate.reduce? Binary64.max numbers).map .number
  | .min => (Aggregate.reduce? Binary64.min numbers).map .number
  | .sum => (Aggregate.decimalSum? numbers).map fun total => .number total.toCents
  | .avg => do
    let total ← Aggregate.decimalSum? numbers
    let mean ← total.divNat? numbers.length
    return .number mean.toCents

namespace Transformations

/-- The row of a group: what its first member shows under the group keys, then the aggregates. -/
def row (t : Transformations) (group : List Record) : Record :=
  let shown := match group with
    | [] => ∅
    | first :: _ => t.group.foldl (fun row key =>
        match first.get? key.text with
        | some value => row.insert key.text value
        | none => row) (∅ : Record)
  t.apply.foldl (fun row rule =>
    match rule.value? group with
    | some value => row.insert rule.name value
    | none => row) shown

/-- One row for each group, in the order of the groups. -/
def rows (t : Transformations) (records : List Record) : List Record :=
  (Grouping.groups t.group records).map t.row

end Transformations
end Campus
