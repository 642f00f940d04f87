import Campus.Dataset.Basic
import Campus.Query.Pattern
/-!
# Queries

A query asks one dataset for the records that a filter accepts, optionally grouped and aggregated,
restricted to columns and put in order. Keys hold the dataset and the field they name, so evaluation
never looks at key text again except to find a value in a record.
-/

namespace Campus

/-- A field of a dataset, as queries name it. -/
structure FieldKey where
  dataset : String
  field : Field
deriving DecidableEq

namespace FieldKey

/-- The record key. -/
def text (key : FieldKey) : String := recordKey key.dataset key.field

/-- The class of the field. -/
def fieldClass (key : FieldKey) : FieldClass := key.field.fieldClass

end FieldKey

/-- How a filter compares numbers. -/
inductive Comparator
  | less
  | greater
  | equal
deriving DecidableEq

namespace Comparator

/-- The operator in a query document. -/
def label : Comparator → String
  | less => "LT"
  | greater => "GT"
  | equal => "EQ"

/-- Whether a record's number stands in this relation to the number of the filter. -/
def holds : Comparator → Binary64 → Binary64 → Bool
  | less, actual, bound => actual.less bound
  | greater, actual, bound => bound.less actual
  | equal, actual, bound => actual.equals bound

end Comparator

/-- A condition on a record. -/
inductive Filter
  | all
  | and (conditions : List Filter)
  | or (conditions : List Filter)
  | not (condition : Filter)
  | compares (comparator : Comparator) (key : FieldKey) (bound : Binary64)
  | matches (key : FieldKey) (pattern : Pattern)
deriving Inhabited

/-- Which end of an order comes first. -/
inductive Direction
  | up
  | down
deriving DecidableEq

/-- The name of a direction in a query document. -/
def Direction.label : Direction → String
  | up => "UP"
  | down => "DOWN"

/-- The direction with a given name. -/
def Direction.ofLabel? : String → Option Direction
  | "UP" => some up
  | "DOWN" => some down
  | _ => none

/-- The order of result rows: by one column upward, or by several columns in one direction. -/
inductive OrderSpec
  | key (column : String)
  | keys (direction : Direction) (columns : List String)
deriving DecidableEq

namespace OrderSpec

/-- The columns compared, the most significant first. -/
def columns : OrderSpec → List String
  | key column => [column]
  | keys _ columns => columns

/-- The direction of the whole order. -/
def direction : OrderSpec → Direction
  | key _ => .up
  | keys direction _ => direction

end OrderSpec

/-- An aggregate over the records of a group. -/
inductive ApplyToken
  | max
  | min
  | avg
  | count
  | sum
deriving DecidableEq

namespace ApplyToken

/-- The name of an aggregate in a query document. -/
def label : ApplyToken → String
  | max => "MAX"
  | min => "MIN"
  | avg => "AVG"
  | count => "COUNT"
  | sum => "SUM"

/-- The aggregate with a given name. -/
def ofLabel? : String → Option ApplyToken
  | "MAX" => some max
  | "MIN" => some min
  | "AVG" => some avg
  | "COUNT" => some count
  | "SUM" => some sum
  | _ => none

/-- Counting takes any field, the others only numbers. -/
def acceptsClass (token : ApplyToken) (fieldClass : FieldClass) : Bool :=
  token == .count || fieldClass == .numeric

end ApplyToken

/-- A named aggregate of a field. -/
structure ApplyRule where
  name : String
  token : ApplyToken
  target : FieldKey
deriving DecidableEq

/-- Grouping and the aggregates of each group. -/
structure Transformations where
  group : List FieldKey
  apply : List ApplyRule
deriving DecidableEq

/-- A query against one dataset. -/
structure Query where
  dataset : String
  filter : Filter
  columns : List String
  order : Option OrderSpec
  transformations : Option Transformations

mutual

/-- The keys a filter mentions, in order. -/
def Filter.keys : Filter → List FieldKey
  | .all => []
  | .and conditions => Filter.keysOfAll conditions
  | .or conditions => Filter.keysOfAll conditions
  | .not condition => condition.keys
  | .compares _ key _ => [key]
  | .matches key _ => [key]

/-- The keys several filters mention. -/
def Filter.keysOfAll : List Filter → List FieldKey
  | [] => []
  | condition :: rest => condition.keys ++ Filter.keysOfAll rest

end

/-- The keys that grouping and aggregates mention. -/
def Transformations.keys (t : Transformations) : List FieldKey :=
  t.group ++ t.apply.map ApplyRule.target

end Campus
