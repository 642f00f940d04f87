import Campus.Data.StableSort
import Campus.Query.Basic
/-!
# Ordering rows

Rows are compared column by column; a missing value comes before any other. A downward order
reverses the comparison as a whole, and sorting keeps rows that compare equal as they stood.
-/

namespace Campus

/-- A record restricted to columns. -/
def Record.project (columns : List String) (record : Record) : Record :=
  record.filterKeys columns.contains

namespace OrderSpec

/-- The comparison of two values that may be missing. -/
def compareValues : Option Scalar → Option Scalar → Ordering
  | none, none => .eq
  | none, some _ => .lt
  | some _, none => .gt
  | some left, some right => left.compare right

/-- The comparison of rows by columns, the first difference deciding. -/
def compareBy : List String → Record → Record → Ordering
  | [], _, _ => .eq
  | column :: rest, left, right =>
    match compareValues (left.get? column) (right.get? column) with
    | .eq => compareBy rest left right
    | decided => decided

/-- The comparison of rows in the order's direction. -/
def compareRows (order : OrderSpec) (left right : Record) : Ordering :=
  match order.direction with
  | .up => compareBy order.columns left right
  | .down => (compareBy order.columns left right).swap

end OrderSpec

/-- The rows in order. There are none if sorting finds that the comparison contradicts itself: a
number that is NaN compares as equal to all other numbers, which differ among themselves. -/
def OrderSpec.sort (order : OrderSpec) (rows : List Record) : Option (List Record) :=
  StableSort.sort (fun left right => order.compareRows left right == .lt) rows

end Campus
