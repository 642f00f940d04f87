import Campus.Query.Aggregate
import Campus.Query.Error
import Campus.Query.Ordering
import Campus.Query.Selection
/-!
# Executing queries

A query selects records, groups them if it asks for that, refuses too many rows, restricts the rows
to its columns and puts them in order, in this sequence. Only the last step can break down.
-/

namespace Campus

/-- How many rows a result may have unless the service is set up otherwise. -/
def defaultRowLimit : Nat := 5000

namespace Query

/-- The rows before the limit, the columns and the order are applied. -/
def candidates (query : Query) (records : List Record) : List Record :=
  let selected := records.filter fun record => query.filter.accepts record
  match query.transformations with
  | some t => t.rows selected
  | none => selected

/-- Rows in the order that the query asks for, if they can be put in order. -/
def arrange (query : Query) (rows : List Record) : Option (List Record) :=
  match query.order with
  | none => some rows
  | some order => order.sort rows

/-- The result of a query over the records of its dataset. -/
def execute (query : Query) (rowLimit : Nat) (records : List Record) :
    Except QueryError (List Record) :=
  let rows := query.candidates records
  if rowLimit < rows.length then .error (.resultTooLarge rows.length rowLimit)
  else match query.arrange (rows.map (Record.project query.columns)) with
    | some arranged => .ok arranged
    | none => .error .breakdown

end Query
end Campus
