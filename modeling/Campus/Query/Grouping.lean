import Campus.Query.Basic
/-!
# Grouping

Records fall into one group when they agree on every group key: both lack it, or both have values
with one grouping key. Groups stand in the order of their first members, and members in the order of
the records.
-/

namespace Campus.Grouping

/-- What a record shows under the group keys. -/
def signature (keys : List FieldKey) (record : Record) : List (Option Scalar) :=
  keys.map fun key => (record.get? key.text).map Scalar.groupKey

/-- Groups under construction: each with its signature, members latest first. -/
abbrev Open := List (List (Option Scalar) × List Record)

/-- Put a record into the group of its signature, behind the others if it is the first. -/
def place (sig : List (Option Scalar)) (record : Record) : Open → Open
  | [] => [(sig, [record])]
  | (other, members) :: rest =>
    if other = sig then (other, record :: members) :: rest
    else (other, members) :: place sig record rest

/-- The groups of a list of records. -/
def groups (keys : List FieldKey) (records : List Record) : List (List Record) :=
  let placed := records.foldl (fun opened record => place (signature keys record) record opened) []
  placed.map fun group => group.2.reverse

end Campus.Grouping
