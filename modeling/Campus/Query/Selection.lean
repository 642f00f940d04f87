import Campus.Query.Basic
/-!
# Selecting records

A filter is evaluated on one record. A comparison or a match looks at the value under its key; a
record without that value, or with one of the other class, does not satisfy it.
-/

namespace Campus

namespace Filter

mutual

/-- Whether a record satisfies a filter. -/
def accepts (record : Record) : Filter → Bool
  | .all => true
  | .and conditions => acceptsAll record conditions
  | .or conditions => acceptsAny record conditions
  | .not condition => !accepts record condition
  | .compares comparator key bound =>
    match (record.get? key.text).bind Scalar.asNumber? with
    | some actual => comparator.holds actual bound
    | none => false
  | .matches key pattern =>
    match (record.get? key.text).bind Scalar.asText? with
    | some actual => pattern.accepts actual
    | none => false

/-- Whether a record satisfies every one of several filters. -/
def acceptsAll (record : Record) : List Filter → Bool
  | [] => true
  | condition :: rest => accepts record condition && acceptsAll record rest

/-- Whether a record satisfies one of several filters. -/
def acceptsAny (record : Record) : List Filter → Bool
  | [] => false
  | condition :: rest => accepts record condition || acceptsAny record rest

end

/-- A record satisfies every filter if it satisfies each. -/
theorem acceptsAll_eq_all (record : Record) (conditions : List Filter) :
    acceptsAll record conditions = conditions.all (accepts record) := by
  induction conditions with
  | nil => rfl
  | cons condition rest ih => simp [acceptsAll, ih]

/-- A record satisfies one of the filters if it satisfies any. -/
theorem acceptsAny_eq_any (record : Record) (conditions : List Filter) :
    acceptsAny record conditions = conditions.any (accepts record) := by
  induction conditions with
  | nil => rfl
  | cons condition rest ih => simp [acceptsAny, ih]

end Filter
end Campus
