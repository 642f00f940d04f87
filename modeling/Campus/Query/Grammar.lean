import Campus.Json.Basic
import Campus.Query.Error
/-!
# The query grammar

Reading a query document checks it against the grammar and builds the query it means. Parts are read
in a fixed order and the first fault is reported:

* the document has `WHERE` and `OPTIONS`, optionally `TRANSFORMATIONS`, and nothing else;
* `WHERE` is an empty object or a filter: an object of one operator, `AND` and `OR` over a non-empty
  array of filters, `NOT` over a filter, `LT`, `GT` and `EQ` over one numeric key with a number,
  `IS` over one textual key with a pattern;
* `OPTIONS` has `COLUMNS`, a non-empty array of non-empty texts, and optionally `ORDER`;
* `TRANSFORMATIONS` has `GROUP`, a non-empty array of keys, and `APPLY`, an array of named
  aggregates.

All keys name one dataset, which has to exist.
-/

namespace Campus

/-- The outcome of reading a part of a query document. -/
abbrev Reading (α : Type) := Except QueryFault α

namespace Grammar

/-- The members of an object. -/
def object (part : String) : Json → Reading (Entries Json)
  | .object members => .ok members
  | _ => .error (.notObject part)

/-- The items of an array. -/
def array (part : String) : Json → Reading (List Json)
  | .array items => .ok items
  | _ => .error (.notArray part)

/-- The items of an array that has some. -/
def nonEmptyArray (part : String) (doc : Json) : Reading (List Json) :=
  match array part doc with
  | .ok [] => .error (.empty part)
  | other => other

/-- The only member of an object. -/
def single (part : String) : Json → Reading (String × Json)
  | .object [entry] => .ok entry
  | .object members => .error (.notSingle part members.length)
  | _ => .error (.notObject part)

/-- No member has a key other than the allowed ones. -/
def onlyKeys (part : String) (allowed : List String) (members : Entries Json) : Reading Unit :=
  match members.find? fun member => !allowed.contains member.1 with
  | some (key, _) => .error (.unexpectedKey part key)
  | none => .ok ()

/-- The characters up to the first underscore and those after it. -/
def splitAtUnderscore : List Char → Option (List Char × List Char)
  | [] => none
  | c :: rest =>
    if c = '_' then some ([], rest)
    else (splitAtUnderscore rest).map fun (before, after) => (c :: before, after)

/-- A key is a dataset id, one underscore and a field name. -/
def key (text : String) : Reading FieldKey :=
  match splitAtUnderscore text.toList with
  | none => .error (.keyForm text)
  | some (dataset, label) =>
    if label.contains '_' then .error (.keyForm text)
    else if dataset.isEmpty then .error (.keyWithoutDataset text)
    else
      let label := String.ofList label
      match Field.ofLabel? label with
      | some field => .ok ⟨String.ofList dataset, field⟩
      | none => .error (.unknownField label text)

/-- A comparison: one numeric key with a number. -/
def comparison (comparator : Comparator) (doc : Json) : Reading Filter := do
  let (text, bound) ← single comparator.label doc
  let key ← key text
  if key.fieldClass ≠ .numeric then .error (.requiresNumeric comparator.label text)
  match bound.number? with
  | some bound => .ok (.compares comparator key bound)
  | none => .error (.valueNotNumber comparator.label)

/-- A match: one textual key with a pattern. -/
def pattern (doc : Json) : Reading Filter := do
  let (text, literal) ← single "IS" doc
  let key ← key text
  if key.fieldClass ≠ .text then .error (.requiresString text)
  match literal.text? with
  | none => .error .valueNotString
  | some literal =>
    match Pattern.ofLiteral literal with
    | .ok pattern => .ok (.matches key pattern)
    | .error fault => .error (.pattern fault)

mutual

/-- A filter: an object of one operator. -/
def filter : Json → Reading Filter
  | .object [(operator, operand)] =>
    match operator with
    | "AND" => conjunction (fun found => .and found) "AND" operand
    | "OR" => conjunction (fun found => .or found) "OR" operand
    | "NOT" =>
      match operand with
      | .object members => (filter (.object members)).map .not
      | _ => .error (.notObject "NOT")
    | "LT" => comparison .less operand
    | "GT" => comparison .greater operand
    | "EQ" => comparison .equal operand
    | "IS" => pattern operand
    | other => .error (.unknownOperator other)
  | .object members => .error (.notSingle "Filter" members.length)
  | _ => .error (.notObject "Filter")

/-- The filters of a non-empty array, put together by an operator. -/
def conjunction (combine : List Filter → Filter) (operator : String) : Json → Reading Filter
  | .array [] => .error (.empty operator)
  | .array (item :: rest) => do
    let first ← filter item
    let others ← filters rest
    return combine (first :: others)
  | _ => .error (.notArray operator)

/-- Filters in sequence. -/
def filters : List Json → Reading (List Filter)
  | [] => .ok []
  | item :: rest => do
    let first ← filter item
    let others ← filters rest
    return first :: others

end

/-- The condition of a query: an empty object accepts every record. -/
def condition : Json → Reading Filter
  | .object [] => .ok .all
  | .object members => filter (.object members)
  | _ => .error (.notObject "WHERE")

/-- A column name. -/
def column (doc : Json) : Reading String :=
  match doc.text? with
  | some name => if name.isEmpty then .error .columnEntry else .ok name
  | none => .error .columnEntry

/-- The columns of the options. -/
def columns (options : Entries Json) : Reading (List String) :=
  match Entries.get? "COLUMNS" options with
  | none => .error (.mustContain "OPTIONS" "COLUMNS")
  | some doc => do (← nonEmptyArray "COLUMNS" doc).mapM column

/-- A group key, which is also a column. -/
def groupKey (columns : List String) (doc : Json) : Reading FieldKey :=
  match doc.text? with
  | none => .error .groupEntry
  | some text => do
    let key ← key text
    if columns.contains text then .ok key else .error (.groupKeyNotColumn text)

/-- A named aggregate. -/
def applyRule (doc : Json) : Reading ApplyRule := do
  let (name, body) ← single "APPLY rule" doc
  if name.isEmpty || name.toList.contains '_' then .error (.applyName name)
  let (label, target) ← single "APPLY rule body" body
  match ApplyToken.ofLabel? label with
  | none => .error (.applyToken label)
  | some token =>
    match target.text? with
    | none => .error .applyTarget
    | some text => do
      let target ← key text
      if token.acceptsClass target.fieldClass then .ok ⟨name, token, target⟩
      else .error (.requiresNumeric token.label text)

/-- Aggregates with different names, after those already read. -/
def applyRules (before : List ApplyRule) : List Json → Reading (List ApplyRule)
  | [] => .ok before
  | doc :: rest => do
    let rule ← applyRule doc
    if before.any fun earlier => earlier.name == rule.name then
      .error (.duplicateApplyName rule.name)
    else applyRules (before ++ [rule]) rest

/-- Grouping and aggregates. -/
def transformations (columns : List String) (doc : Json) : Reading Transformations := do
  let members ← object "TRANSFORMATIONS" doc
  onlyKeys "TRANSFORMATIONS" ["GROUP", "APPLY"] members
  match Entries.get? "GROUP" members with
  | none => .error (.mustContain "TRANSFORMATIONS" "GROUP")
  | some doc => do
    let group ← (← nonEmptyArray "GROUP" doc).mapM (groupKey columns)
    match Entries.get? "APPLY" members with
    | none => .error (.mustContain "TRANSFORMATIONS" "APPLY")
    | some doc => do
      let apply ← applyRules [] (← array "APPLY" doc)
      return ⟨group, apply⟩

/-- A column of a grouped query is grouped by or aggregated. -/
def producedColumn (t : Transformations) (column : String) : Reading Unit :=
  if t.group.any (fun key => key.text == column) || t.apply.any (fun rule => rule.name == column)
  then .ok ()
  else .error (.columnNotProduced column)

/-- An order key, which is a column. -/
def orderKey (columns : List String) (doc : Json) : Reading String :=
  match doc.text? with
  | none => .error .orderKeyEntry
  | some name => if columns.contains name then .ok name else .error (.orderKeyNotColumn name)

/-- The order of the rows. -/
def order (columns : List String) : Json → Reading OrderSpec
  | .text name =>
    if columns.contains name then .ok (.key name) else .error (.orderKeyNotColumn name)
  | .object members => do
    onlyKeys "ORDER" ["dir", "keys"] members
    match ((Entries.get? "dir" members).bind Json.text?).bind Direction.ofLabel? with
    | none => .error .orderDirection
    | some direction =>
      match Entries.get? "keys" members with
      | none => .error .orderWithoutKeys
      | some doc => do
        let keys ← (← nonEmptyArray "ORDER keys" doc).mapM (orderKey columns)
        return .keys direction keys
  | _ => .error .orderForm

/-- The parts of a query before it is tied to a dataset. -/
structure Parts where
  filter : Filter
  columns : List String
  order : Option OrderSpec
  transformations : Option Transformations
  /-- The keys of ungrouped columns. -/
  columnKeys : List FieldKey

/-- All keys that name a dataset. -/
def Parts.keys (parts : Parts) : List FieldKey :=
  parts.filter.keys ++ (parts.transformations.map Transformations.keys).getD [] ++ parts.columnKeys

/-- The parts of a query document, in the order in which faults are looked for. -/
def parts (doc : Json) : Reading Parts := do
  let top ← object "Query" doc
  onlyKeys "top-level" ["WHERE", "OPTIONS", "TRANSFORMATIONS"] top
  match Entries.get? "WHERE" top, Entries.get? "OPTIONS" top with
  | none, _ => .error (.missing "WHERE")
  | _, none => .error (.missing "OPTIONS")
  | some whereDoc, some optionsDoc => do
    let filter ← condition whereDoc
    let options ← object "OPTIONS" optionsDoc
    onlyKeys "OPTIONS" ["COLUMNS", "ORDER"] options
    let columns ← columns options
    let transformations ← (Entries.get? "TRANSFORMATIONS" top).mapM (transformations columns)
    let columnKeys ← match transformations with
      | some t => do
        columns.forM (producedColumn t)
        pure []
      | none => columns.mapM key
    let order ← (Entries.get? "ORDER" options).mapM (order columns)
    return { filter, columns, order, transformations, columnKeys }

/-- The datasets that keys name, in ascending order. -/
def datasets (keys : List FieldKey) : List String :=
  (Keyed.ofList (keys.map fun key => (key.dataset, ()))).keys

end Grammar

/-- The query that a document means, among the datasets of a catalog. -/
def Query.read (inCatalog : String → Bool) (doc : Json) : Except QueryError Query :=
  match Grammar.parts doc with
  | .error fault => .error (.invalid fault)
  | .ok parts =>
    match Grammar.datasets parts.keys with
    | [] => .error (.invalid .noDataset)
    | [dataset] =>
      if inCatalog dataset then
        .ok
          { dataset
            filter := parts.filter
            columns := parts.columns
            order := parts.order
            transformations := parts.transformations }
      else .error (.unknownDataset dataset)
    | several => .error (.multipleDatasets several)

end Campus
