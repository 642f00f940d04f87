import Campus.Query.Basic
/-!
# Query errors

A query is refused because its document breaks the grammar, because it names no dataset, an unknown
one or several, or because its result is too large. Each way of breaking the grammar is a cause of
its own, and all wording is in one place. Beyond that, putting the result in order may break down.
-/

namespace Campus

/-- How a query document breaks the grammar. -/
inductive QueryFault
  /-- A part is not an object. -/
  | notObject (part : String)
  /-- A part is not an array. -/
  | notArray (part : String)
  /-- A part has no items. -/
  | empty (part : String)
  /-- A part that has to have one key has another number of them. -/
  | notSingle (part : String) (found : Nat)
  /-- A part has a key that it cannot have. -/
  | unexpectedKey (part key : String)
  /-- The document lacks one of its two required parts. -/
  | missing (part : String)
  /-- A part lacks something it has to contain. -/
  | mustContain (part content : String)
  /-- A key does not have exactly one underscore. -/
  | keyForm (key : String)
  /-- A key starts with its underscore. -/
  | keyWithoutDataset (key : String)
  /-- A key ends in a name that no field has. -/
  | unknownField (field key : String)
  /-- A filter has an operator that does not exist. -/
  | unknownOperator (operator : String)
  /-- A comparison or aggregate of numbers is given a textual field. -/
  | requiresNumeric (operator key : String)
  /-- A match is given a numeric field. -/
  | requiresString (key : String)
  /-- A comparison is not with a number. -/
  | valueNotNumber (operator : String)
  /-- A match is not with a text. -/
  | valueNotString
  /-- A match literal is no pattern. -/
  | pattern (fault : Pattern.Fault)
  /-- A column is not a non-empty text. -/
  | columnEntry
  /-- A group key is not a text. -/
  | groupEntry
  /-- A group key is not among the columns. -/
  | groupKeyNotColumn (key : String)
  /-- An aggregate's name is empty or has an underscore. -/
  | applyName (name : String)
  /-- An aggregate does not exist. -/
  | applyToken (token : String)
  /-- An aggregate's target is not a text. -/
  | applyTarget
  /-- Two aggregates share a name. -/
  | duplicateApplyName (name : String)
  /-- A column of a grouped query is neither grouped by nor aggregated. -/
  | columnNotProduced (column : String)
  /-- An order key is not among the columns. -/
  | orderKeyNotColumn (key : String)
  /-- The direction of an order is missing or unknown. -/
  | orderDirection
  /-- An order has no list of keys. -/
  | orderWithoutKeys
  /-- An order key is not a text. -/
  | orderKeyEntry
  /-- An order is neither a text nor an object. -/
  | orderForm
  /-- No key names a dataset. -/
  | noDataset
deriving DecidableEq

/-- The message about a broken rule of the grammar. -/
def QueryFault.message : QueryFault → String
  | notObject part => s!"{part} must be an object"
  | notArray part => s!"{part} must be an array"
  | empty part => s!"{part} must not be empty"
  | notSingle part found => s!"{part} must have exactly one key, found {found}"
  | unexpectedKey part key => s!"Unexpected {part} key '{key}'"
  | missing part => s!"Missing {part}"
  | mustContain part content => s!"{part} must contain {content}"
  | keyForm key => s!"Key '{key}' must have the form datasetId_field"
  | keyWithoutDataset key => s!"Key '{key}' has no dataset id"
  | unknownField field key => s!"Unknown field '{field}' in key '{key}'"
  | unknownOperator operator => s!"Unknown filter operator '{operator}'"
  | requiresNumeric operator key => s!"{operator} requires a numeric key, got '{key}'"
  | requiresString key => s!"IS requires a string key, got '{key}'"
  | valueNotNumber operator => s!"{operator} value must be a number"
  | valueNotString => "IS value must be a string"
  | pattern fault => fault.message
  | columnEntry => "COLUMNS entries must be non-empty strings"
  | groupEntry => "GROUP entries must be strings"
  | groupKeyNotColumn key => s!"GROUP key '{key}' must be in COLUMNS"
  | applyName name => s!"APPLY name '{name}' must be non-empty and contain no underscore"
  | applyToken token => s!"APPLY token '{token}' must be one of MAX, MIN, AVG, COUNT, SUM"
  | applyTarget => "APPLY target must be a key string"
  | duplicateApplyName name => s!"Duplicate APPLY name '{name}'"
  | columnNotProduced column =>
    s!"COLUMNS entry '{column}' must be a GROUP key or an APPLY name"
  | orderKeyNotColumn key => s!"ORDER key '{key}' must be in COLUMNS"
  | orderDirection => "ORDER dir must be 'UP' or 'DOWN'"
  | orderWithoutKeys => "ORDER must contain keys"
  | orderKeyEntry => "ORDER keys must be strings"
  | orderForm => "ORDER must be a string or an object"
  | noDataset => "Query does not reference any dataset"

/-- Why a query has no result. -/
inductive QueryError
  /-- The document breaks the grammar. -/
  | invalid (fault : QueryFault)
  /-- The one dataset it names does not exist. -/
  | unknownDataset (id : String)
  /-- It names these several datasets. -/
  | multipleDatasets (ids : List String)
  /-- It produced more rows than allowed. -/
  | resultTooLarge (rows limit : Nat)
  /-- Its rows cannot be put in order, since their comparison contradicts itself. This is no refusal:
  nobody is answered. -/
  | breakdown
deriving DecidableEq

/-- The message about a query without a result. -/
def QueryError.message : QueryError → String
  | invalid fault => s!"Invalid query: {fault.message}"
  | unknownDataset id => s!"Dataset not found: {id}"
  | multipleDatasets ids =>
    s!"Query references more than one dataset: " ++ ", ".intercalate ids
  | resultTooLarge rows limit => s!"Query produced {rows} rows, more than the maximum of {limit}"
  | breakdown => "user-provided comparison function does not correctly implement a total order"

end Campus
