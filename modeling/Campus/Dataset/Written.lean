import Campus.Dataset.Basic
import Campus.Json.Fields
import Campus.Json.Printer
/-!
# The written form of datasets

A number without a fractional part and below nine quadrillion in absolute value is written as an
integer, so `1900` stays `1900`; other numbers are written with their fewest digits. A dataset is
written as one object of its id, kind, announced size and records, and read back from that object or
from an array of the four in this order.
-/

namespace Campus

namespace Scalar

/-- Integral numbers below this bound are written as integers. -/
def integerBound : Binary64 := .ofNat 9000000000000000

/-- The written form of a value. -/
def toJson : Scalar → Json
  | number value =>
    if value.isIntegral && value.abs.less integerBound then .number (.integer value.truncate)
    else .number (.real value)
  | text value => .text value

/-- The value of a written form: any number or any text. -/
def ofJson? : Json → Option Scalar
  | .number value => some (.number value.toBinary64)
  | .text value => some (.text value)
  | _ => none

/-- The value of a written form as it stands in JSON text. -/
def ofSource? : Json.Source → Option Scalar
  | .number (some value) => some (.number value.toBinary64)
  | .text (some value) => some (.text value)
  | _ => none

end Scalar

namespace Record

/-- The written form of a record. -/
def toJson (record : Record) : Json :=
  .object (record.entries.map fun entry => (entry.1, entry.2.toJson))

/-- The record of a written form; the last of equal keys counts. -/
def ofSource? : Json.Source → Option Record
  | .object members =>
    (members.mapM fun (member : Option String × Json.Source) => do
      let key ← member.1
      let value ← Scalar.ofSource? member.2
      return (key, value)).map Keyed.ofList
  | _ => none

end Record

namespace DatasetKind

/-- The kind of a written form: its name, or the name as the only key of an object over null. -/
def ofSource? : Json.Source → Option DatasetKind
  | .text label => label.bind ofLabel?
  | .object [(label, .null)] => label.bind ofLabel?
  | _ => none

end DatasetKind

/-- The written form of a listing entry. -/
def DatasetSummary.toJson (summary : DatasetSummary) : Json :=
  .object
    [("id", .text summary.id), ("kind", .text summary.kind.label),
      ("numRows", .ofNat summary.numRows)]

namespace Dataset

/-- The written form of a dataset. -/
def toJson (d : Dataset) : Json :=
  .object
    [("id", .text d.id), ("kind", .text d.kind.label), ("numRows", .ofNat d.numRows),
      ("data", .array (d.data.map Record.toJson))]

/-- The text a dataset is stored as. -/
def render (d : Dataset) : String := d.toJson.render

/-- The dataset of a written form. -/
def ofSource? (source : Json.Source) : Option Dataset := do
  let fields ← source.fields? ["id", "kind", "numRows", "data"]
  let id ← fields.required "id" Json.Source.text?
  let kind ← fields.required "kind" DatasetKind.ofSource?
  let numRows ← fields.required "numRows" (Json.Source.natBelow? 0x10000000000000000)
  let data ← fields.required "data" fun source => (source.items).bind fun items =>
    items.mapM Record.ofSource?
  return ⟨id, kind, numRows, data⟩

/-- The dataset that stored bytes spell. -/
def parse? (bytes : List UInt8) : Option Dataset := (Json.Source.parse? bytes).bind ofSource?

end Dataset
end Campus
