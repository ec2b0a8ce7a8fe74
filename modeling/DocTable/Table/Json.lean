import DocTable.Json.Writer
import DocTable.Table.Basic

/-!
Tables as JSON: an object whose columns carry their name, type, flag and values. An absent cell is
`null`, a time is its text.
-/

namespace DocTable

def FieldType.toJson : (type : FieldType) → type.Native → Json
  | .bool, b => .bool b
  | .int8, n => .integer n.toInt
  | .int16, n => .integer n.toInt
  | .int32, n => .integer n.toInt
  | .int64, n => .integer n.toInt
  | .uint8, n => .integer n.toNat
  | .uint16, n => .integer n.toNat
  | .uint32, n => .integer n.toNat
  | .uint64, n => .integer n.toNat
  | .float32, x => .single x
  | .float64, x => .float x
  | .string, s => .string s
  | .time, t => .string (String.ofList (TimeText.render .wholeOmitted t.millis))

def Column.toJson (c : Column) : Json :=
  let cell (v : Option c.type.Native) : Json := (v.map c.type.toJson).getD .null
  .object [("name", .string c.name), ("type", .string c.type.name), ("nullable", .bool c.nullable),
    ("values", .array (c.values.toList.map cell))]

def Table.toJson (t : Table) : Json := .object [("columns", .array (t.columns.map Column.toJson))]

end DocTable
