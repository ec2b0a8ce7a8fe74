import DocTable.Json.Writer
import DocTable.Table.Basic

/-!
Frames: tables in the form in which a dashboard takes them, a field for each column. Times are kept
in nanoseconds of 64 bits, so a time out of their reach is null, in a field that is not nullable
too. In the text of a frame, numbers that are not finite are null and listed by kind and row beside
the data.
-/

namespace DocTable

/-- A field's cells are native values of its type; an absent one is null. -/
structure FrameField where
  name : String
  type : FieldType
  nullable : Bool
  cells : List (Option type.Native)

structure Frame where
  name : String
  fields : List FrameField

inductive FrameError where
  | lengthsDiffer
  deriving DecidableEq, Repr

def FrameError.message : FrameError → String
  | lengthsDiffer => "fields of different lengths"

namespace FieldType

/-- The time has a count of nanoseconds that 64 bits hold. -/
def hasNanos (t : Instant) : Bool :=
  Int64.minValue.toInt ≤ t.millis * 1000000 && t.millis * 1000000 ≤ Int64.maxValue.toInt

def keep : (type : FieldType) → type.Native → Option type.Native
  | .time, t => if hasNanos t then some t else none
  | _, v => some v

def schemaKind : FieldType → String
  | .bool => "boolean"
  | .string => "string"
  | .time => "time"
  | _ => "number"

def schemaType : FieldType → String
  | .time => "time.Time"
  | type => type.name

def arrayType : FieldType → String
  | .bool => "Boolean"
  | .int8 => "Int8"
  | .int16 => "Int16"
  | .int32 => "Int32"
  | .int64 => "Int64"
  | .uint8 => "UInt8"
  | .uint16 => "UInt16"
  | .uint32 => "UInt32"
  | .uint64 => "UInt64"
  | .float32 => "Float32"
  | .float64 => "Float64"
  | .string => "Utf8"
  | .time => "Timestamp(Nanosecond, None)"

/-- A value in a frame's data: times as their milliseconds, all else as in JSON. -/
def frameJson : (type : FieldType) → type.Native → Json
  | .bool, b => .bool b
  | .int8, n => .integer n.toInt
  | .int16, n => .integer n.toInt
  | .int32, n => .integer n.toInt
  | .int64, n => .integer n.toInt
  | .uint8, n => .integer n.toNat
  | .uint16, n => .integer n.toNat
  | .uint32, n => .integer n.toNat
  | .uint64, n => .integer n.toNat
  | .float32, x => if x.isFinite then .single x else .null
  | .float64, x => if x.isFinite then .float x else .null
  | .string, s => .string s
  | .time, t => .integer t.millis

end FieldType

inductive NonFinite where
  | notANumber
  | positive
  | negative
  deriving DecidableEq, Repr

namespace NonFinite

def name : NonFinite → String
  | notANumber => "NaN"
  | positive => "Inf"
  | negative => "NegInf"

def all : List NonFinite := [notANumber, positive, negative]

def ofFloat? {format : BinaryFormat} (x : BinaryFloat format) : Option NonFinite :=
  match x.magnitude with
  | .finite .. => none
  | .notANumber => some notANumber
  | .infinite => some (if x.isNegative then negative else positive)

def ofNative? : (type : FieldType) → type.Native → Option NonFinite
  | .float32, x => ofFloat? x
  | .float64, x => ofFloat? x
  | _, _ => none

end NonFinite

namespace FrameField

def ofColumn (c : Column) : FrameField :=
  ⟨c.name, c.type, c.nullable, c.values.toList.map fun cell => cell.bind c.type.keep⟩

def nullCount (f : FrameField) : Nat := f.cells.countP Option.isNone

def rowsOf (f : FrameField) (kind : NonFinite) : List Nat :=
  f.cells.zipIdx.filterMap fun (cell, row) =>
    if cell.bind (NonFinite.ofNative? f.type) = some kind then some row else none

def schemaJson (f : FrameField) : Json :=
  .object [("name", .string f.name), ("labels", .object []), ("type", .string f.type.schemaKind),
    ("typeInfo", .object [("frame", .string f.type.schemaType), ("nullable", .bool f.nullable)])]

def cellJson (f : FrameField) (cell : Option f.type.Native) : Json :=
  (cell.map f.type.frameJson).getD .null

def dataJson (f : FrameField) : Json := .array (f.cells.map f.cellJson)

def entities (f : FrameField) : List (String × Json) :=
  NonFinite.all.filterMap fun kind =>
    match f.rowsOf kind with
    | [] => none
    | rows => some (kind.name, .array (rows.map fun (row : Nat) => .integer row))

def entitiesJson (f : FrameField) : Json :=
  match f.entities with
  | [] => .null
  | entries => .object entries

end FrameField

namespace Frame

def ofTable (t : Table) : Frame := ⟨"response", t.columns.map FrameField.ofColumn⟩

/-- All fields must have as many cells as the first one. -/
def check (frame : Frame) : Except FrameError Frame :=
  match frame.fields with
  | [] => .ok frame
  | f :: rest =>
    if rest.all (·.cells.length == f.cells.length) then .ok frame else .error .lengthsDiffer

def toJson (frame : Frame) : Json :=
  let schema := Json.object [("name", .string frame.name), ("meta", .null),
    ("fields", .array (frame.fields.map FrameField.schemaJson))]
  let values : String × Json := ("values", .array (frame.fields.map FrameField.dataJson))
  let data :=
    if frame.fields.all (·.entities.isEmpty) then [values]
    else [values, ("entities", .array (frame.fields.map FrameField.entitiesJson))]
  .object [("schema", schema), ("data", .object data)]

end Frame

end DocTable
