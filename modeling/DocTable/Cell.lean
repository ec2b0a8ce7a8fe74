import DocTable.Text.Base64
import DocTable.Value.Bson

/-!
Cells: what a table stores of a value. A cell has one of thirteen types and a native value of that
type; each integer and float width is a type of its own. What has no type of its own is stored as
text, and every cell has a text for the columns whose types clash.
-/

namespace DocTable

inductive FieldType where
  | bool
  | int8
  | int16
  | int32
  | int64
  | uint8
  | uint16
  | uint32
  | uint64
  | float32
  | float64
  | string
  | time
  deriving DecidableEq, Repr

namespace FieldType

def name : FieldType → String
  | bool => "bool"
  | int8 => "int8"
  | int16 => "int16"
  | int32 => "int32"
  | int64 => "int64"
  | uint8 => "uint8"
  | uint16 => "uint16"
  | uint32 => "uint32"
  | uint64 => "uint64"
  | float32 => "float32"
  | float64 => "float64"
  | string => "string"
  | time => "time"

@[reducible] def Native : FieldType → Type
  | bool => Bool
  | int8 => Int8
  | int16 => Int16
  | int32 => Int32
  | int64 => Int64
  | uint8 => UInt8
  | uint16 => UInt16
  | uint32 => UInt32
  | uint64 => UInt64
  | float32 => Binary32
  | float64 => Binary64
  | string => String
  | time => Instant

instance decEqNative : (type : FieldType) → DecidableEq type.Native
  | bool => inferInstanceAs (DecidableEq Bool)
  | int8 => inferInstanceAs (DecidableEq Int8)
  | int16 => inferInstanceAs (DecidableEq Int16)
  | int32 => inferInstanceAs (DecidableEq Int32)
  | int64 => inferInstanceAs (DecidableEq Int64)
  | uint8 => inferInstanceAs (DecidableEq UInt8)
  | uint16 => inferInstanceAs (DecidableEq UInt16)
  | uint32 => inferInstanceAs (DecidableEq UInt32)
  | uint64 => inferInstanceAs (DecidableEq UInt64)
  | float32 => inferInstanceAs (DecidableEq Binary32)
  | float64 => inferInstanceAs (DecidableEq Binary64)
  | string => inferInstanceAs (DecidableEq String)
  | time => inferInstanceAs (DecidableEq Instant)

def text : (type : FieldType) → type.Native → String
  | bool, b => if b then "true" else "false"
  | int8, n => String.ofList (Digits.ofInt n.toInt)
  | int16, n => String.ofList (Digits.ofInt n.toInt)
  | int32, n => String.ofList (Digits.ofInt n.toInt)
  | int64, n => String.ofList (Digits.ofInt n.toInt)
  | uint8, n => String.ofList (Digits.ofInt n.toNat)
  | uint16, n => String.ofList (Digits.ofInt n.toNat)
  | uint32, n => String.ofList (Digits.ofInt n.toNat)
  | uint64, n => String.ofList (Digits.ofInt n.toNat)
  | float32, x => String.ofList (BinaryFloat.plainText x)
  | float64, x => String.ofList (BinaryFloat.plainText x)
  | string, s => s
  | time, t => String.ofList (TimeText.render .fixed t.millis)

end FieldType

structure Cell where
  type : FieldType
  value : type.Native

namespace Cell

def text (c : Cell) : String := c.type.text c.value

/-- The cell's value as one of a column's type: natively, or as text in a column of texts. -/
def as? (type : FieldType) (c : Cell) : Option type.Native :=
  if h : c.type = type then some (h ▸ c.value)
  else match type with
    | .string => some c.text
    | _ => none

def string (s : String) : Cell := ⟨.string, s⟩

/-- The cell of a value. Texts, truth values, numbers and instants keep their type; all else is
written as the shell shows it, or as relaxed extended JSON where it has parts. -/
def ofValue : Value → Cell
  | .bool b => ⟨.bool, b⟩
  | .int8 n => ⟨.int8, n⟩
  | .int16 n => ⟨.int16, n⟩
  | .int32 n => ⟨.int32, n⟩
  | .int64 n => ⟨.int64, n⟩
  | .uint8 n => ⟨.uint8, n⟩
  | .uint16 n => ⟨.uint16, n⟩
  | .uint32 n => ⟨.uint32, n⟩
  | .uint64 n => ⟨.uint64, n⟩
  | .float32 x => ⟨.float32, x⟩
  | .float64 x => ⟨.float64, x⟩
  | .string s => string s
  | .dateTime t => ⟨.time, t⟩
  | .null => string "null"
  | .undefined => string "undefined"
  | .objectId id => string s!"ObjectId(\"{id.hex}\")"
  | .decimal d => string (String.ofList d.text)
  | .regex pattern options => string s!"/{pattern}/{options}"
  | .binary subtype bytes =>
    string s!"BinData({subtype.toNat}, \"{String.ofList (Base64.encode bytes)}\")"
  | .dbPointer db target => string s!"DBPointer(\"{db}\", {(ofValue target).text})"
  | .document entries => string (Value.document entries).relaxedText
  | .map entries => string (Value.map entries).relaxedText
  | .array items => string (Value.array items).relaxedText

end Cell

end DocTable
