import DocTable.Entries
import DocTable.Number.Binary
import DocTable.Number.Decimal128
import DocTable.ObjectId
import DocTable.Time.Instant

/-!
Values of documents and of query arguments. Integer and float widths are kinds of their own, so
that a column can be typed without widening. A document is an ordered list of entries in which a
key may come up more than once.
-/

namespace DocTable

inductive Value where
  | null
  | undefined
  | bool (b : Bool)
  | int8 (n : Int8)
  | int16 (n : Int16)
  | int32 (n : Int32)
  | int64 (n : Int64)
  | uint8 (n : UInt8)
  | uint16 (n : UInt16)
  | uint32 (n : UInt32)
  | uint64 (n : UInt64)
  | float32 (x : Binary32)
  | float64 (x : Binary64)
  | string (s : String)
  | dateTime (t : Instant)
  | decimal (d : Decimal128)
  | binary (subtype : UInt8) (bytes : List UInt8)
  | regex (pattern options : String)
  | objectId (id : ObjectId)
  /-- A pointer into a collection, here without the restriction that its target be an identifier. -/
  | dbPointer (db : String) (target : Value)
  | document (entries : List (String × Value))
  /-- Entries without an order of their own; they are kept in the order of their keys. -/
  | map (entries : List (String × Value))
  | array (items : List Value)

/-- An ordered document. Keys may repeat, and a look-up finds the first entry. -/
abbrev Document := List (String × Value)

namespace Document

def push (d : Document) (key : String) (value : Value) : Document := d ++ [(key, value)]

def get? (d : Document) (key : String) : Option Value := Entries.get? d key

end Document

namespace Value

/-- The map with the given entries, of which later ones replace earlier ones with the same key. -/
def ofEntries (entries : List (String × Value)) : Value :=
  .map (Entries.sorted (Entries.collapse entries))

def kind : Value → String
  | null => "null"
  | undefined => "undefined"
  | bool _ => "bool"
  | int8 _ => "int8"
  | int16 _ => "int16"
  | int32 _ => "int32"
  | int64 _ => "int64"
  | uint8 _ => "uint8"
  | uint16 _ => "uint16"
  | uint32 _ => "uint32"
  | uint64 _ => "uint64"
  | float32 _ => "float32"
  | float64 _ => "float64"
  | string _ => "string"
  | dateTime _ => "datetime"
  | decimal _ => "decimal"
  | binary .. => "binary"
  | regex .. => "regex"
  | objectId _ => "objectId"
  | dbPointer .. => "dbPointer"
  | document _ => "document"
  | map _ => "map"
  | array _ => "array"

def string? : Value → Option String
  | string s => some s
  | _ => none

def document? : Value → Option Document
  | document entries => some entries
  | _ => none

def array? : Value → Option (List Value)
  | array items => some items
  | _ => none

end Value

end DocTable
