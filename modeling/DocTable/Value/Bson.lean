import DocTable.ExtendedJson.Writer
import DocTable.Value.Basic

/-!
Values and BSON. A value is read off BSON kind by kind; the kinds that only the store uses, and
dates out of reach, become the text of their relaxed extended JSON. Sent to the store, integers
take the narrowest signed kind that holds their width, a map becomes a document, and a pointer
becomes the document that stands for it. In a document the place of the first entry with a key and
the value of the last one count.
-/

namespace DocTable

namespace Value

mutual

def ofBson : Bson → Value
  | .null => .null
  | .undefined => .undefined
  | .boolean b => .bool b
  | .int32 n => .int32 n
  | .int64 n => .int64 n
  | .double x => .float64 x
  | .string s => .string s
  | .decimal128 d => .decimal d
  | .objectId id => .objectId id
  | .regex pattern options => .regex pattern options
  | .binary subtype bytes => .binary subtype bytes
  | .array items => .array (ofItems items)
  | .document entries => .document (ofBsonEntries entries)
  | .dateTime millis =>
    match Instant.ofMillis? millis.toInt with
    | some t => .dateTime t
    | none => .string (ExtendedJson.relaxedText (.dateTime millis))
  | .dbPointer collection id => .dbPointer collection (.objectId id)
  | .code text => .string (ExtendedJson.relaxedText (.code text))
  | .codeWithScope text scope => .string (ExtendedJson.relaxedText (.codeWithScope text scope))
  | .symbol s => .string (ExtendedJson.relaxedText (.symbol s))
  | .timestamp time increment => .string (ExtendedJson.relaxedText (.timestamp time increment))
  | .minKey => .string (ExtendedJson.relaxedText .minKey)
  | .maxKey => .string (ExtendedJson.relaxedText .maxKey)

def ofItems : List Bson → List Value
  | [] => []
  | v :: rest => ofBson v :: ofItems rest

def ofBsonEntries : List (String × Bson) → List (String × Value)
  | [] => []
  | (key, v) :: rest => (key, ofBson v) :: ofBsonEntries rest

end

mutual

def toBson : Value → Bson
  | .null => .null
  | .undefined => .undefined
  | .bool b => .boolean b
  | .int8 n => .int32 (Int32.ofInt n.toInt)
  | .int16 n => .int32 (Int32.ofInt n.toInt)
  | .int32 n => .int32 n
  | .int64 n => .int64 n
  | .uint8 n => .int32 (Int32.ofNat n.toNat)
  | .uint16 n => .int32 (Int32.ofNat n.toNat)
  | .uint32 n => .int64 (Int64.ofNat n.toNat)
  | .uint64 n =>
    if n.toNat ≤ Int64.maxValue.toInt then .int64 (Int64.ofNat n.toNat)
    else .double (.ofRatio false n.toNat 1)
  | .float32 x => .double x.widen
  | .float64 x => .double x
  | .string s => .string s
  | .dateTime t => .dateTime (Int64.ofInt t.millis)
  | .decimal d => .decimal128 d
  | .binary subtype bytes => .binary subtype bytes
  | .regex pattern options => .regex pattern options
  | .objectId id => .objectId id
  | .dbPointer db target => .document [("$ref", .string db), ("$id", toBson target)]
  | .document entries => .document (Entries.collapse (toBsonEntries entries))
  | .map entries => .document (Entries.collapse (toBsonEntries entries))
  | .array items => .array (toItems items)

def toItems : List Value → List Bson
  | [] => []
  | v :: rest => toBson v :: toItems rest

def toBsonEntries : List (String × Value) → List (String × Bson)
  | [] => []
  | (key, v) :: rest => (key, toBson v) :: toBsonEntries rest

end

def relaxedText (v : Value) : String := ExtendedJson.relaxedText v.toBson

end Value

def Document.ofBson (entries : List (String × Bson)) : Document := Value.ofBsonEntries entries

def Document.toBson (d : Document) : List (String × Bson) :=
  Entries.collapse (Value.toBsonEntries d)

end DocTable
