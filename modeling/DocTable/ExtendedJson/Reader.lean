import DocTable.Bson.Basic
import DocTable.ExtendedJson.Error
import DocTable.ExtendedJson.Writer
import DocTable.Json.Reader
import DocTable.Time.Rfc3339

/-!
Reading extended JSON. An object is a wrapper when it has one of the wrappers' keys, wherever the
key stands; of several the one of highest priority decides, and the object must then fit that
wrapper exactly. Every other object is a document.
-/

namespace DocTable.ExtendedJson

open Json (Shape)

inductive Wrapper where
  | oid
  | symbol
  | regularExpression
  | numberInt
  | numberLong
  | numberDouble
  | numberDecimal
  | binary
  | uuid
  | code
  | timestamp
  | date
  | minKey
  | maxKey
  | dbPointer
  | undefined
  deriving DecidableEq, Repr

namespace Wrapper

def key : Wrapper → String
  | oid => "$oid"
  | symbol => "$symbol"
  | regularExpression => "$regularExpression"
  | numberInt => "$numberInt"
  | numberLong => "$numberLong"
  | numberDouble => "$numberDouble"
  | numberDecimal => "$numberDecimal"
  | binary => "$binary"
  | uuid => "$uuid"
  | code => "$code"
  | timestamp => "$timestamp"
  | date => "$date"
  | minKey => "$minKey"
  | maxKey => "$maxKey"
  | dbPointer => "$dbPointer"
  | undefined => "$undefined"

def byPriority : List Wrapper :=
  [oid, symbol, regularExpression, numberInt, numberLong, numberDouble, numberDecimal, binary, uuid,
    code, timestamp, date, minKey, maxKey, dbPointer, undefined]

def detect? (entries : List (String × Json)) : Option Wrapper :=
  byPriority.find? fun w => entries.any (·.1 == w.key)

end Wrapper

/-! ## Contents of wrappers -/

namespace Content

/-- The first byte of a text that is no hexadecimal digit, with its index. -/
def firstForeignByte? (index : Nat) : List Char → Option (UInt8 × Nat)
  | [] => none
  | c :: rest =>
    match Hex.digitValue? c with
    | some _ => firstForeignByte? (index + 1) rest
    | none => (Utf8.ofChar c).head?.map (·, index)

def objectId (text : String) : Except Error ObjectId :=
  let cs := text.toList
  let bytes := Utf8.size cs
  if bytes % 2 = 1 then .error (.objectIdLength text bytes)
  else match firstForeignByte? 0 cs with
    | some (byte, index) => .error (.objectIdDigit text byte index)
    | none =>
      match (Hex.decode? cs).bind ObjectId.ofBytes? with
      | some id => .ok id
      | none => .error (.objectIdLength text bytes)

def int32 (text : String) : Except Error Int32 :=
  match Digits.intWithin? Int32.minValue.toInt Int32.maxValue.toInt text.toList with
  | some n => .ok (Int32.ofInt n)
  | none => .error (.content text "i32 as a string")

def int64 (text : String) : Except Error Int64 :=
  match Digits.intWithin? Int64.minValue.toInt Int64.maxValue.toInt text.toList with
  | some n => .ok (Int64.ofInt n)
  | none => .error (.content text "i64 as a string")

/-- Digits with a point somewhere among or beside them, and an exponent. -/
def decimalDouble? (negative : Bool) (s : List Char) : Option Binary64 :=
  let whole := s.takeWhile Digits.isDigit
  let (fraction, s) := match s.dropWhile Digits.isDigit with
    | '.' :: s => (s.takeWhile Digits.isDigit, s.dropWhile Digits.isDigit)
    | s => ([], s)
  let exponent? : Option Int := match s with
    | [] => some 0
    | 'e' :: s | 'E' :: s => Digits.int? s
    | _ => none
  if whole.isEmpty && fraction.isEmpty then none
  else exponent?.map fun e =>
    .ofDecimal negative (Digits.value (whole ++ fraction)) (e - fraction.length)

def unsignedDouble? (negative : Bool) (s : List Char) : Option Binary64 :=
  let word := String.ofList (s.map Char.toLower)
  if word = "inf" || word = "infinity" then
    some (.ofFields negative BinaryFormat.double.infinityFields)
  else if word = "nan" then some (.ofFields negative BinaryFormat.double.quietFields)
  else decimalDouble? negative s

def doubleText? : List Char → Option Binary64
  | '-' :: s => unsignedDouble? true s
  | '+' :: s => unsignedDouble? false s
  | s => unsignedDouble? false s

/-- Hexadecimal digits in groups of 8, 4, 4, 4 and 12 with hyphens between them, or the digits
behind such groups. -/
def hyphenated? (s : List Char) : Option (List Char) :=
  match s.splitOn '-' with
  | [a, b, c, d, e] =>
    if [a, b, c, d, e].map List.length = [8, 4, 4, 4, 12] then some (a ++ b ++ c ++ d ++ e)
    else none
  | _ => none

/-- The sixteen bytes of a UUID: bare digits, or groups, which may stand in braces or behind
`urn:uuid:`. -/
def uuidBytes? (s : List Char) : Option (List UInt8) :=
  let digits? :=
    if s.length = 32 then some s
    else if s.length = 38 && s.head? = some '{' && s.getLast? = some '}' then
      hyphenated? (s.drop 1).dropLast
    else if s.length = 45 && s.take 9 = "urn:uuid:".toList then hyphenated? (s.drop 9)
    else hyphenated? s
  digits?.bind Hex.decode?

def uuid (text : String) : Except Error Bson :=
  match uuidBytes? text.toList with
  | some bytes => .ok (.binary 4 bytes)
  | none => .error (.content text
      "$uuid value does not follow RFC 4122 format regarding length and hyphens")

def binary (base64 subtype : String) : Except Error Bson := do
  let bytes ← match Base64.decode? base64.toList with
    | some bytes => pure bytes
    | none => .error (.content base64 "base64 encoded bytes")
  match Hex.decode? subtype.toList with
  | some [b] => .ok (.binary b bytes)
  | some _ => .error (.shape (.invalidValue .bytes "one byte subtype"))
  | none => .error (.content subtype "hexadecimal number as a string")

inductive DateBody where
  | millisText (text : String)
  | timeText (text : String)
  | millis (n : Int)

def dateBody : Shape DateBody
  | .string s => .ok (.timeText s)
  | .object [("$numberLong", .string s)] => .ok (.millisText s)
  | .array [.string s] => .ok (.millisText s)
  | .integer n =>
    if n ≤ Int64.maxValue.toInt then .ok (.millis n) else .error (.noVariant "DateTimeBody")
  | _ => .error (.noVariant "DateTimeBody")

def DateBody.millis64 : DateBody → Except Error Int64
  | .millisText s => int64 s
  | .timeText s =>
    match Rfc3339.millis? s.toList with
    | some n => .ok (Int64.ofInt n)
    | none => .error (.content s "rfc3339 formatted utc datetime")
  | .millis n => .ok (Int64.ofInt n)

/-- A key that stands for itself holds the number one. -/
def one (key : String) (n : Nat) : Except Error Unit :=
  if n = 1 then .ok ()
  else .error (.shape (.invalidValue (.integer n) s!"value of {key} should always be 1"))

def byte : Shape Nat := .below UInt8.size "u8"

def word32 : Shape Nat := .below UInt32.size "u32"

/-- An object, or `null` in its place. -/
def optionalMap : Shape Unit
  | .null => .ok ()
  | .object _ => .ok ()
  | v => .error (.invalidType v.found "a map")

end Content

/-! ## Wrappers and values -/

def shaped {α : Type} (r : Except Json.ShapeError α) : Except Error α := r.mapError .shape

/-- The text of a `$code` wrapper, whose `$scope` is a map or absent. -/
def codeText (entries : List (String × Json)) : Except Error String := do
  let (text, _) ← shaped
    (Shape.fields "$code" .text "$scope" Content.optionalMap (some ()) none none entries)
  pure text

def Wrapper.decode (w : Wrapper) (entries : List (String × Json)) : Except Error Bson := do
  let read {α : Type} (shape : Shape α) : Except Error α :=
    shaped (Shape.field w.key shape none entries)
  match w with
  | .oid => return .objectId (← Content.objectId (← read .text))
  | .symbol => return .symbol (← read .text)
  | .regularExpression =>
    let (pattern, options) ← read (.pair "RegexBody" "pattern" .text "options" .text)
    return .regex pattern (Bson.sortOptions options)
  | .numberInt => return .int32 (← Content.int32 (← read .text))
  | .numberLong => return .int64 (← Content.int64 (← read .text))
  | .numberDouble =>
    let text ← read .text
    match Content.doubleText? text.toList with
    | some x => return .double x
    | none => .error (.content text "bson double as string")
  | .numberDecimal =>
    let text ← read .text
    match Decimal128.ofText? text.toList with
    | some d => return .decimal128 d
    | none => .error (.content text "bson decimal128 as string")
  | .binary =>
    let (base64, subtype) ← read (.pair "BinaryBody" "base64" .text "subType" .text)
    Content.binary base64 subtype
  | .uuid => Content.uuid (← read .text)
  | .code => return .code (← codeText entries)
  | .timestamp =>
    let (time, increment) ← read (.pair "TimestampBody" "t" Content.word32 "i" Content.word32)
    return .timestamp (UInt32.ofNat time) (UInt32.ofNat increment)
  | .date => return .dateTime (← (← read Content.dateBody).millis64)
  | .minKey =>
    Content.one w.key (← read Content.byte)
    return .minKey
  | .maxKey =>
    Content.one w.key (← read Content.byte)
    return .maxKey
  | .dbPointer =>
    let (collection, id) ←
      read (.pair "DbPointerBody" "$ref" .text "$id" (.record "ObjectId" "$oid" .text))
    return .dbPointer collection (← Content.objectId id)
  | .undefined =>
    if ← read .truth then return .undefined
    else .error (.shape (.invalidValue (.bool false) "$undefined should always be true"))

def ofInteger (n : Int) : Bson :=
  if Int32.minValue.toInt ≤ n ∧ n ≤ Int32.maxValue.toInt then .int32 (Int32.ofInt n)
  else if Int64.minValue.toInt ≤ n ∧ n ≤ Int64.maxValue.toInt then .int64 (Int64.ofInt n)
  else .double (.ofRatio (n < 0) n.natAbs 1)

mutual

def toBson : Json → Except Error Bson
  | .null => .ok .null
  | .bool b => .ok (.boolean b)
  | .integer n => .ok (ofInteger n)
  | .float x => .ok (.double x)
  | .single x => .ok (.double x.widen)
  | .string s => .ok (.string s)
  | .array items => (toItems items).map .array
  | .object entries =>
    match Wrapper.detect? entries with
    | some .code => do
      let text ← codeText entries
      match ← toScope? entries with
      | some scope => .ok (.codeWithScope text scope)
      | none => .ok (.code text)
    | some w => w.decode entries
    | none => (toEntries entries).map .document

def toItems : List Json → Except Error (List Bson)
  | [] => .ok []
  | v :: rest => do
    let b ← toBson v
    let bs ← toItems rest
    .ok (b :: bs)

def toEntries : List (String × Json) → Except Error (List (String × Bson))
  | [] => .ok []
  | (key, v) :: rest => do
    let b ← toBson v
    let bs ← toEntries rest
    .ok ((key, b) :: bs)

/-- The scope that an object of code carries, whose entries are read one by one. -/
def toScope? : List (String × Json) → Except Error (Option (List (String × Bson)))
  | [] => .ok none
  | (key, .object entries) :: rest =>
    if key = "$scope" then (toEntries entries).map some else toScope? rest
  | _ :: rest => toScope? rest

end

/-- The document in a text that holds one object, which itself stands for no other value. -/
def document? (text : List Char) : Option (List (String × Bson)) :=
  match Json.parse text with
  | .ok (.object entries) => (toEntries entries).toOption
  | _ => none

end DocTable.ExtendedJson
