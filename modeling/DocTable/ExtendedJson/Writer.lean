import DocTable.Bson.Basic
import DocTable.Json.Writer
import DocTable.Text.Base64
import DocTable.Time.Instant

/-!
Extended JSON of BSON values: kinds that JSON lacks become wrapper objects. The relaxed form writes
numbers and common dates plainly; the canonical form keeps every kind apart; the form embedded in
the scope of code writes what is not finite as `null`, dates by their milliseconds, and bytes of no
particular kind as an array of numbers.
-/

namespace DocTable.ExtendedJson

inductive Form where
  | relaxed
  | canonical
  | embedded
  deriving DecidableEq

def wrap (key : String) (body : Json) : Json := .object [(key, body)]

def wrapText (key : String) (text : List Char) : Json := wrap key (.string (String.ofList text))

/-- The canonical text of a double: plain, with a point. -/
def canonicalDouble : Layout := ⟨fun _ => true, true, .away⟩

def nonFiniteText (x : Binary64) : String :=
  let word := if x.magnitude = .infinite then "Infinity" else "NaN"
  if x.isNegative then "-" ++ word else word

/-- Canonically a double without a leading one stays a plain number. -/
def double (form : Form) (x : Binary64) : Json :=
  if !x.isFinite then
    if form = .embedded then .null else wrap "$numberDouble" (.string (nonFiniteText x))
  else if form = .canonical && (x.isNormal || x.isZero) then
    wrapText "$numberDouble" ((canonicalDouble.render? x).getD [])
  else .float x

/-- The last millisecond of the year 9999. -/
def greatestPlainDate : Int := 253402300799999

def dateTime (form : Form) (millis : Int) : Json :=
  wrap "$date" <|
    if form = .relaxed && 0 ≤ millis && millis ≤ greatestPlainDate then
      .string (String.ofList (TimeText.render .trimmed millis))
    else wrapText "$numberLong" (Digits.ofInt millis)

def subtypeText (subtype : UInt8) : String := String.ofList (Hex.ofByte subtype)

/-- Embedded bytes of the general subtype, zero, are an array of their values. -/
def binary (form : Form) (subtype : UInt8) (bytes : List UInt8) : Json :=
  if form = .embedded && subtype = 0 then .array (bytes.map fun b => .integer b.toNat)
  else wrap "$binary" (.object [("base64", .string (String.ofList (Base64.encode bytes))),
    ("subType", .string (subtypeText subtype))])

mutual

def ofBson (form : Form) : Bson → Json
  | .null => .null
  | .undefined => wrap "$undefined" (.bool true)
  | .boolean b => .bool b
  | .int32 n =>
    if form = .canonical then wrapText "$numberInt" (Digits.ofInt n.toInt) else .integer n.toInt
  | .int64 n =>
    if form = .canonical then wrapText "$numberLong" (Digits.ofInt n.toInt) else .integer n.toInt
  | .double x => double form x
  | .decimal128 d => wrapText "$numberDecimal" d.text
  | .string s => .string s
  | .dateTime millis => dateTime form millis.toInt
  | .binary subtype bytes => binary form subtype bytes
  | .regex pattern options =>
    wrap "$regularExpression" (.object [("pattern", .string pattern),
      ("options", .string (Bson.sortOptions options))])
  | .objectId id => wrap "$oid" (.string id.hex)
  | .dbPointer collection id =>
    wrap "$dbPointer" (.object [("$ref", .string collection),
      ("$id", wrap "$oid" (.string id.hex))])
  | .code text => wrap "$code" (.string text)
  | .codeWithScope text scope =>
    .object [("$code", .string text),
      ("$scope", .object (ofEntries (if form = .canonical then .canonical else .embedded) scope))]
  | .symbol s => wrap "$symbol" (.string s)
  | .timestamp time increment =>
    wrap "$timestamp" (.object [("t", .integer time.toNat), ("i", .integer increment.toNat)])
  | .minKey => wrap "$minKey" (.integer 1)
  | .maxKey => wrap "$maxKey" (.integer 1)
  | .array items => .array (ofItems form items)
  | .document entries => .object (ofEntries form entries)

def ofItems (form : Form) : List Bson → List Json
  | [] => []
  | v :: rest => ofBson form v :: ofItems form rest

def ofEntries (form : Form) : List (String × Bson) → List (String × Json)
  | [] => []
  | (key, v) :: rest => (key, ofBson form v) :: ofEntries form rest

end

def relaxedText (v : Bson) : String := (ofBson .relaxed v).compactText

def canonicalText (v : Bson) : String := (ofBson .canonical v).compactText

end DocTable.ExtendedJson
