import DocTable.Bson.Basic
import DocTable.Entries
import DocTable.Text.Utf8

/-!
The binary form of BSON, as the store sends it: a document is its length, its elements and a zero
byte; an element is a byte for its kind, a name and a body. Numbers are little-endian. Of elements
with one name the place of the first and the body of the last count.
-/

namespace DocTable.Bson.Binary

inductive Fault where
  /-- A text that is not UTF-8. -/
  | text (f : Utf8.Fault)
  /-- Bytes that are no document. -/
  | malformed
  deriving DecidableEq, Repr

def Fault.message : Fault → String
  | text f => s!"utf-8 encoding error: {f.message}"
  | malformed => "malformed value"

abbrev Reader (α : Type) := List UInt8 → Except Fault (α × List UInt8)

def take (count : Nat) : Reader (List UInt8) := fun s =>
  if s.length < count then .error .malformed else .ok (s.take count, s.drop count)

def littleEndian : List UInt8 → Nat
  | [] => 0
  | b :: rest => b.toNat + 256 * littleEndian rest

def number (width : Nat) : Reader Nat := fun s => do
  let (bytes, s) ← take width s
  .ok (littleEndian bytes, s)

def decodeText (bytes : List UInt8) : Except Fault String :=
  ((Utf8.decode bytes).map String.ofList).mapError .text

def name : Reader String := fun s =>
  match s.dropWhile (· != 0) with
  | [] => .error .malformed
  | _ :: rest => do
    let text ← decodeText (s.takeWhile (· != 0))
    .ok (text, rest)

/-- A text with its length, which counts a closing zero byte. -/
def string : Reader String := fun s => do
  let (length, s) ← number 4 s
  let (bytes, s) ← take length s
  if bytes.getLast? = some 0 then .ok (← decodeText bytes.dropLast, s) else .error .malformed

def objectId : Reader ObjectId := fun s => do
  let (bytes, s) ← take 12 s
  match ObjectId.ofBytes? bytes with
  | some id => .ok (id, s)
  | none => .error .malformed

/-- Bytes with their length and subtype; those of subtype 2 repeat their length. -/
def binary : Reader Bson := fun s => do
  let (length, s) ← number 4 s
  let (subtype, s) ← number 1 s
  let (bytes, s) ← take length s
  .ok (.binary (UInt8.ofNat subtype) (if subtype = 2 then bytes.drop 4 else bytes), s)

/-- The elements of a document between its length and its closing zero byte. -/
def enclosed (elements : Reader (List (String × Bson))) : Reader (List (String × Bson)) :=
  fun s => do
    let (_, s) ← number 4 s
    elements s

/-- The body of an element of a given kind, with a reader for the documents inside. -/
def body (document : Reader (List (String × Bson))) (kind : UInt8) : Reader Bson := fun s => do
  let read {α : Type} (reader : Reader α) (make : α → Bson) : Except Fault (Bson × List UInt8) :=
    (reader s).map fun (a, rest) => (make a, rest)
  match kind with
  | 0x01 => read (number 8) fun n => .double ⟨BitVec.ofNat _ n⟩
  | 0x02 => read string .string
  | 0x03 => read document fun es => .document (Entries.collapse es)
  | 0x04 => read document fun es => .array (es.map (·.2))
  | 0x05 => binary s
  | 0x06 => .ok (.undefined, s)
  | 0x07 => read objectId .objectId
  | 0x08 => read (number 1) fun n => .boolean (n != 0)
  | 0x09 => read (number 8) fun n => .dateTime (Int64.ofNat n)
  | 0x0A => .ok (.null, s)
  | 0x0B =>
    let (pattern, s) ← name s
    let (options, s) ← name s
    .ok (.regex pattern (sortOptions options), s)
  | 0x0C =>
    let (collection, s) ← string s
    let (id, s) ← objectId s
    .ok (.dbPointer collection id, s)
  | 0x0D => read string .code
  | 0x0E => read string .symbol
  | 0x0F =>
    let (_, s) ← number 4 s
    let (text, s) ← string s
    let (scope, s) ← document s
    .ok (.codeWithScope text (Entries.collapse scope), s)
  | 0x10 => read (number 4) fun n => .int32 (Int32.ofNat n)
  | 0x11 => read (number 8) fun n =>
    .timestamp (UInt32.ofNat (n / UInt32.size)) (UInt32.ofNat (n % UInt32.size))
  | 0x12 => read (number 8) fun n => .int64 (Int64.ofNat n)
  | 0x13 => read (number 16) fun n => .decimal128 (Decimal128.ofBits n)
  | 0x7F => .ok (.maxKey, s)
  | 0xFF => .ok (.minKey, s)
  | _ => .error .malformed

/-- Elements up to a zero byte; `fuel` bounds their number and their depth together. -/
def elements : (fuel : Nat) → Reader (List (String × Bson))
  | 0, _ => .error .malformed
  | fuel + 1, s =>
    match s with
    | [] => .error .malformed
    | kind :: s =>
      if kind = 0 then .ok ([], s)
      else do
        let (key, s) ← name s
        let (value, s) ← body (enclosed (elements fuel)) kind s
        let (rest, s) ← elements fuel s
        .ok ((key, value) :: rest, s)

def decode (bytes : List UInt8) : Except Fault (List (String × Bson)) :=
  (enclosed (elements bytes.length) bytes).map fun (es, _) => Entries.collapse es

end DocTable.Bson.Binary
