import DocTable.Table.Basic
import Std.Data.HashMap

/-!
Building a table from records, one at a time. A column begins with the first record that has its
key. It is padded with absent cells only when its key comes up again or the table is built, so
every column ends up with a cell for every record; of a key that is repeated within a record the
last value counts.
-/

namespace DocTable

/-- The cells of one key so far; an absent cell is one that a record lacked or gave as null. -/
structure Field where
  name : String
  nullable : Bool
  cells : Array (Option Cell)

namespace Field

def empty (name : String) : Field := ⟨name, false, #[]⟩

def cell? : Value → Option Cell
  | .null => none
  | v => some (.ofValue v)

def noteNull (f : Field) (value : Value) : Field :=
  { f with nullable := f.nullable || (cell? value).isNone }

def append (f : Field) (value : Value) : Field :=
  { f.noteNull value with cells := f.cells.push (cell? value) }

def replaceLast (f : Field) (value : Value) : Field :=
  { f.noteNull value with cells := f.cells.setIfInBounds (f.cells.size - 1) (cell? value) }

def extendTo (f : Field) (rows : Nat) : Field :=
  if f.cells.size < rows then
    { f with nullable := true, cells := f.cells ++ Array.replicate (rows - f.cells.size) none }
  else f

/-- Takes in the value of a record at a row: the place of the last cell, if this record has given
one already, and the next place otherwise. -/
def record (f : Field) (row : Nat) (value : Value) : Field :=
  if row < f.cells.size then f.replaceLast value else (f.extendTo row).append value

/-- The type that all present cells share, or text where they have none in common. -/
def type (f : Field) : FieldType :=
  match f.cells.toList.reduceOption with
  | [] => .string
  | c :: rest => if rest.all (·.type == c.type) then c.type else .string

/-- The cells as values of one type; the absent ones are kept only in a nullable column. -/
def project (nullable : Bool) (type : FieldType) (cells : List (Option Cell)) :
    Values type.Native :=
  if nullable then .nullable (cells.map fun c => c.bind (Cell.as? type))
  else .dense (cells.filterMap fun c => c.bind (Cell.as? type))

def build (f : Field) : Column :=
  ⟨f.name, f.type, f.nullable, project f.nullable f.type f.cells.toList⟩

end Field

structure TableBuilder where
  recordCount : Nat
  fields : Array Field
  index : Std.HashMap String Nat

namespace TableBuilder

def empty : TableBuilder := ⟨0, #[], ∅⟩

def place (b : TableBuilder) (key : String) : TableBuilder × Nat :=
  match b.index[key]? with
  | some i => (b, i)
  | none =>
    ({ b with fields := b.fields.push (.empty key), index := b.index.insert key b.fields.size },
      b.fields.size)

def processEntry (b : TableBuilder) (entry : String × Value) : TableBuilder :=
  let (b, i) := b.place entry.1
  { b with fields := b.fields.modify i (·.record b.recordCount entry.2) }

def process (b : TableBuilder) (record : Document) : TableBuilder :=
  let b := record.foldl processEntry b
  { b with recordCount := b.recordCount + 1 }

def pad (b : TableBuilder) : TableBuilder :=
  { b with fields := b.fields.map (·.extendTo b.recordCount) }

/-- The table so far, and the builder that is left; building changes it by padding alone. -/
def build (b : TableBuilder) : Table × TableBuilder :=
  (⟨b.pad.fields.toList.map Field.build⟩, b.pad)

end TableBuilder

def Table.ofRecords (records : List Document) : Table :=
  (records.foldl TableBuilder.process TableBuilder.empty).build.1

end DocTable
