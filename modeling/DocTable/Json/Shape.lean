import DocTable.Json.Writer
import DocTable.Text.Quoted

/-!
Reading data of a known shape out of JSON: texts, numbers within bounds, and records, which may be
written as objects or as arrays of their fields in order. A record refuses fields that it does not
know, and the first fault in reading order is reported.
-/

namespace DocTable.Json

inductive Found where
  | null
  | bool (b : Bool)
  | integer (n : Int)
  | float (x : Binary64)
  | string (s : String)
  | sequence
  | map
  | bytes

def Found.describe : Found → String
  | null => "null"
  | bool b => s!"boolean `{b}`"
  | integer n => s!"integer `{n}`"
  | float x => s!"floating point `{String.ofList (floatText x)}`"
  | string s => s!"string {Text.Quoted.encode s}"
  | sequence => "sequence"
  | map => "map"
  | bytes => "byte array"

def found : Json → Found
  | .null => .null
  | .bool b => .bool b
  | .integer n => .integer n
  | .float x => .float x
  | .single x => .float x.widen
  | .string s => .string s
  | .array _ => .sequence
  | .object _ => .map

inductive ShapeError where
  | invalidType (found : Found) (expected : String)
  | invalidValue (found : Found) (expected : String)
  | invalidLength (length : Nat) (expected : String)
  | unknownField (name : String) (known : List String)
  | missingField (name : String)
  | duplicateField (name : String)
  | noVariant (name : String)

def ShapeError.message : ShapeError → String
  | invalidType found expected => s!"invalid type: {found.describe}, expected {expected}"
  | invalidValue found expected => s!"invalid value: {found.describe}, expected {expected}"
  | invalidLength length expected => s!"invalid length {length}, expected {expected}"
  | unknownField name known =>
    let choices := " or ".intercalate (known.map fun k => s!"`{k}`")
    s!"unknown field `{name}`, expected {choices}"
  | missingField name => s!"missing field `{name}`"
  | duplicateField name => s!"duplicate field `{name}`"
  | noVariant name => s!"data did not match any variant of untagged enum {name}"

abbrev Shape (α : Type) := Json → Except ShapeError α

namespace Shape

variable {α β : Type}

def text : Shape String
  | .string s => .ok s
  | v => .error (.invalidType v.found "a string")

def truth : Shape Bool
  | .bool b => .ok b
  | v => .error (.invalidType v.found "a boolean")

/-- A natural number below a bound, for which `name` stands in messages. -/
def below (bound : Nat) (name : String) : Shape Nat
  | .integer n =>
    if 0 ≤ n ∧ n < bound then .ok n.toNat else .error (.invalidValue (.integer n) name)
  | v => .error (.invalidType v.found name)

def field (name : String) (shape : Shape α) :
    Option α → List (String × Json) → Except ShapeError α
  | some a, [] => .ok a
  | none, [] => .error (.missingField name)
  | _, (key, v) :: rest =>
    if key = name then do
      let a ← shape v
      field name shape (some a) rest
    else .error (.unknownField key [name])

/-- The fields of a record with two fields; an optional second one that is absent has the value
`absent`. -/
def fields (first : String) (shape₁ : Shape α) (second : String) (shape₂ : Shape β)
    (absent : Option β) : Option α → Option β → List (String × Json) → Except ShapeError (α × β)
  | none, _, [] => .error (.missingField first)
  | some a, b, [] =>
    match b.or absent with
    | some b => .ok (a, b)
    | none => .error (.missingField second)
  | a, b, (key, v) :: rest =>
    if key = first then do
      let a ← shape₁ v
      fields first shape₁ second shape₂ absent (some a) b rest
    else if key = second then do
      let b ← shape₂ v
      fields first shape₁ second shape₂ absent a (some b) rest
    else .error (.unknownField key [first, second])

def record (type name : String) (shape : Shape α) : Shape α
  | .object entries => field name shape none entries
  | .array [] => .error (.invalidLength 0 s!"struct {type} with 1 element")
  | .array (v :: rest) => do
    let a ← shape v
    if rest.isEmpty then .ok a
    else .error (.invalidLength (rest.length + 1) "fewer elements in array")
  | v => .error (.invalidType v.found s!"struct {type}")

def pair (type first : String) (shape₁ : Shape α) (second : String) (shape₂ : Shape β) :
    Shape (α × β)
  | .object entries => fields first shape₁ second shape₂ none none none entries
  | .array [] => .error (.invalidLength 0 s!"struct {type} with 2 elements")
  | .array [v] => do
    let _ ← shape₁ v
    .error (.invalidLength 1 s!"struct {type} with 2 elements")
  | .array (v :: w :: rest) => do
    let a ← shape₁ v
    let b ← shape₂ w
    if rest.isEmpty then .ok (a, b)
    else .error (.invalidLength (rest.length + 2) "fewer elements in array")
  | v => .error (.invalidType v.found s!"struct {type}")

end Shape

end DocTable.Json
