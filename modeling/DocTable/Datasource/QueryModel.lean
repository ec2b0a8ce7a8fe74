import DocTable.Json.Shape
import DocTable.Json.Skip

/-!
The query model that a dashboard sends: a JSON object with the text of the query and the format in
which the dashboard shows the answer, or an array of the two. It is read in one pass over its text,
so a field of the wrong kind is reported with its place in the text.
-/

namespace DocTable

structure QueryModel where
  queryText : String
  /-- A hint for the dashboard; the answer does not depend on it. -/
  format : String
  deriving DecidableEq, Repr

namespace QueryModel

inductive Problem where
  | json (c : Json.Cause)
  | shape (e : Json.ShapeError)

def Problem.message : Problem → String
  | json c => c.message
  | shape e => e.message

/-- A problem, the text that was left, and how many bytes of that text belong to the place. -/
structure Failure where
  problem : Problem
  rest : List Char
  bytes : Nat

structure Error where
  problem : Problem
  position : Json.Position

def Error.message (e : Error) : String := s!"{e.problem.message} at {e.position.render}"

abbrev Reader (α : Type) := List Char → Except Failure (α × List Char)

namespace Reader

open Json.Reader (skipSpace)

variable {α : Type}

def json (reader : Json.Reader α) : Reader α := fun s =>
  (reader s).mapError fun f => ⟨.json f.cause, f.rest, f.bytes⟩

def failAt (cause : Json.Cause) (rest : List Char) : Except Failure α :=
  .error ⟨.json cause, rest, 0⟩

def failOn (cause : Json.Cause) (rest : List Char) : Except Failure α :=
  .error ⟨.json cause, rest, 1⟩

/-- Refuses the value at the front of a text, whose kind is not the expected one. The place is
behind a value without parts, and in front of one with parts. -/
def refuse (expected : String) (s : List Char) : Except Failure α :=
  let fail (found : Json.Found) (rest : List Char) : Except Failure α :=
    .error ⟨.shape (.invalidType found expected), rest, 0⟩
  match s with
  | '[' :: _ => fail .sequence s
  | '{' :: _ => fail .map s
  | _ => do
    let (v, rest) ← json (Json.Reader.value 0) s
    fail v.found rest

def text : Reader String := fun s =>
  match skipSpace s with
  | [] => failAt .endOfValue []
  | '"' :: rest => json Json.Reader.string rest
  | rest => refuse "a string" rest

/-- The next item of an array, if there is one; the closing bracket is left. -/
def item? (isFirst : Bool) : Reader (Option String) := fun s =>
  match skipSpace s with
  | [] => failAt .endOfArray []
  | ']' :: rest => .ok (none, ']' :: rest)
  | rest =>
    if isFirst then (text rest).map fun (t, rest) => (some t, rest)
    else match rest with
      | ',' :: rest =>
        match skipSpace rest with
        | [] => failAt .endOfValue []
        | ']' :: rest => failOn .trailingComma (']' :: rest)
        | rest => (text rest).map fun (t, rest) => (some t, rest)
      | rest => failOn .expectedArrayCommaOrEnd rest

def endArray : Reader Unit := fun s =>
  match skipSpace s with
  | [] => failAt .endOfArray []
  | ']' :: rest => .ok ((), rest)
  | ',' :: rest =>
    match skipSpace rest with
    | ']' :: rest => failOn .trailingComma (']' :: rest)
    | rest => failOn .trailingCharacters rest
  | rest => failOn .trailingCharacters rest

def array : Reader QueryModel := fun s => do
  let (queryText, s) ← item? true s
  let (format, s) ← item? queryText.isNone s
  let (_, s) ← endArray s
  .ok (⟨queryText.getD "", format.getD ""⟩, s)

/-- Behind a field that was given before: the place is that of the next token, or behind the closing
brace. -/
def duplicate (name : String) (rest : List Char) : Except Failure α :=
  let rest := match skipSpace rest with
    | '}' :: rest => rest
    | rest => rest
  .error ⟨.shape (.duplicateField name), rest, 0⟩

def field (name : String) (known : Option String) : Reader String := fun s =>
  if known.isSome then duplicate name s
  else do
    let (_, s) ← json Json.Reader.colon s
    text s

/-- The fields of an object from a name on; `fuel` bounds their number. -/
def fieldsFrom : (fuel : Nat) → (queryText format : Option String) → Reader QueryModel
  | 0, _, _, s => failAt .endOfObject s
  | fuel + 1, queryText, format, s => do
    let '"' :: s := s | failOn .nameNotString s
    let (name, s) ← json Json.Reader.string s
    let (queryText, format, s) ←
      if name = "queryText" then (field name queryText s).map fun (t, s) => (some t, format, s)
      else if name = "format" then (field name format s).map fun (t, s) => (queryText, some t, s)
      else do
        let (_, s) ← json Json.Reader.colon s
        let (_, s) ← json Json.Reader.skipValue s
        .ok (queryText, format, s)
    match skipSpace s with
    | [] => failAt .endOfObject []
    | '}' :: s => .ok (⟨queryText.getD "", format.getD ""⟩, s)
    | ',' :: s =>
      match skipSpace s with
      | [] => failAt .endOfValue []
      | '}' :: s => failOn .trailingComma ('}' :: s)
      | s => fieldsFrom fuel queryText format s
    | s => failOn .expectedObjectCommaOrEnd s

def object : Reader QueryModel := fun s =>
  match skipSpace s with
  | [] => failAt .endOfObject []
  | '}' :: s => .ok (⟨"", ""⟩, s)
  | s => fieldsFrom (s.length + 1) none none s

def model : Reader QueryModel := fun s =>
  match skipSpace s with
  | [] => failAt .endOfValue []
  | '[' :: s => array s
  | '{' :: s => object s
  | s => refuse "struct MongoQuery" s

end Reader

def parse (text : List Char) : Except Error QueryModel :=
  let result := do
    let (m, rest) ← Reader.model text
    let (_, _) ← Reader.json (fun s => (Json.Reader.finish s).map fun _ => ((), [])) rest
    pure m
  result.mapError fun f =>
    ⟨f.problem, .after (Utf8.size text - Utf8.size f.rest + f.bytes) text⟩

end QueryModel

end DocTable
