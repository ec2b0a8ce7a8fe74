import DocTable.Query.Basic
import DocTable.Value.Bson

/-!
Commands: what a client sends to the store. A query becomes one command when all its arguments that
have to be documents are documents, and none otherwise.
-/

namespace DocTable

abbrev BsonDocument := List (String × Bson)

/-- A cursor is asked for on a collection of a database, and then for more of it. -/
inductive Command where
  | find (database collection : String) (filter : BsonDocument)
      (projection sort : Option BsonDocument)
  | aggregate (database collection : String) (pipeline : List BsonDocument)
  | getMore (database collection : String)
  | ping
  | login

namespace Command

def adminDatabase : String := "admin"

def toBson (c : Command) : Bson :=
  let collection (name database collection : String) (arguments : BsonDocument) : Bson :=
    .document ([("command", .string name), ("db", .string database),
      ("collection", .string collection)] ++ arguments)
  let admin (name : String) : Bson :=
    .document [("command", .string name), ("db", .string adminDatabase)]
  let option (name : String) (d : Option BsonDocument) : BsonDocument :=
    d.toList.map fun d => (name, .document d)
  match c with
  | find database name filter projection sort =>
    collection "find" database name
      (("filter", .document filter) :: option "projection" projection ++ option "sort" sort)
  | aggregate database name pipeline =>
    collection "aggregate" database name [("pipeline", .array (pipeline.map .document))]
  | getMore database name => collection "getMore" database name []
  | ping => admin "ping"
  | login => admin "saslStart"

def text (c : Command) : String := ExtendedJson.canonicalText c.toBson

end Command

def Value.asDocument (clause : String) (v : Value) : Except QueryError BsonDocument :=
  match v.toBson with
  | .document entries => .ok entries
  | _ => .error (.execution s!"'{clause}' argument must be a document, got {v.kind}")

def Query.command (q : Query) : Except QueryError Command :=
  match q.method with
  | .find => do
    let filter ← q.filter.asDocument "find"
    let projection ← q.projection.mapM (Value.asDocument "projection")
    let sort ← q.sort.mapM (Value.asDocument "sort")
    .ok (.find q.database q.collection filter projection sort)
  | .aggregate => do
    let stages ← q.pipeline
    let pipeline ← stages.mapM (Value.asDocument "aggregate")
    .ok (.aggregate q.database q.collection pipeline)

end DocTable
