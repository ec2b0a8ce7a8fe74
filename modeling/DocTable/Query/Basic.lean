import DocTable.Query.Error
import DocTable.Value.Basic

/-!
Queries: what is asked of which collection, and the stages of an aggregation.
-/

namespace DocTable

inductive Method where
  | find
  | aggregate
  deriving DecidableEq, Repr

namespace Method

def name : Method → String
  | find => "find"
  | aggregate => "aggregate"

def defaultArguments : Method → String
  | find => "\x7b\x7d"
  | aggregate => "[]"

def emptyFilter : Method → Value
  | find => .document []
  | aggregate => .array []

end Method

structure Query where
  database : String
  collection : String
  method : Method
  /-- The filter of a find, the stages of an aggregation. -/
  filter : Value
  /-- A find may have one. -/
  projection : Option Value
  sort : Option Value

/-- The stages of an aggregation, with the sort as its last one. -/
def Query.pipeline (q : Query) : Except QueryError (List Value) :=
  match q.filter with
  | .array stages =>
    match q.sort with
    | some sort => .ok (stages ++ [.document [("$sort", sort)]])
    | none => .ok stages
  | _ => .error .pipelineNotArray

end DocTable
