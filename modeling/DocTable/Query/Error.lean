/-!
Failures of a query. Each one ends the query that it belongs to, and no table comes with it.
-/

namespace DocTable

inductive QueryError where
  /-- The text is not of the form `<db>.<collection>.<find|aggregate>(…)`. -/
  | notAQuery (text : String)
  /-- The arguments of a clause, as they were written, are not extended JSON. -/
  | arguments (clause fragment detail : String)
  | pipelineNotArray
  /-- The store's own text. -/
  | execution (text : String)
  /-- An item of a cursor that is no record. -/
  | record (text : String)
  | cancelled
  deriving DecidableEq, Repr

def QueryError.message : QueryError → String
  | notAQuery text => s!"'{text}' is not a valid MongoDB query expression"
  | arguments clause fragment detail =>
    s!"the args '{fragment}' to the '{clause}' method are not valid: {detail}"
  | pipelineNotArray => "aggregate argument must be an array"
  | execution text => text
  | record text => s!"record decode: {text}"
  | cancelled => "query cancelled"

end DocTable
