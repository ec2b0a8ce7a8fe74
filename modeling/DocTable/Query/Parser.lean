import DocTable.Query.Arguments
import DocTable.Query.Clauses
import DocTable.Query.DateCall
import DocTable.Text.Blank
import DocTable.Value.DateLiteral

/-!
Reading query texts. The filter is the method's first argument with instants for its date calls;
the second argument of a find is its projection; the first argument of the sort is the sort. A
blank argument list is the method's default, a blank sort is none.
-/

namespace DocTable

namespace Query

def defaultDatabaseAlias : List Char := ['d', 'b']

def argumentsError (clause : String) (fragment : List Char) (e : DecodeError) : QueryError :=
  .arguments clause (String.ofList fragment) e.message

def readArguments (method : Method) (written : List Char) :
    Except QueryError (Value × Option Value) := do
  let text := if Text.allBlank written then method.defaultArguments.toList else written
  let items ← (decodeArguments (quoteDateCalls text)).mapError (argumentsError method.name text)
  let filter := (items.head?.getD method.emptyFilter).patchDates
  let projection := match method with
    | .find => items[1]?
    | .aggregate => none
  .ok (filter, projection)

def readSort (written : List Char) : Except QueryError (Option Value) :=
  if Text.allBlank written then .ok none
  else ((decodeArguments written).map List.head?).mapError (argumentsError "sort" written)

def ofClauses (clauses : Clauses) (defaultDatabase : String) : Except QueryError Query := do
  let (filter, projection) ← readArguments clauses.method clauses.arguments
  let sort ← readSort clauses.sortArguments
  .ok {
    database := if clauses.database = defaultDatabaseAlias then defaultDatabase
      else String.ofList clauses.database
    collection := String.ofList clauses.collection
    method := clauses.method
    filter, projection, sort }

def parse (text defaultDatabase : String) : Except QueryError Query :=
  let trimmed := Text.trim text.toList
  match Clauses.split? trimmed with
  | some clauses => ofClauses clauses defaultDatabase
  | none => .error (.notAQuery (String.ofList trimmed))

end Query

end DocTable
