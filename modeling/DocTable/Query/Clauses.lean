import DocTable.Query.Basic
import DocTable.Text.Search

/-!
The clauses of a query text `<db>.<collection>.<method>(<arguments>)[.sort(<arguments>)]`. They are
found by searching for the marks `.find(`, `.aggregate(` and `).sort(`, not by a grammar of the
arguments.
-/

namespace DocTable

structure Clauses where
  database : List Char
  collection : List Char
  method : Method
  arguments : List Char
  /-- Empty without a sort. -/
  sortArguments : List Char
  deriving DecidableEq, Repr

/-- What stands in front of the parenthesis that opens the arguments. -/
def Method.mark : Method → List Char
  | .find => ".find(".toList
  | .aggregate => ".aggregate(".toList

structure MethodSplit where
  method : Method
  before : List Char
  after : List Char

def MethodSplit.of? (m : Method) (s : List Char) : Option MethodSplit :=
  (Text.breakOn? m.mark s).map fun (before, after) => ⟨m, before, after⟩

def MethodSplit.earlier? : Option MethodSplit → Option MethodSplit → Option MethodSplit
  | some a, some b => if a.before.length ≤ b.before.length then some a else some b
  | some a, none => some a
  | none, b => b

namespace Clauses

def sortMark : List Char := ").sort(".toList

/-- The arguments and those of the sort, in the text behind the method's mark up to and without the
last parenthesis. -/
def splitSort (s : List Char) : List Char × List Char :=
  match Text.breakOn? sortMark s with
  | some (arguments, rest) => (arguments, rest.dropLast)
  | none => (s.dropLast, [])

def split? (s : List Char) : Option Clauses := do
  let cut ← MethodSplit.earlier? (MethodSplit.of? .find s) (MethodSplit.of? .aggregate s)
  match cut.before.splitOn '.' with
  | [database, collection] =>
    if database.isEmpty || collection.isEmpty || cut.after.getLast? != some ')' then none
    else
      let (arguments, sortArguments) := splitSort cut.after
      some ⟨database, collection, cut.method, arguments, sortArguments⟩
  | _ => none

end Clauses

end DocTable
