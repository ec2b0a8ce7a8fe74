import DocTable.Cell

/-!
Tables: named columns of one length, each of one type, in the order in which their names first came
up.
-/

namespace DocTable

/-- The cells of a column, with or without room for absent ones. -/
inductive Values (α : Type) where
  | dense (cells : List α)
  | nullable (cells : List (Option α))
  deriving DecidableEq

namespace Values

variable {α : Type}

def length : Values α → Nat
  | dense cells => cells.length
  | nullable cells => cells.length

def toList : Values α → List (Option α)
  | dense cells => cells.map some
  | nullable cells => cells

theorem length_toList (v : Values α) : v.toList.length = v.length := by
  cases v <;> simp [toList, length]

end Values

structure Column where
  name : String
  type : FieldType
  nullable : Bool
  values : Values type.Native

def Column.length (c : Column) : Nat := c.values.length

structure Table where
  columns : List Column

namespace Table

def rowCount (t : Table) : Nat :=
  match t.columns with
  | [] => 0
  | c :: _ => c.length

def isEmpty (t : Table) : Bool := t.columns.isEmpty

def column? (t : Table) (name : String) : Option Column := t.columns.find? (·.name == name)

end Table

end DocTable
