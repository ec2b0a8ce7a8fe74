import DocTable.Proofs.Table.Typing

/-!
# The rows of a table

The columns of a table are those of its records' keys, and every column has a cell for every
record: row by row the cell that the record gives, natively or as text, and nothing where it gives
none.
-/

namespace DocTable

namespace Column

variable {column : Column} {records : List Document}

theorem cell?_of_cells {row : Nat} {f : Document → Option Cell} (h : column.cells = records.map f)
    (inside : row < records.length) : column.cell? row = f records[row] := by
  rw [cell?, h, List.getElem?_map, List.getElem?_eq_getElem inside]
  rfl

end Column

namespace Field

variable {records : List Document} {key : String}

theorem length_build_ofRecords : (ofRecords records key).build.length = records.length := by
  rw [← Column.length_cells, cells_build_ofRecords, List.length_map]

theorem cell?_build_ofRecords {row : Nat} (inside : row < records.length) :
    (ofRecords records key).build.cell? row =
      (records[row].cell? key).map (Cell.shownIn (ofRecords records key).type) :=
  Column.cell?_of_cells cells_build_ofRecords inside

theorem cell?_build_of_last? {row : Nat} (inside : row < records.length) {v : Value}
    (given : records[row].last? key = some v) (notNull : v ≠ .null) :
    let column := (ofRecords records key).build
    (column.type = (Cell.ofValue v).type ∧ column.cell? row = some (Cell.ofValue v)) ∨
    (column.type = .string ∧ column.cell? row = some (Cell.string (Cell.ofValue v).text)) := by
  have present : Document.Present records key (Cell.ofValue v) :=
    ⟨records[row], List.getElem_mem inside, v, given, notNull, rfl⟩
  have cell : records[row].cell? key = some (Cell.ofValue v) :=
    Document.cell?_eq_some_iff.2 ⟨v, given, notNull, rfl⟩
  intro column
  have shown : column.cell? row = some ((Cell.ofValue v).shownIn column.type) := by
    rw [cell?_build_ofRecords inside, cell]
    rfl
  have fits : (Cell.ofValue v).Fits column.type := fits_type (mem_present_ofRecords.2 present)
  by_cases same : (Cell.ofValue v).type = column.type
  · exact .inl ⟨same.symm, by rw [shown, Cell.shownIn, if_pos same]⟩
  · exact .inr ⟨fits.resolve_left same, by rw [shown, Cell.shownIn, if_neg same]⟩

end Field

theorem Table.rowCount_ofRecords {records : List Document} {column : Column}
    (mem : column ∈ (Table.ofRecords records).columns) :
    (Table.ofRecords records).rowCount = records.length := by
  have lengths : ∀ c ∈ (Table.ofRecords records).columns, c.length = records.length := by
    intro c held
    obtain ⟨key, -, rfl⟩ := Table.mem_columns_ofRecords.1 held
    exact Field.length_build_ofRecords
  rw [Table.rowCount]
  cases columns : (Table.ofRecords records).columns with
  | nil => simp [columns] at mem
  | cons first rest => exact lengths first (by simp [columns])

/-- A table has one column for each key of its records, in the order in which the keys first come
up. Every column has a cell for every record. The cell is absent where the record lacks the key or
has null as its last value for it; any other last value is there natively in a column of its type,
and as its text in a column of texts. -/
theorem rows_aligned (records : List Document) :
    (Table.ofRecords records).columns.map Column.name = Document.names records ∧
    (Document.names records).Nodup ∧
    ∀ column ∈ (Table.ofRecords records).columns,
      column.length = records.length ∧
      (Table.ofRecords records).rowCount = records.length ∧
      ∀ (row : Nat) (inside : row < records.length),
        (column.cell? row = none ↔
          records[row].last? column.name = none ∨
          records[row].last? column.name = some Value.null) ∧
        ∀ v, records[row].last? column.name = some v → v ≠ .null →
          (column.type = (Cell.ofValue v).type ∧ column.cell? row = some (Cell.ofValue v)) ∨
          (column.type = .string ∧
            column.cell? row = some (Cell.string (Cell.ofValue v).text)) := by
  refine ⟨?names, Document.nodup_names, fun column mem => ?_⟩
  case names =>
    rw [Table.columns_ofRecords, List.map_map]
    exact List.map_id _
  have rows := Table.rowCount_ofRecords mem
  obtain ⟨key, -, rfl⟩ := Table.mem_columns_ofRecords.1 mem
  refine ⟨Field.length_build_ofRecords, rows, fun row inside => ⟨?_, fun v given notNull =>
    Field.cell?_build_of_last? inside given notNull⟩⟩
  rw [Field.cell?_build_ofRecords inside, Option.map_eq_none_iff, Document.cell?_eq_none_iff]
  rfl

/-- A repeated key, keys that are missing, two types under one key, and a null. -/
def uneven : List Document :=
  [[("a", .int32 1), ("a", .int32 2)], [("b", .string "x")], [("b", .bool true), ("a", .null)]]

theorem rows_aligned_uneven :
    ∃ column ∈ (Table.ofRecords uneven).columns, column.name = "b" ∧ column.length = 3 ∧
      column.cell? 0 = none ∧ column.cell? 1 = some (.string "x") ∧
      column.cell? 2 = some (.string "true") := by
  obtain ⟨names, -, aligned⟩ := rows_aligned uneven
  have named : "b" ∈ (Table.ofRecords uneven).columns.map Column.name := by
    rw [names]
    decide
  obtain ⟨column, mem, name⟩ := List.mem_map.1 named
  obtain ⟨length, -, rows⟩ := aligned column mem
  rw [name] at rows
  have text := (rows 1 (by decide)).2 (.string "x") rfl (by simp)
  have truth := (rows 2 (by decide)).2 (.bool true) rfl (by simp)
  have typed : column.type = .string := by
    rcases text with ⟨type, -⟩ | ⟨type, -⟩
    · exact type
    · exact type
  refine ⟨column, mem, name, length, (rows 0 (by decide)).1.2 (.inl rfl), ?_, ?_⟩
  · rcases text with ⟨-, cell⟩ | ⟨-, cell⟩ <;> exact cell
  · rcases truth with ⟨type, -⟩ | ⟨-, cell⟩
    · rw [typed] at type
      cases type
    · exact cell

end DocTable
