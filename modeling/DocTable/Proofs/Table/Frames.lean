import DocTable.Frame
import DocTable.Proofs.Table.Alignment
import DocTable.Table.Json

/-!
# The cells of a frame

The data of a frame, followed by names and places to a single value, hold the cells of the table,
`frame_keeps_cells`. Lost are only numbers that are not finite, and times whose nanoseconds do not
fit: those are null also in a field that is declared without nulls, `far_time_is_null`.
-/

namespace DocTable

/-! ## Places in JSON -/

namespace Json

inductive Step where
  | name (name : String)
  | item (place : Nat)

def step? : Json → Step → Option Json
  | .object entries, .name name => Entries.get? entries name
  | .array items, .item place => items[place]?
  | _, _ => none

def follow? (v : Json) : List Step → Option Json
  | [] => some v
  | step :: steps => (v.step? step).bind fun inner => inner.follow? steps

theorem follow?_append {v : Json} (steps steps' : List Step) :
    (v.follow? steps).bind (·.follow? steps') = v.follow? (steps ++ steps') := by
  induction steps generalizing v with
  | nil => rfl
  | cons step steps ih => simp [follow?, Option.bind_assoc, ih]

end Json

/-! ## Cells -/

namespace Cell

variable {c : Cell}

/-- A float without a number in JSON. -/
inductive IsNonFinite : Cell → Prop where
  | float32 {x : Binary32} (h : x.isFinite = false) : IsNonFinite ⟨.float32, x⟩
  | float64 {x : Binary64} (h : x.isFinite = false) : IsNonFinite ⟨.float64, x⟩

/-- A time more than 2^63 nanoseconds away from the start of 1970. -/
inductive IsFarTime : Cell → Prop where
  | time {t : Instant} (h : t.millis < -9223372036854 ∨ 9223372036854 < t.millis) :
    IsFarTime ⟨.time, t⟩

/-- The cell's own value, with a time as its milliseconds. -/
def plainJson : Cell → Json
  | ⟨.time, t⟩ => .integer t.millis
  | ⟨type, v⟩ => type.toJson v

def frameJson (c : Cell) : Json := ((c.type.keep c.value).map c.type.frameJson).getD .null

theorem hasNanos_iff {t : Instant} : FieldType.hasNanos t = true ↔
    ¬ (t.millis < -9223372036854 ∨ 9223372036854 < t.millis) := by
  have least : Int64.minValue.toInt = -9223372036854775808 := by decide
  have greatest : Int64.maxValue.toInt = 9223372036854775807 := by decide
  simp only [FieldType.hasNanos, least, greatest, Bool.and_eq_true, decide_eq_true_eq]
  omega

theorem frameJson_of_lost (h : c.IsNonFinite ∨ c.IsFarTime) : c.frameJson = .null := by
  rcases h with float | far
  · cases float with
    | float32 h => simp [frameJson, FieldType.keep, FieldType.frameJson, h]
    | float64 h => simp [frameJson, FieldType.keep, FieldType.frameJson, h]
  · cases far with
    | @time t h =>
      have out : FieldType.hasNanos t = false := by
        rw [Bool.eq_false_iff]
        exact fun within => hasNanos_iff.1 within h
      simp [frameJson, FieldType.keep, out]

theorem frameJson_of_kept (h : ¬ (c.IsNonFinite ∨ c.IsFarTime)) :
    c.frameJson = c.plainJson ∧ c.plainJson ≠ .null := by
  obtain ⟨finite, near⟩ := not_or.1 h
  obtain ⟨type, v⟩ := c
  cases type with
  | float32 =>
    have number : v.isFinite = true := by
      rw [← Bool.not_eq_false]
      exact fun h => finite (.float32 h)
    simp [frameJson, plainJson, FieldType.keep, FieldType.frameJson, FieldType.toJson, number]
  | float64 =>
    have number : v.isFinite = true := by
      rw [← Bool.not_eq_false]
      exact fun h => finite (.float64 h)
    simp [frameJson, plainJson, FieldType.keep, FieldType.frameJson, FieldType.toJson, number]
  | time =>
    have within : FieldType.hasNanos v = true := hasNanos_iff.2 fun h => near (.time h)
    simp [frameJson, plainJson, FieldType.keep, FieldType.frameJson, within]
  | _ => simp [frameJson, plainJson, FieldType.keep, FieldType.frameJson, FieldType.toJson]

theorem frameJson_eq_null_iff : c.frameJson = .null ↔ c.IsNonFinite ∨ c.IsFarTime := by
  constructor
  · intro null
    by_contra kept
    obtain ⟨same, some⟩ := frameJson_of_kept kept
    exact some (same ▸ null)
  · exact frameJson_of_lost

end Cell

/-! ## Fields -/

theorem Field.none_not_mem_cells {records : List Document} {key : String}
    (dense : (ofRecords records key).nullable = false) :
    none ∉ (ofRecords records key).build.cells := by
  rw [cells_build total_ofRecords]
  intro mem
  obtain ⟨o, mem, absent⟩ := List.mem_map.1 mem
  rw [Option.map_eq_none_iff.1 absent] at mem
  exact total_ofRecords dense mem

namespace FrameField

theorem dataJson_ofColumn (c : Column) :
    (ofColumn c).dataJson =
      .array (c.cells.map fun cell => (cell.map Cell.frameJson).getD .null) := by
  simp only [dataJson, ofColumn, Column.cells, List.map_map]
  congr 1
  refine List.map_congr_left fun cell _ => ?_
  cases cell <;> rfl

end FrameField

namespace Frame

variable {t : Table} {k row : Nat} {column : Column}

def data : List Json.Step := [.name "data", .name "values"]

def schemas : List Json.Step := [.name "schema", .name "fields"]

def value? (frame : Frame) (k row : Nat) : Option Json :=
  frame.toJson.follow? (data ++ [.item k, .item row])

/-- The flag with which a field is declared. -/
def nullable? (frame : Frame) (k : Nat) : Option Json :=
  frame.toJson.follow? (schemas ++ [.item k, .name "typeInfo", .name "nullable"])

theorem value?_ofTable (h : t.columns[k]? = some column) :
    (ofTable t).value? k row =
      column.cells[row]?.map fun cell => (cell.map Cell.frameJson).getD .null := by
  have columns : (ofTable t).toJson.follow? data =
      some (.array ((ofTable t).fields.map FrameField.dataJson)) := by
    simp only [toJson]
    split <;> rfl
  have field : ((ofTable t).fields.map FrameField.dataJson)[k]? =
      some (.array (column.cells.map fun cell => (cell.map Cell.frameJson).getD .null)) := by
    simp [ofTable, h, FrameField.dataJson_ofColumn]
  rw [value?, ← Json.follow?_append, columns]
  simp [Json.follow?, Json.step?, field]

theorem nullable?_ofTable (h : t.columns[k]? = some column) :
    (ofTable t).nullable? k = some (.bool column.nullable) := by
  have fields : (ofTable t).toJson.follow? schemas =
      some (.array ((ofTable t).fields.map FrameField.schemaJson)) := rfl
  have field : ((ofTable t).fields.map FrameField.schemaJson)[k]? =
      some (FrameField.ofColumn column).schemaJson := by
    simp [ofTable, h]
  rw [nullable?, ← Json.follow?_append, fields]
  simp only [Option.bind_some, Json.follow?, Json.step?, field]
  rfl

end Frame

/-! ## Frames of tables -/

/-- The frame of a table as the dashboard gets it: a field for each column, all of one length. -/
structure Frame.Shows (frame : Frame) (t : Table) : Prop where
  name : frame.name = "response"
  fields : frame.fields.map (fun f => (f.name, f.nullable)) =
    t.columns.map fun c => (c.name, c.nullable)
  lengths : ∀ f ∈ frame.fields, f.cells.length = t.rowCount
  checked : frame.check = .ok frame

theorem Frame.shows_ofTable (records : List Document) :
    (Frame.ofTable (Table.ofRecords records)).Shows (Table.ofRecords records) := by
  have lengths : ∀ f ∈ (Frame.ofTable (Table.ofRecords records)).fields,
      f.cells.length = (Table.ofRecords records).rowCount := by
    intro f mem
    obtain ⟨column, held, rfl⟩ := List.mem_map.1 mem
    rw [Table.rowCount_ofRecords held]
    obtain ⟨key, -, rfl⟩ := Table.mem_columns_ofRecords.1 held
    rw [← Field.length_build_ofRecords, FrameField.ofColumn, List.length_map,
      Values.length_toList, Column.length]
  refine ⟨rfl, by simp [Frame.ofTable, FrameField.ofColumn], lengths, ?_⟩
  rw [Frame.check]
  cases fields : (Frame.ofTable (Table.ofRecords records)).fields with
  | nil => rfl
  | cons f rest =>
    rw [fields, List.forall_mem_cons] at lengths
    refine if_pos (List.all_eq_true.2 fun other mem => ?_)
    rw [lengths.1, lengths.2 other mem, beq_self_eq_true]

/-- A frame declares every column with the column's own flag, and has a value for each of its rows.
The value is null for a cell that is absent, for a number that is not finite, and for a time that is
too far away, and no other present cell is lost: its value is its own. A column without the flag
has no absent cells, and so its nulls are cells that are lost. -/
theorem frame_keeps_cells (records : List Document) {k row : Nat} {column : Column}
    (held : (Table.ofRecords records).columns[k]? = some column) (inside : row < records.length) :
    let frame := Frame.ofTable (Table.ofRecords records)
    frame.nullable? k = some (.bool column.nullable) ∧
    ∃ value, frame.value? k row = some value ∧
      (value = .null ↔ column.cell? row = none ∨
        ∃ c, column.cell? row = some c ∧ (c.IsNonFinite ∨ c.IsFarTime)) ∧
      (∀ c, column.cell? row = some c → ¬ (c.IsNonFinite ∨ c.IsFarTime) → value = c.plainJson) ∧
      (column.nullable = false → value = .null →
        ∃ c, column.cell? row = some c ∧ (c.IsNonFinite ∨ c.IsFarTime)) := by
  intro frame
  obtain ⟨key, -, rfl⟩ := Table.mem_columns_ofRecords.1 (List.mem_of_getElem? held)
  let column := (Field.ofRecords records key).build
  have within : row < column.cells.length := by
    rwa [Field.cells_build_ofRecords, List.length_map]
  have found : column.cells[row]? = some column.cells[row] := List.getElem?_eq_getElem within
  have cell : column.cell? row = column.cells[row] := by
    rw [Column.cell?, found]
    rfl
  have value : frame.value? k row =
      some ((column.cells[row].map Cell.frameJson).getD .null) := by
    rw [Frame.value?_ofTable held, found]
    rfl
  have lost : (column.cells[row].map Cell.frameJson).getD .null = .null ↔
      column.cell? row = none ∨ ∃ c, column.cell? row = some c ∧ (c.IsNonFinite ∨ c.IsFarTime) := by
    rw [cell]
    cases column.cells[row] with
    | none => simp
    | some c => simp [Cell.frameJson_eq_null_iff]
  refine ⟨Frame.nullable?_ofTable held, _, value, lost, ?own, ?flagged⟩
  case own =>
    intro c present kept
    rw [← cell, present]
    exact (Cell.frameJson_of_kept kept).1
  case flagged =>
    intro dense null
    refine (lost.1 null).resolve_left fun absent => ?_
    rw [cell] at absent
    exact Field.none_not_mem_cells dense (absent ▸ List.getElem_mem within)

/-- The last millisecond of the year 9999. -/
def farTime : Instant := ⟨253402300799999, by decide, by decide⟩

/-- A far time and a near one, and a column with a gap. -/
def mixedTimes : List Document :=
  [[("t", .dateTime farTime), ("n", .int32 1)],
    [("t", .dateTime ⟨1500, by decide, by decide⟩)]]

theorem frame_keeps_cells_mixed :
    let frame := Frame.ofTable (Table.ofRecords mixedTimes)
    frame.nullable? 0 = some (.bool false) ∧ frame.value? 0 0 = some .null ∧
    frame.value? 0 1 = some (.integer 1500) ∧
    frame.nullable? 1 = some (.bool true) ∧ frame.value? 1 1 = some .null := by
  intro frame
  have times : (Table.ofRecords mixedTimes).columns[0]? =
      some (Field.ofRecords mixedTimes "t").build := by
    rw [Table.columns_ofRecords]
    rfl
  have numbers : (Table.ofRecords mixedTimes).columns[1]? =
      some (Field.ofRecords mixedTimes "n").build := by
    rw [Table.columns_ofRecords]
    rfl
  have first : 0 < mixedTimes.length := by decide
  have second : 1 < mixedTimes.length := by decide
  obtain ⟨dense, far, found, null, -, -⟩ := frame_keeps_cells mixedTimes times first
  obtain ⟨-, near, found', -, own, -⟩ := frame_keeps_cells mixedTimes times second
  obtain ⟨nullable, gap, found'', null'', -, -⟩ := frame_keeps_cells mixedTimes numbers second
  have far_null : far = .null := null.2 (.inr ⟨_, rfl, .inr (.time (.inr (by decide)))⟩)
  have near_own : near = .integer 1500 := own ⟨.time, ⟨1500, by decide, by decide⟩⟩ rfl (by
    rintro (float | far)
    · cases float
    · cases far with
      | time h => exact absurd h (by decide))
  have gap_null : gap = .null := null''.2 (.inl rfl)
  exact ⟨dense, far_null ▸ found, near_own ▸ found', nullable, gap_null ▸ found''⟩

theorem far_time_is_null :
    let records : List Document := [[("t", .dateTime farTime)]]
    let frame := Frame.ofTable (Table.ofRecords records)
    (∃ column, (Table.ofRecords records).columns[0]? = some column ∧
      column.nullable = false ∧ column.cell? 0 = some ⟨.time, farTime⟩) ∧
    ¬ (Cell.mk .time farTime).IsNonFinite ∧
    frame.nullable? 0 = some (.bool false) ∧ frame.value? 0 0 = some .null := by
  intro records frame
  have held : (Table.ofRecords records).columns[0]? =
      some (Field.ofRecords records "t").build := by
    rw [Table.columns_ofRecords]
    rfl
  refine ⟨⟨_, held, rfl, rfl⟩, nofun, Frame.nullable?_ofTable held, ?_⟩
  rw [Frame.value?_ofTable held]
  rfl

end DocTable
