import DocTable.Proofs.Table.Growth
import Mathlib.Data.List.ReduceOption

/-!
# The types of columns

A column has the type that all its present cells share, and is a column of texts where they share
none. `Field.cells_build` says that building a field drops no cell: every present cell is there
natively, or as its text in a column of texts. `columns_typed` settles type, nullability and layout
of every column of a table from its records.
-/

namespace DocTable

/-! ## Cells in a column -/

namespace Cell

variable {type : FieldType} {c : Cell}

def Fits (type : FieldType) (c : Cell) : Prop := c.type = type ∨ type = .string

def shownIn (type : FieldType) (c : Cell) : Cell := if c.type = type then c else string c.text

theorem as?_of_fits (fits : c.Fits type) :
    ∃ v, c.as? type = some v ∧ Cell.mk type v = c.shownIn type := by
  by_cases same : c.type = type
  · subst same
    exact ⟨c.value, by simp [as?], by simp [shownIn]⟩
  · obtain rfl : type = .string := fits.resolve_left same
    exact ⟨c.text, by simp [as?, same], by simp [shownIn, same, string]⟩

end Cell

namespace Column

def cells (c : Column) : List (Option Cell) := c.values.toList.map (Option.map (Cell.mk c.type))

def cell? (c : Column) (row : Nat) : Option Cell := (c.cells[row]?).join

theorem length_cells (c : Column) : c.cells.length = c.length := by
  rw [cells, List.length_map, Values.length_toList, length]

end Column

namespace Field

variable {f : Field} {type : FieldType} {records : List Document} {key : String} {c : Cell}

def present (f : Field) : List Cell := f.cells.toList.reduceOption

theorem mem_present : c ∈ f.present ↔ some c ∈ f.cells.toList := List.reduceOption_mem_iff

theorem type_eq_of_forall (some : f.present ≠ []) (all : ∀ c ∈ f.present, c.type = type) :
    f.type = type := by
  unfold present at some all
  rw [Field.type]
  split
  · next none => exact absurd none some
  · next c rest cells =>
    rw [cells] at all
    have first : c.type = type := all c (by simp)
    have agree : rest.all (·.type == c.type) = true := by
      simp only [List.all_eq_true, beq_iff_eq]
      intro x mem
      rw [first, all x (List.mem_cons_of_mem _ mem)]
    rw [if_pos agree, first]

theorem type_eq_string (clash : ∀ type, (∀ c ∈ f.present, c.type = type) → f.present = []) :
    f.type = .string := by
  unfold present at clash
  rw [Field.type]
  split
  · rfl
  · next c rest cells =>
    split
    · next agree =>
      simp only [List.all_eq_true, beq_iff_eq] at agree
      have := clash c.type (by rw [cells]; exact List.forall_mem_cons.2 ⟨rfl, agree⟩)
      simp [cells] at this
    · rfl

theorem fits_type (mem : c ∈ f.present) : c.Fits f.type := by
  by_cases all : ∃ type, ∀ x ∈ f.present, x.type = type
  · obtain ⟨type, all⟩ := all
    have := type_eq_of_forall (List.ne_nil_of_mem mem) all
    exact .inl ((all c mem).trans this.symm)
  · exact .inr (type_eq_string fun type h => absurd ⟨type, h⟩ all)

-- In a column that has all its cells and holds them, nothing is filtered out.
theorem dense_cells {cells : List (Option Cell)}
    (fit : ∀ o ∈ cells, ∃ c : Cell, o = some c ∧ c.Fits type) :
    ((cells.filterMap fun o => o.bind (Cell.as? type)).map some).map (Option.map (Cell.mk type)) =
      cells.map (Option.map (Cell.shownIn type)) := by
  induction cells with
  | nil => rfl
  | cons o cells ih =>
    obtain ⟨c, rfl, fits⟩ := fit o (by simp)
    obtain ⟨v, read, shown⟩ := Cell.as?_of_fits fits
    have rest := ih fun o mem => fit o (List.mem_cons_of_mem _ mem)
    simp only [List.filterMap_cons, Option.bind_some, read, List.map_cons, Option.map_some, shown,
      rest]

theorem nullable_cells {cells : List (Option Cell)}
    (fit : ∀ c : Cell, some c ∈ cells → c.Fits type) :
    (cells.map fun o => o.bind (Cell.as? type)).map (Option.map (Cell.mk type)) =
      cells.map (Option.map (Cell.shownIn type)) := by
  rw [List.map_map]
  refine List.map_congr_left fun o mem => ?_
  cases o with
  | none => rfl
  | some c =>
    obtain ⟨v, read, shown⟩ := Cell.as?_of_fits (fit c mem)
    simp [read, shown]

theorem cells_build (total : f.nullable = false → none ∉ f.cells.toList) :
    f.build.cells = f.cells.toList.map (Option.map (Cell.shownIn f.type)) := by
  have fit : ∀ c : Cell, some c ∈ f.cells.toList → c.Fits f.type :=
    fun c mem => fits_type (mem_present.2 mem)
  rw [Column.cells, build]
  cases nullable : f.nullable with
  | true => exact nullable_cells fit
  | false =>
    refine dense_cells fun o mem => ?_
    cases o with
    | none => exact absurd mem (total nullable)
    | some c => exact ⟨c, rfl, fit c mem⟩

theorem layout_build (f : Field) :
    (f.build.nullable = true ∧
      ∃ cells : List (Option f.build.type.Native), f.build.values = .nullable cells) ∨
    (f.build.nullable = false ∧
      ∃ cells : List f.build.type.Native, f.build.values = .dense cells) := by
  obtain ⟨name, nullable, cells⟩ := f
  cases nullable with
  | true => exact .inl ⟨rfl, _, rfl⟩
  | false => exact .inr ⟨rfl, _, rfl⟩

end Field

/-! ## The columns of a table of records -/

namespace Field

variable {records : List Document} {key : String} {c : Cell}

theorem mem_present_ofRecords :
    c ∈ (ofRecords records key).present ↔ Document.Present records key c := by
  simp only [mem_present, ofRecords, List.mem_map, Document.cell?_eq_some_iff, Document.Present]

theorem total_ofRecords :
    (ofRecords records key).nullable = false → none ∉ (ofRecords records key).cells.toList := by
  intro dense mem
  obtain ⟨d, held, none⟩ := List.mem_map.1 mem
  exact List.any_eq_false.1 dense d held (Document.hasGap_of_cell?_eq_none none)

theorem cells_build_ofRecords :
    (ofRecords records key).build.cells =
      records.map fun d => (d.cell? key).map (Cell.shownIn (ofRecords records key).type) := by
  rw [cells_build total_ofRecords, ofRecords, List.map_map]
  rfl

end Field

theorem Table.mem_columns_ofRecords {records : List Document} {column : Column} :
    column ∈ (Table.ofRecords records).columns ↔
      ∃ key ∈ Document.names records, (Field.ofRecords records key).build = column := by
  rw [Table.columns_ofRecords, List.mem_map]

/-- Every column of a table has the type of all its present cells, or is a column of texts where
there is none or they differ. It is nullable if a record lacks its key or gives null for it, be it
in front of another value, and has room for absent cells exactly then. -/
theorem columns_typed (records : List Document) :
    ∀ column ∈ (Table.ofRecords records).columns,
      (∀ type, (∃ c, Document.Present records column.name c) →
        (∀ c, Document.Present records column.name c → c.type = type) → column.type = type) ∧
      ((∀ c, ¬ Document.Present records column.name c) ∨
        (∃ a b, Document.Present records column.name a ∧ Document.Present records column.name b ∧
          a.type ≠ b.type) → column.type = .string) ∧
      (column.nullable = true ↔
        ∃ d ∈ records, column.name ∉ d.keys ∨ (column.name, Value.null) ∈ d) ∧
      ((column.nullable = true ∧
          ∃ cells : List (Option column.type.Native), column.values = .nullable cells) ∨
        (column.nullable = false ∧
          ∃ cells : List column.type.Native, column.values = .dense cells)) := by
  intro column mem
  obtain ⟨key, -, rfl⟩ := Table.mem_columns_ofRecords.1 mem
  let f := Field.ofRecords records key
  refine ⟨?shared, ?clash, ?nullable, ?layout⟩
  case shared =>
    rintro type ⟨c, some⟩ all
    exact Field.type_eq_of_forall (List.ne_nil_of_mem (Field.mem_present_ofRecords.2 some))
      fun x mem => all x (Field.mem_present_ofRecords.1 mem)
  case clash =>
    rintro (none | ⟨a, b, hasA, hasB, differ⟩) <;> refine Field.type_eq_string fun type all => ?_
    · exact List.eq_nil_iff_forall_not_mem.2 fun c mem => none c (Field.mem_present_ofRecords.1 mem)
    · have typeA : a.type = type := all a (Field.mem_present_ofRecords.2 hasA)
      have typeB : b.type = type := all b (Field.mem_present_ofRecords.2 hasB)
      exact absurd (typeA.trans typeB.symm) differ
  case nullable =>
    change records.any (·.hasGap key) = true ↔ _
    simp only [List.any_eq_true, Document.hasGap_iff]
    rfl
  case layout =>
    exact f.layout_build

/-- A null that the same record overwrites counts for the flag and not for the type. -/
def overwritten : List Document :=
  [[("a", .null), ("a", .int32 1)], [("a", .int32 2)]]

theorem columns_typed_overwritten :
    ∃ column ∈ (Table.ofRecords overwritten).columns,
      column.name = "a" ∧ column.type = .int32 ∧ column.nullable = true := by
  have named : (Field.ofRecords overwritten "a").build ∈ (Table.ofRecords overwritten).columns :=
    Table.mem_columns_ofRecords.2 ⟨"a", by decide, rfl⟩
  obtain ⟨shared, -, nullable, -⟩ := columns_typed overwritten _ named
  have all : ∀ c, Document.Present overwritten "a" c → c.type = .int32 := by
    rintro c ⟨d, mem, v, given, -, rfl⟩
    rcases List.mem_cons.1 mem with rfl | mem
    · cases given
      rfl
    · obtain rfl := List.mem_singleton.1 mem
      cases given
      rfl
  have some : Document.Present overwritten "a" ⟨.int32, 2⟩ :=
    ⟨_, List.mem_of_getElem? (i := 1) rfl, .int32 2, rfl, by simp, rfl⟩
  exact ⟨_, named, rfl, shared .int32 ⟨_, some⟩ all,
    nullable.2 ⟨_, List.mem_cons_self, .inr List.mem_cons_self⟩⟩

end DocTable
