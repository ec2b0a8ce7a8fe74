import DocTable.Proofs.Table.Alignment

/-!
# Tables of fewer records

More records add columns behind those that are there, and rows below. They can make a column
nullable and turn it into one of texts, but they take nothing back of the rows above.
-/

namespace DocTable

/-- The first `rows` rows of a column that has grown since. -/
structure Column.Clips (rows : Nat) (column grown : Column) : Prop where
  nullable : column.nullable = true → grown.nullable = true
  present : ∀ row < rows, (column.cell? row).isSome = (grown.cell? row).isSome
  type : (∃ row, (column.cell? row).isSome) → grown.type = column.type ∨ grown.type = .string
  native : ∀ row c, column.cell? row = some c → grown.type = column.type →
    grown.cell? row = some c
  text : ∀ row c, column.cell? row = some c → grown.type ≠ column.type →
    grown.type = .string ∧ grown.cell? row = some (.string c.text)

structure Table.Clips (rows : Nat) (table grown : Table) : Prop where
  names : table.columns.map Column.name <+: grown.columns.map Column.name
  columns : ∀ column ∈ table.columns, ∀ wide ∈ grown.columns, wide.name = column.name →
    column.length = rows ∧ column.Clips rows wide

/-! ## More records -/

theorem Document.names_prefix (xs ys : List Document) : names xs <+: names (xs ++ ys) := by
  rw [names, names, List.flatMap_append, List.eraseDups_append]
  exact List.prefix_append _ _

theorem Document.Present.append {xs : List Document} {key : String} {c : Cell}
    (h : Present xs key c) (ys : List Document) : Present (xs ++ ys) key c := by
  obtain ⟨d, mem, given⟩ := h
  exact ⟨d, List.mem_append_left ys mem, given⟩

theorem Document.present_of_cell? {records : List Document} {key : String} {c : Cell} {row : Nat}
    (inside : row < records.length) (h : records[row].cell? key = some c) :
    Present records key c :=
  ⟨records[row], List.getElem_mem inside, cell?_eq_some_iff.1 h⟩

namespace Field

variable {xs ys : List Document} {key : String} {c : Cell} {row : Nat}

theorem nullable_append (h : (ofRecords xs key).nullable = true) :
    (ofRecords (xs ++ ys) key).nullable = true := by
  have gap : xs.any (·.hasGap key) = true := h
  simp [ofRecords, gap]

theorem type_append (some : Document.Present xs key c) :
    (ofRecords (xs ++ ys) key).type = (ofRecords xs key).type ∨
      (ofRecords (xs ++ ys) key).type = .string := by
  have here := mem_present_ofRecords.2 some
  have there := mem_present_ofRecords.2 (some.append ys)
  by_cases all : ∃ type, ∀ x ∈ (ofRecords (xs ++ ys) key).present, x.type = type
  · obtain ⟨type, all⟩ := all
    left
    have before : (ofRecords xs key).type = type := by
      apply type_eq_of_forall (List.ne_nil_of_mem here)
      intro x mem
      exact all x (mem_present_ofRecords.2 ((mem_present_ofRecords.1 mem).append ys))
    rw [before, type_eq_of_forall (List.ne_nil_of_mem there) all]
  · right
    apply type_eq_string
    intro type same
    exact absurd ⟨type, same⟩ all

theorem cell?_build_none (outside : xs.length ≤ row) :
    (ofRecords xs key).build.cell? row = none := by
  rw [Column.cell?, cells_build_ofRecords, List.getElem?_eq_none (by simpa using outside)]
  rfl

/-- The cell of a row is that of its record, above the end of a shorter list as well. -/
theorem cell?_build_append (inside : row < xs.length) :
    (ofRecords (xs ++ ys) key).build.cell? row =
      (xs[row].cell? key).map (Cell.shownIn (ofRecords (xs ++ ys) key).type) := by
  have longer : row < (xs ++ ys).length := by simp; omega
  rw [cell?_build_ofRecords longer, List.getElem_append_left inside]

theorem exists_of_cell?_build (h : (ofRecords xs key).build.cell? row = some c) :
    ∃ (_ : row < xs.length) (own : Cell), xs[row].cell? key = some own ∧
      Document.Present xs key own ∧ own.shownIn (ofRecords xs key).type = c := by
  by_cases inside : row < xs.length
  · rw [cell?_build_ofRecords inside, Option.map_eq_some_iff] at h
    obtain ⟨own, given, shown⟩ := h
    exact ⟨inside, own, given, Document.present_of_cell? inside given, shown⟩
  · rw [cell?_build_none (Nat.le_of_not_lt inside)] at h
    cases h

end Field

namespace Cell

variable {type : FieldType} {c : Cell}

/-- Only a column that is not yet one of texts can turn into one, and there its cells are native. -/
theorem shownIn_string (fits : c.Fits type) (other : type ≠ .string) :
    c.shownIn .string = string (c.shownIn type).text := by
  have same : c.type = type := fits.resolve_right other
  have unlike : c.type ≠ .string := same ▸ other
  rw [shownIn, if_neg unlike, shownIn, if_pos same]

end Cell

theorem Field.clips (xs ys : List Document) (key : String) :
    (ofRecords xs key).build.Clips xs.length (ofRecords (xs ++ ys) key).build where
  nullable := nullable_append
  present row inside := by
    rw [cell?_build_ofRecords inside, cell?_build_append inside, Option.isSome_map,
      Option.isSome_map]
  type := by
    rintro ⟨row, shown⟩
    obtain ⟨c, shown⟩ := Option.isSome_iff_exists.1 shown
    obtain ⟨-, own, -, present, -⟩ := exists_of_cell?_build shown
    exact type_append present
  native row c shown same := by
    obtain ⟨inside, own, given, -, rfl⟩ := exists_of_cell?_build shown
    have types : (ofRecords (xs ++ ys) key).type = (ofRecords xs key).type := same
    rw [cell?_build_append inside, given, types]
    rfl
  text row c shown differs := by
    obtain ⟨inside, own, given, present, rfl⟩ := exists_of_cell?_build shown
    have texts : (ofRecords (xs ++ ys) key).type = .string :=
      (type_append present).resolve_left differs
    have before : (ofRecords xs key).type ≠ .string := fun h => differs (texts.trans h.symm)
    have fits := fits_type (mem_present_ofRecords.2 present)
    refine ⟨texts, ?_⟩
    rw [cell?_build_append inside, given, texts, Option.map_some, Cell.shownIn_string fits before]

theorem Table.clips_append (xs ys : List Document) :
    (Table.ofRecords xs).Clips xs.length (Table.ofRecords (xs ++ ys)) where
  names := by
    have all (records : List Document) :
        (Table.ofRecords records).columns.map Column.name = Document.names records := by
      rw [columns_ofRecords, List.map_map]
      exact List.map_id _
    rw [all, all]
    exact Document.names_prefix xs ys
  columns := by
    intro column mem wide mem' name
    obtain ⟨key, -, rfl⟩ := mem_columns_ofRecords.1 mem
    obtain ⟨key', -, rfl⟩ := mem_columns_ofRecords.1 mem'
    obtain rfl : key' = key := name
    exact ⟨Field.length_build_ofRecords, Field.clips xs ys key'⟩

end DocTable
