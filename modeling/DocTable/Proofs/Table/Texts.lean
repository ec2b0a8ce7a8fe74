import DocTable.Proofs.Table.Alignment
import DocTable.Proofs.Time.Texts

/-!
# Cells told apart by their texts

A column whose types clash shows its cells as texts. Two cells of one type, floats aside, have the
same text only if they are the same cell, so such a column merges no two rows of one type that
differ.
-/

namespace DocTable

namespace FieldType

def isFloat : FieldType → Bool
  | float32 | float64 => true
  | _ => false

theorem integerText_injective {α : Type} {number : α → Int} (exact : Function.Injective number) :
    Function.Injective fun a => String.ofList (Digits.ofInt (number a)) := by
  intro a b same
  apply exact
  apply Digits.ofInt_injective
  exact String.ofList_injective same

theorem text_injective {type : FieldType} (exact : type.isFloat = false) :
    Function.Injective type.text := by
  cases type with
  | bool =>
    intro a b same
    cases a <;> cases b <;> simp_all [text]
  | int8 => exact integerText_injective fun _ _ => Int8.toInt_inj.mp
  | int16 => exact integerText_injective fun _ _ => Int16.toInt_inj.mp
  | int32 => exact integerText_injective fun _ _ => Int32.toInt_inj.mp
  | int64 => exact integerText_injective fun _ _ => Int64.toInt_inj.mp
  | uint8 => exact integerText_injective fun _ _ same => UInt8.toNat_inj.mp (Int.ofNat.inj same)
  | uint16 => exact integerText_injective fun _ _ same => UInt16.toNat_inj.mp (Int.ofNat.inj same)
  | uint32 => exact integerText_injective fun _ _ same => UInt32.toNat_inj.mp (Int.ofNat.inj same)
  | uint64 => exact integerText_injective fun _ _ same => UInt64.toNat_inj.mp (Int.ofNat.inj same)
  | float32 => cases exact
  | float64 => cases exact
  | string =>
    intro a b same
    exact same
  | time =>
    intro a b same
    have millis : a.millis = b.millis :=
      TimeText.render_fixed_injective (String.ofList_injective same)
    cases a
    cases b
    simpa using millis

end FieldType

namespace Cell

variable {a b : Cell} {v w : Value}

theorem eq_of_text (types : a.type = b.type) (exact : a.type.isFloat = false)
    (texts : a.text = b.text) : a = b := by
  obtain ⟨type, x⟩ := a
  obtain ⟨type', y⟩ := b
  obtain rfl : type = type' := types
  have values : x = y := FieldType.text_injective exact texts
  rw [values]

theorem string_inj {s t : String} : string s = string t ↔ s = t := by
  simp [string]

def toValue : Cell → Value
  | ⟨.bool, b⟩ => .bool b
  | ⟨.int8, n⟩ => .int8 n
  | ⟨.int16, n⟩ => .int16 n
  | ⟨.int32, n⟩ => .int32 n
  | ⟨.int64, n⟩ => .int64 n
  | ⟨.uint8, n⟩ => .uint8 n
  | ⟨.uint16, n⟩ => .uint16 n
  | ⟨.uint32, n⟩ => .uint32 n
  | ⟨.uint64, n⟩ => .uint64 n
  | ⟨.float32, x⟩ => .float32 x
  | ⟨.float64, x⟩ => .float64 x
  | ⟨.string, s⟩ => .string s
  | ⟨.time, t⟩ => .dateTime t

-- An object id and the string of its text have the same cell, so texts are left out.
theorem toValue_ofValue (native : (ofValue v).type ≠ .string) : (ofValue v).toValue = v := by
  cases v <;> simp [ofValue, string, toValue] at native ⊢

theorem ofValue_inj (native : (ofValue v).type ≠ .string) (same : ofValue v = ofValue w) :
    v = w := by
  have back := toValue_ofValue native
  rw [same] at native back
  exact back.symm.trans (toValue_ofValue native)

end Cell

namespace Field

variable {records : List Document} {key : String} {row : Nat} {c : Cell}

theorem cell?_build_of_texts (texts : (ofRecords records key).build.type = .string)
    (inside : row < records.length) (given : records[row].cell? key = some c) :
    (ofRecords records key).build.cell? row = some (.string c.text) := by
  have type : (ofRecords records key).type = .string := texts
  rw [cell?_build_ofRecords inside, given, type, Option.map_some, Cell.shownIn]
  split
  case isTrue same =>
    obtain ⟨type, s⟩ := c
    obtain rfl : type = .string := same
    rfl
  case isFalse => rfl

end Field

/-- No two cells of one type have the same text, floats aside. So in a column of texts two rows
whose values have cells of one type show the same text only if these are the same cell, and the same
value if the cell is not itself a text. -/
theorem texts_merge_no_cells (records : List Document) :
    (∀ a b : Cell, a.type = b.type → a.type.isFloat = false → a.text = b.text → a = b) ∧
    ∀ column ∈ (Table.ofRecords records).columns, column.type = .string →
      ∀ (i j : Nat) (inside : i < records.length) (inside' : j < records.length) (v w : Value),
        records[i].last? column.name = some v → v ≠ .null →
        records[j].last? column.name = some w → w ≠ .null →
        (Cell.ofValue v).type = (Cell.ofValue w).type →
        (Cell.ofValue v).type.isFloat = false →
        column.cell? i = column.cell? j →
        Cell.ofValue v = Cell.ofValue w ∧ ((Cell.ofValue v).type ≠ .string → v = w) := by
  refine ⟨fun a b => Cell.eq_of_text, ?rows⟩
  intro column mem texts i j inside inside' v w givenV notNullV givenW notNullW types exact shown
  obtain ⟨key, -, rfl⟩ := Table.mem_columns_ofRecords.1 mem
  have cellV : records[i].cell? key = some (Cell.ofValue v) :=
    Document.cell?_eq_some_iff.2 ⟨v, givenV, notNullV, rfl⟩
  have cellW : records[j].cell? key = some (Cell.ofValue w) :=
    Document.cell?_eq_some_iff.2 ⟨w, givenW, notNullW, rfl⟩
  rw [Field.cell?_build_of_texts texts inside cellV,
    Field.cell?_build_of_texts texts inside' cellW] at shown
  have cells := Cell.eq_of_text types exact (Cell.string_inj.mp (Option.some.inj shown))
  exact ⟨cells, fun native => Cell.ofValue_inj native cells⟩

/-- The last millisecond of the year -1 and the first of the year 10000, beside a truth value. -/
def distant : List Document :=
  [[("t", .dateTime ⟨-62167219200001, by decide, by decide⟩)], [("t", .bool true)],
    [("t", .dateTime ⟨253402300800000, by decide, by decide⟩)]]

theorem texts_merge_no_cells_distant :
    ∃ column ∈ (Table.ofRecords distant).columns,
      column.type = .string ∧ column.cell? 0 ≠ column.cell? 2 := by
  have named : (Field.ofRecords distant "t").build ∈ (Table.ofRecords distant).columns :=
    Table.mem_columns_ofRecords.2 ⟨"t", by decide, rfl⟩
  have clash : (Field.ofRecords distant "t").build.type = .string := by decide
  refine ⟨_, named, clash, ?_⟩
  intro shown
  obtain ⟨-, rows⟩ := texts_merge_no_cells distant
  obtain ⟨-, same⟩ := rows _ named clash 0 2 (by decide) (by decide) _ _ rfl (by simp) rfl (by simp)
    rfl rfl shown
  have millis := same (by decide)
  simp at millis

end DocTable
