import DocTable.Proofs.Table.Rebuilding
import DocTable.Proofs.Table.Typing

/-!
# The builder between and within records

`TableBuilder.Consistent` is what holds of a builder whenever it has read some entries of a record,
and with none between two records. An entry of a record changes no row above it: `Field.Keeps` says
what a field keeps, and `TableBuilder.Keeps` goes from one entry to a record, a build and a run.
-/

namespace DocTable

/-! ## One field -/

namespace Field

variable {f g h : Field} {row rows rows' : Nat} {value : Value} {records : List Document}
  {current : Document}

/-- A later state of a field, which has the cells of its first rows unchanged. -/
structure Keeps (rows : Nat) (f g : Field) : Prop where
  name : g.name = f.name
  nullable : f.nullable = true → g.nullable = true
  cells : ∀ row < rows, ∀ c, f.cells[row]? = some c → g.cells[row]? = some c

theorem Keeps.refl (rows : Nat) (f : Field) : f.Keeps rows f := ⟨rfl, id, fun _ _ _ held => held⟩

theorem Keeps.trans (first : f.Keeps rows g) (second : g.Keeps rows' h) (le : rows ≤ rows') :
    f.Keeps rows h where
  name := second.name.trans first.name
  nullable once := second.nullable (first.nullable once)
  cells row inside c held :=
    second.cells row (Nat.lt_of_lt_of_le inside le) c (first.cells row inside c held)

theorem keeps_extendTo (size : Nat) : f.Keeps rows (f.extendTo size) := by
  rw [extendTo]
  split
  · refine ⟨rfl, fun _ => rfl, fun row _ c held => ?_⟩
    obtain ⟨inside, -⟩ := Array.getElem?_eq_some_iff.1 held
    rw [Array.getElem?_append_left inside]
    exact held
  · exact Keeps.refl rows f

theorem keeps_append : f.Keeps rows (f.append value) where
  name := rfl
  nullable once := by simp [append, noteNull, once]
  cells row _ c held := by
    obtain ⟨inside, -⟩ := Array.getElem?_eq_some_iff.1 held
    rw [append, Array.getElem?_push, if_neg (Nat.ne_of_lt inside)]
    exact held

theorem getElem?_replaceLast (size : f.cells.size = row + 1) (i : Nat) :
    (f.replaceLast value).cells[i]? = if i = row then some (cell? value) else f.cells[i]? := by
  have last : row < f.cells.size := by omega
  rw [replaceLast, size, Nat.add_sub_cancel, Array.getElem?_setIfInBounds]
  by_cases same : i = row
  · rw [if_pos same.symm, if_pos last, if_pos same]
  · rw [if_neg (Ne.symm same), if_neg same]

theorem keeps_replaceLast (long : rows < f.cells.size) : f.Keeps rows (f.replaceLast value) where
  name := rfl
  nullable once := by simp [replaceLast, noteNull, once]
  cells row inside c held := by
    have size : f.cells.size = (f.cells.size - 1) + 1 := by omega
    rw [getElem?_replaceLast size, if_neg (by omega)]
    exact held

theorem keeps_record (row : Nat) (value : Value) : f.Keeps row (f.record row value) := by
  rw [record]
  split
  case isTrue long => exact keeps_replaceLast long
  case isFalse => exact (keeps_extendTo row).trans keeps_append (Nat.le_refl row)

theorem Follows.size_le (h : f.Follows records current) : f.cells.size ≤ records.length + 1 := by
  cases h with
  | written => simp
  | waiting covers => simp [covers]; omega

theorem Follows.size_pos (h : f.Follows records current)
    (known : f.name ∈ Document.names (records ++ [current])) : 0 < f.cells.size := by
  cases h with
  | written => simp
  | @waiting key seen rest covers lacks =>
    -- the key came up, and it was not in the records that the field is yet to be padded for
    obtain ⟨d, mem, present⟩ := Document.mem_names.1 known
    rw [covers, List.append_assoc] at mem
    rcases List.mem_append.1 mem with early | late
    · rw [size_ofRecords]
      exact List.length_pos_of_mem early
    · exact absurd present (lacks d late)

theorem Follows.total (h : f.Follows records current) (dense : f.nullable = false) :
    none ∉ f.cells := by
  rw [← Array.mem_toList_iff]
  cases h with
  | written => exact total_ofRecords dense
  | waiting => exact total_ofRecords dense

end Field

/-! ## All fields -/

namespace TableBuilder

variable {b b' b'' : TableBuilder} {rows rows' i : Nat} {f : Field} {records : List Document}
  {current : Document}

/-- What holds of a builder that has read these entries of a record. -/
structure Consistent (b : TableBuilder) (read : Document) : Prop where
  indexed : b.Indexed
  nodup : b.names.Nodup
  size_pos : ∀ f ∈ b.fields, 0 < f.cells.size
  size_le : ∀ f ∈ b.fields, f.cells.size ≤ b.recordCount + 1
  reaches_iff : ∀ f ∈ b.fields, b.recordCount < f.cells.size ↔ f.name ∈ read.keys
  total : ∀ f ∈ b.fields, f.nullable = false → none ∉ f.cells

def Keeps (rows : Nat) (b b' : TableBuilder) : Prop :=
  ∀ (i : Nat) (f : Field), b.fields[i]? = some f → ∃ g, b'.fields[i]? = some g ∧ f.Keeps rows g

theorem Follows.consistent (h : b.Follows records current) : b.Consistent current where
  indexed := h.indexed
  nodup := h.names ▸ Document.nodup_names
  size_pos f mem := by
    have named : f.name ∈ b.names := List.mem_map_of_mem (Array.mem_toList_iff.2 mem)
    exact (h.fields f mem).size_pos (h.names ▸ named)
  size_le f mem := by
    rw [h.recordCount]
    exact (h.fields f mem).size_le
  reaches_iff f mem := by
    rw [h.recordCount]
    exact (h.fields f mem).size_lt_iff
  total f mem := (h.fields f mem).total

theorem Keeps.refl (rows : Nat) (b : TableBuilder) : b.Keeps rows b :=
  fun _ f at_i => ⟨f, at_i, Field.Keeps.refl rows f⟩

theorem Keeps.trans (first : b.Keeps rows b') (second : b'.Keeps rows' b'') (le : rows ≤ rows') :
    b.Keeps rows b'' := by
  intro i f at_i
  obtain ⟨g, at_i', kept⟩ := first i f at_i
  obtain ⟨h, at_i'', kept'⟩ := second i g at_i'
  exact ⟨h, at_i'', kept.trans kept' le⟩

/-! ## One entry -/

theorem Indexed.field_place (h : b.Indexed) (key : String) :
    ∃ f, (b.place key).1.fields[(b.place key).2]? = some f ∧ f.name = key := by
  have named := (h.place key key _).1 (h.index_place key)
  rw [names, List.getElem?_map, Option.map_eq_some_iff] at named
  obtain ⟨f, found, name⟩ := named
  exact ⟨f, by simpa using found, name⟩

theorem Indexed.getElem?_place (h : b.Indexed) (key : String) (at_i : b.fields[i]? = some f) :
    (b.place key).1.fields[i]? = some f := by
  rcases h.place_cases key with ⟨-, _, -, placed⟩ | ⟨-, placed⟩
  · rw [placed]
    exact at_i
  · obtain ⟨inside, -⟩ := Array.getElem?_eq_some_iff.1 at_i
    rw [placed, Array.getElem?_push, if_neg (Nat.ne_of_lt inside)]
    exact at_i

theorem Indexed.getElem?_processEntry (h : b.Indexed) (key : String) (value : Value)
    (at_i : b.fields[i]? = some f) :
    (b.processEntry (key, value)).fields[i]? =
      some (if f.name = key then f.record b.recordCount value else f) := by
  rw [h.fields_processEntry, Array.getElem?_map, h.getElem?_place key at_i]
  rfl

theorem Indexed.keeps_processEntry (h : b.Indexed) (entry : String × Value) :
    b.Keeps b.recordCount (b.processEntry entry) := by
  intro i f at_i
  refine ⟨_, h.getElem?_processEntry entry.1 entry.2 at_i, ?_⟩
  split
  · exact Field.keeps_record b.recordCount entry.2
  · exact Field.Keeps.refl b.recordCount f

/-! ## Records, padding, runs -/

theorem Follows.keeps_foldl (h : b.Follows records current) (entries : Document) :
    b.Keeps b.recordCount (entries.foldl TableBuilder.processEntry b) := by
  induction entries generalizing b current with
  | nil => exact Keeps.refl b.recordCount b
  | cons entry entries ih =>
    have next := h.processEntry entry.1 entry.2
    have count : b.recordCount = (b.processEntry entry).recordCount :=
      h.recordCount.trans next.recordCount.symm
    exact (h.indexed.keeps_processEntry entry).trans (ih next) (Nat.le_of_eq count)

theorem Follows.keeps_process (h : b.Follows records []) (record : Document) :
    b.Keeps b.recordCount (b.process record) :=
  h.keeps_foldl record

theorem keeps_pad : b.Keeps rows b.pad := by
  intro i f at_i
  refine ⟨f.extendTo b.recordCount, ?_, Field.keeps_extendTo b.recordCount⟩
  rw [pad, Array.getElem?_map, at_i]
  rfl

theorem Follows.keeps_run (h : b.Follows records []) (steps : List Step) :
    b.Keeps b.recordCount (b.run steps).2 := by
  induction steps generalizing b records with
  | nil => exact Keeps.refl b.recordCount b
  | cons s steps ih =>
    cases s with
    | process record =>
      have next := h.process record
      have count : b.recordCount ≤ (b.process record).recordCount := by
        simp [h.recordCount, next.recordCount]
      exact (h.keeps_process record).trans (ih next) count
    | build => exact keeps_pad.trans (ih h.pad) (Nat.le_refl _)

/-- After records and builds in any order, a builder is consistent, no field has cells for more rows
than there are records, and whatever follows leaves all cells where they are and every nullable
field nullable. While it reads the next record, whose row is the number of the records before it,
only fields of keys that this record has given reach that row. So a key that comes again has its
value put into that row, and no entry changes a row above it or another field. -/
theorem consistency_kept (steps : List Step) :
    let b := (empty.run steps).2
    b.Consistent [] ∧
    (∀ f ∈ b.fields, f.cells.size ≤ b.recordCount) ∧
    (∀ later : List Step, b.Keeps b.recordCount (b.run later).2) ∧
    ∀ read : Document,
      let m := read.foldl processEntry b
      m.recordCount = b.recordCount ∧
      m.Consistent read ∧
      (∀ f ∈ m.fields, m.recordCount < f.cells.size →
        f.name ∈ read.keys ∧ f.cells.size = m.recordCount + 1 ∧
        ∀ value i, (f.replaceLast value).cells[i]? =
          if i = m.recordCount then some (Field.cell? value) else f.cells[i]?) ∧
      ∀ key value,
        (∃ f, (m.place key).1.fields[(m.place key).2]? = some f ∧ f.name = key) ∧
        m.Keeps m.recordCount (m.processEntry (key, value)) ∧
        ∀ (i : Nat) (f : Field), m.fields[i]? = some f → f.name ≠ key →
          (m.processEntry (key, value)).fields[i]? = some f := by
  intro b
  obtain ⟨-, follows⟩ := empty_follows.run steps
  have between := follows.consistent
  refine ⟨between, fun f mem => ?sizes, fun later => follows.keeps_run later, fun read => ?within⟩
  case sizes =>
    have none : f.name ∉ Document.keys [] := List.not_mem_nil
    exact Nat.le_of_not_lt (mt (between.reaches_iff f mem).1 none)
  case within =>
    intro m
    have reading : m.Follows _ read := follows.foldl read
    have within := reading.consistent
    refine ⟨reading.recordCount.trans follows.recordCount.symm, within, fun f mem long => ?_,
      fun key value => ⟨within.indexed.field_place key,
        within.indexed.keeps_processEntry (key, value), fun i f at_i other => ?_⟩⟩
    · have size : f.cells.size = m.recordCount + 1 := Nat.le_antisymm (within.size_le f mem) long
      exact ⟨(within.reaches_iff f mem).1 long, size, fun _ => Field.getElem?_replaceLast size⟩
    · rw [within.indexed.getElem?_processEntry key value at_i, if_neg other]

/-- The third record gives a key again that the second lacked, and then once more. -/
theorem consistency_kept_revisited :
    let m := List.foldl processEntry (empty.run interrupted).2 [("b", .null)]
    (∃ f ∈ m.fields, f.name = "b" ∧ f.cells.size = 3 ∧
      (f.replaceLast (.int32 3)).cells[1]? = f.cells[1]?) ∧
    ∃ f, m.fields[0]? = some f ∧ (m.processEntry ("b", .int32 3)).fields[0]? = some f := by
  intro m
  obtain ⟨-, follows⟩ := empty_follows.run interrupted
  have reading : m.Follows _ [("b", .null)] := follows.foldl [("b", .null)]
  have count : m.recordCount = 2 := reading.recordCount
  have names : m.names = ["a", "b"] := by
    rw [reading.names]
    decide
  obtain ⟨-, -, -, within⟩ := consistency_kept interrupted
  obtain ⟨-, consistent, last, next⟩ := within [("b", .null)]
  constructor
  · have named : "b" ∈ m.names := by simp [names]
    obtain ⟨f, mem, name⟩ := List.mem_map.1 named
    have mem := Array.mem_toList_iff.1 mem
    have long : m.recordCount < f.cells.size := by
      apply (consistent.reaches_iff f mem).mpr
      rw [name]
      exact List.mem_singleton_self "b"
    obtain ⟨-, size, replaced⟩ := last f mem long
    refine ⟨f, mem, name, by rw [size, count], ?_⟩
    rw [replaced, if_neg (by omega)]
  · have first : m.names[0]? = some "a" := by rw [names]; rfl
    rw [TableBuilder.names, List.getElem?_map, Option.map_eq_some_iff] at first
    obtain ⟨f, found, name⟩ := first
    obtain ⟨-, -, others⟩ := next "b" (.int32 3)
    have found : m.fields[0]? = some f := by simpa using found
    exact ⟨f, found, others 0 f found (by simp [name])⟩

end TableBuilder

end DocTable
