import DocTable.Proofs.Table.Columnwise

/-!
# What a builder holds

`TableBuilder.Follows` says how a builder stands to the records that it has taken in and to the
part of the current record that it has read. `Follows.processEntry` keeps it over one entry,
`Follows.process` over a record, `Follows.pad` over a build, and `Follows.build` reads the table
off it: every field is then the finished field of its key.
-/

namespace DocTable

namespace Field

/-- How a field stands to the finished records and to what was read of the current one. A field
is padded late, so it may end before any number of records that lack its key. -/
inductive Follows (records : List Document) (current : Document) : Field → Prop where
  | written {key : String} (present : key ∈ current.keys) :
    Follows records current (ofRecords (records ++ [current]) key)
  | waiting {key : String} {seen rest : List Document} (covers : records = seen ++ rest)
      (lacks : ∀ d ∈ rest ++ [current], key ∉ d.keys) :
    Follows records current (ofRecords seen key)

variable {f : Field} {records : List Document} {current : Document} {name : String} {value : Value}

theorem Follows.size_lt_iff (h : f.Follows records current) :
    records.length < f.cells.size ↔ f.name ∈ current.keys := by
  cases h with
  | written present => simpa using present
  | @waiting key seen rest covers lacks =>
    have absent : key ∉ current.keys := lacks current (by simp)
    simp [covers, absent]

theorem Follows.record (h : f.Follows records current) (value : Value) :
    f.record records.length value =
      ofRecords (records ++ [current ++ [(f.name, value)]]) f.name := by
  -- the length tells whether the current record has given the key before
  have long := h.size_lt_iff
  rw [Field.record]
  cases h with
  | written present => rw [if_pos (long.2 present), replaceLast_ofRecords present, name_ofRecords]
  | @waiting key seen rest covers lacks =>
    have absent : key ∉ current.keys := lacks current (by simp)
    rw [if_neg fun h => absent (long.1 h), covers,
      extendTo_ofRecords fun d mem => lacks d (List.mem_append_left _ mem),
      append_ofRecords absent, name_ofRecords]

theorem Follows.other (h : f.Follows records current) (ne : name ≠ f.name) :
    f.Follows records (current ++ [(name, value)]) := by
  cases h with
  | @written key present =>
    have same : ofRecords (records ++ [current]) key =
        ofRecords (records ++ [current ++ [(name, value)]]) key := (ofRecords_concat_ne ne).symm
    rw [same]
    exact .written (by simp [Document.keys_concat, present])
  | @waiting key seen rest covers lacks =>
    refine .waiting covers fun d mem => ?_
    rcases List.mem_append.1 mem with old | last
    · exact lacks d (List.mem_append_left _ old)
    · have absent : key ∉ current.keys := lacks current (by simp)
      rw [List.mem_singleton.1 last, Document.keys_concat]
      simpa [absent] using ne.symm

theorem Follows.finish (h : f.Follows records current) : f.Follows (records ++ [current]) [] := by
  cases h with
  | written present => exact .waiting (List.append_nil _).symm (by simp [Document.keys])
  | @waiting key seen rest covers lacks =>
    have longer : records ++ [current] = seen ++ (rest ++ [current]) := by simp [covers]
    refine .waiting longer fun d mem => ?_
    rcases List.mem_append.1 mem with old | last
    · exact lacks d old
    · simp [List.mem_singleton.1 last, Document.keys]

theorem Follows.extendTo (h : f.Follows records []) :
    f.extendTo records.length = ofRecords records f.name := by
  cases h with
  | written present => simp [Document.keys] at present
  | waiting covers lacks =>
    rw [covers, extendTo_ofRecords fun d mem => lacks d (List.mem_append_left _ mem),
      name_ofRecords]

theorem follows_ofRecords : (ofRecords records name).Follows records [] :=
  .waiting (List.append_nil _).symm (by simp [Document.keys])

@[simp] theorem name_record (row : Nat) : (f.record row value).name = f.name := by
  simp only [record, replaceLast, append, extendTo, noteNull]
  split
  · rfl
  · split <;> rfl

end Field

namespace TableBuilder

variable {b : TableBuilder} {records : List Document} {current : Document} {key : String}
  {value : Value}

def names (b : TableBuilder) : List String := b.fields.toList.map Field.name

/-- The index holds the place of every field under its name, and nothing else. -/
def Indexed (b : TableBuilder) : Prop :=
  ∀ (key : String) (i : Nat), b.index[key]? = some i ↔ b.names[i]? = some key

structure Follows (b : TableBuilder) (records : List Document) (current : Document) : Prop where
  recordCount : b.recordCount = records.length
  names : b.names = Document.names (records ++ [current])
  indexed : b.Indexed
  fields : ∀ f ∈ b.fields, f.Follows records current

/-! ## Finding or making the field of a key -/

theorem Indexed.place_cases (h : b.Indexed) (key : String) :
    (key ∈ b.names ∧ ∃ i, b.index[key]? = some i ∧ b.place key = (b, i)) ∨
    (key ∉ b.names ∧ b.place key =
      ({ b with fields := b.fields.push (.empty key), index := b.index.insert key b.fields.size },
        b.fields.size)) := by
  cases found : b.index[key]? with
  | some i =>
    have mem : key ∈ b.names := List.mem_of_getElem? ((h key i).1 found)
    exact .inl ⟨mem, i, rfl, by simp [place, found]⟩
  | none =>
    refine .inr ⟨fun mem => ?_, by simp [place, found]⟩
    obtain ⟨i, at_i⟩ := List.getElem?_of_mem mem
    rw [(h key i).2 at_i] at found
    cases found

theorem names_push (f : Field) (index : Std.HashMap String Nat) :
    names { b with fields := b.fields.push f, index } = b.names ++ [f.name] := by
  simp [names]

theorem Indexed.push (h : b.Indexed) (new : key ∉ b.names) :
    Indexed { b with
      fields := b.fields.push (.empty key), index := b.index.insert key b.fields.size } := by
  intro k i
  have size : b.fields.size = b.names.length := by simp [names]
  rw [names_push, Std.HashMap.getElem?_insert, size, List.getElem?_append]
  by_cases same : key = k
  · subst same
    have absent : b.names[i]? ≠ some key := fun found => new (List.mem_of_getElem? found)
    simp only [beq_self_eq_true, if_true, Option.some.injEq]
    split
    · exact ⟨fun e => by omega, fun found => absurd found absent⟩
    · simp [Field.empty, List.getElem?_singleton]
      omega
  · simp only [beq_iff_eq, same, if_false]
    rw [h k i]
    split
    · rfl
    · next outside =>
      simp only [List.getElem?_eq_none (Nat.le_of_not_lt outside), List.getElem?_singleton]
      split <;> simp [Field.empty, same]

theorem Indexed.place (h : b.Indexed) (key : String) : (b.place key).1.Indexed := by
  rcases h.place_cases key with ⟨-, i, -, placed⟩ | ⟨new, placed⟩
  · rw [placed]; exact h
  · rw [placed]; exact h.push new

theorem Indexed.index_place (h : b.Indexed) (key : String) :
    (b.place key).1.index[key]? = some (b.place key).2 := by
  rcases h.place_cases key with ⟨-, i, found, placed⟩ | ⟨-, placed⟩
  · rw [placed]; exact found
  · rw [placed]; exact Std.HashMap.getElem?_insert_self

theorem Indexed.names_place (h : b.Indexed) (key : String) :
    (b.place key).1.names = if key ∈ b.names then b.names else b.names ++ [key] := by
  rcases h.place_cases key with ⟨old, i, -, placed⟩ | ⟨new, placed⟩
  · rw [placed, if_pos old]
  · rw [placed, if_neg new, names_push]
    rfl

theorem Indexed.modify (h : b.Indexed) {i : Nat} (found : b.index[key]? = some i)
    (change : Field → Field) :
    b.fields.modify i change = b.fields.map fun f => if f.name = key then change f else f := by
  refine Array.ext_getElem? fun j => ?_
  rw [Array.getElem?_modify, Array.getElem?_map]
  cases at_j : b.fields[j]? with
  | none => simp
  | some f =>
    have named : b.names[j]? = some f.name := by simp [names, at_j]
    have at_name := (h f.name j).2 named
    by_cases same : f.name = key
    · have place : i = j := by
        rw [same, found] at at_name
        exact Option.some.inj at_name
      simp [place, same]
    · have elsewhere : i ≠ j := by
        rintro rfl
        exact same (Option.some.inj (((h key i).1 found) ▸ named)).symm
      simp [elsewhere, same]

/-! ## One entry -/

theorem Indexed.fields_processEntry (h : b.Indexed) (key : String) (value : Value) :
    (b.processEntry (key, value)).fields = (b.place key).1.fields.map fun f =>
      if f.name = key then f.record b.recordCount value else f := by
  have count : (b.place key).1.recordCount = b.recordCount := by
    rcases h.place_cases key with ⟨-, i, -, placed⟩ | ⟨-, placed⟩ <;> rw [placed]
  rw [← (h.place key).modify (h.index_place key)]
  simp only [processEntry, count]

theorem Indexed.names_processEntry (h : b.Indexed) (key : String) (value : Value) :
    (b.processEntry (key, value)).names = (b.place key).1.names := by
  rw [names, h.fields_processEntry, names, Array.toList_map, List.map_map]
  refine List.map_congr_left fun f _ => ?_
  rw [Function.comp_apply]
  split <;> simp

theorem Indexed.processEntry (h : b.Indexed) (entry : String × Value) :
    (b.processEntry entry).Indexed := by
  intro key i
  rw [h.names_processEntry entry.1 entry.2, ← h.place entry.1 key i]
  rfl

theorem Follows.place (h : b.Follows records current) (key : String) :
    ∀ f ∈ (b.place key).1.fields, f.Follows records current := by
  rcases h.indexed.place_cases key with ⟨-, i, -, placed⟩ | ⟨new, placed⟩
  · rw [placed]; exact h.fields
  · rw [placed]
    intro f mem
    rcases Array.mem_push.1 mem with old | rfl
    · exact h.fields f old
    · rw [h.names, Document.mem_names] at new
      exact .waiting (List.nil_append _).symm fun d mem present => new ⟨d, mem, present⟩

theorem Follows.processEntry (h : b.Follows records current) (key : String) (value : Value) :
    (b.processEntry (key, value)).Follows records (current ++ [(key, value)]) where
  recordCount := by
    rcases h.indexed.place_cases key with ⟨-, i, -, placed⟩ | ⟨-, placed⟩ <;>
      simp only [TableBuilder.processEntry, placed] <;> exact h.recordCount
  names := by
    rw [h.indexed.names_processEntry, h.indexed.names_place, h.names,
      Document.names_concat_concat]
  indexed := h.indexed.processEntry (key, value)
  fields := by
    intro f mem
    rw [h.indexed.fields_processEntry] at mem
    obtain ⟨g, held, rfl⟩ := Array.mem_map.1 mem
    have follows := h.place key g held
    split
    · next same =>
      rw [h.recordCount, follows.record, same]
      exact .written (by simp [Document.keys_concat])
    · next other => exact follows.other fun e => other e.symm

/-! ## Records, padding, building -/

theorem Follows.foldl (h : b.Follows records current) (entries : Document) :
    (entries.foldl TableBuilder.processEntry b).Follows records (current ++ entries) := by
  induction entries generalizing b current with
  | nil => simpa using h
  | cons entry entries ih =>
    have step := h.processEntry entry.1 entry.2
    simpa using ih step

theorem Follows.process (h : b.Follows records []) (record : Document) :
    (b.process record).Follows (records ++ [record]) [] := by
  have read : (record.foldl TableBuilder.processEntry b).Follows records record := by
    simpa using h.foldl record
  exact {
    recordCount := by simp [TableBuilder.process, read.recordCount]
    names := by
      rw [Document.names_concat_nil]
      exact read.names
    indexed := read.indexed
    fields := fun f mem => (read.fields f mem).finish }

theorem empty_follows : empty.Follows [] [] where
  recordCount := rfl
  names := rfl
  indexed := fun key i => by simp [empty, names]
  fields := fun f mem => by simp [empty] at mem

theorem Follows.foldl_process (h : b.Follows records []) (more : List Document) :
    (more.foldl TableBuilder.process b).Follows (records ++ more) [] := by
  induction more generalizing b records with
  | nil => simpa using h
  | cons record more ih => simpa using ih (h.process record)

theorem Follows.fields_pad (h : b.Follows records []) :
    b.pad.fields.toList = (Document.names records).map (Field.ofRecords records) := by
  have names : b.fields.toList.map Field.name = Document.names records :=
    h.names.trans Document.names_concat_nil
  rw [← names, List.map_map, pad, Array.toList_map]
  refine List.map_congr_left fun f mem => ?_
  rw [h.recordCount]
  exact (h.fields f (Array.mem_toList_iff.1 mem)).extendTo

theorem Follows.names_pad (h : b.Follows records []) : b.pad.names = b.names := by
  rw [TableBuilder.names, h.fields_pad, List.map_map, h.names, Document.names_concat_nil]
  exact List.map_id _

theorem Follows.pad (h : b.Follows records []) : b.pad.Follows records [] where
  recordCount := h.recordCount
  names := h.names_pad.trans h.names
  indexed := fun key i => by
    rw [h.names_pad]
    exact h.indexed key i
  fields := by
    intro f mem
    rw [← Array.mem_toList_iff, h.fields_pad] at mem
    obtain ⟨name, -, rfl⟩ := List.mem_map.1 mem
    exact Field.follows_ofRecords

theorem Follows.build (h : b.Follows records []) :
    b.build.1 = ⟨(Document.names records).map fun key => (Field.ofRecords records key).build⟩ := by
  rw [TableBuilder.build, h.fields_pad, List.map_map]
  rfl

end TableBuilder

theorem Table.columns_ofRecords (records : List Document) :
    (Table.ofRecords records).columns =
      (Document.names records).map fun key => (Field.ofRecords records key).build := by
  rw [Table.ofRecords, (TableBuilder.empty_follows.foldl_process records).build, List.nil_append]

end DocTable
