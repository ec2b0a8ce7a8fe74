import DocTable.Table.Builder
import Mathlib.Data.List.Induction
import Mathlib.Data.List.Nodup

/-!
# Records read column by column

A table has a column for every key of its records, in the order in which the keys first come up,
and in each column a cell for every record. Here that is written down without a builder:
`Document.last?` is the value that counts for a key, `Document.names` lists the keys, and
`Field.ofRecords` is the finished field of one key. The lemmas say how these grow when a record
gets one more entry.
-/

namespace DocTable

namespace Document

def keys (d : Document) : List String := d.map Prod.fst

def last? (d : Document) (key : String) : Option Value := Document.get? d.reverse key

def names (records : List Document) : List String := (records.flatMap keys).eraseDups

def cell? (d : Document) (key : String) : Option Cell := (d.last? key).bind Field.cell?

/-- A record leaves a gap where it lacks the key or gives null for it, even if another value of
the key follows. -/
def hasGap (d : Document) (key : String) : Bool :=
  (d.last? key).isNone || d.any fun e => e.1 == key && (Field.cell? e.2).isNone

/-- Some record gives this cell for the key: it is that of the key's last value there, which is
not null. -/
def Present (records : List Document) (key : String) (c : Cell) : Prop :=
  ∃ d ∈ records, ∃ v, d.last? key = some v ∧ v ≠ .null ∧ c = Cell.ofValue v

variable {d : Document} {records : List Document} {key name : String} {value : Value} {c : Cell}

/-! ## One record -/

theorem keys_concat : keys (d ++ [(name, value)]) = d.keys ++ [name] := by
  simp [keys]

theorem last?_concat :
    last? (d ++ [(name, value)]) key = if name = key then some value else d.last? key := by
  by_cases h : name = key <;> simp [last?, Document.get?, Entries.get?, h]

theorem last?_eq_none_iff : d.last? key = none ↔ key ∉ d.keys := by
  simp only [last?, Document.get?, Entries.get?, Option.map_eq_none_iff, List.find?_eq_none,
    List.mem_reverse, beq_iff_eq, keys, List.mem_map, not_exists, not_and]

theorem cell?_concat :
    cell? (d ++ [(name, value)]) key = if name = key then Field.cell? value else d.cell? key := by
  rw [cell?, last?_concat]
  split <;> rfl

theorem cell?_of_not_mem (absent : key ∉ d.keys) : d.cell? key = none := by
  rw [cell?, last?_eq_none_iff.2 absent]
  rfl

theorem hasGap_of_not_mem (absent : key ∉ d.keys) : d.hasGap key = true := by
  simp [hasGap, last?_eq_none_iff.2 absent]

theorem hasGap_concat_ne (h : name ≠ key) :
    hasGap (d ++ [(name, value)]) key = d.hasGap key := by
  have other : (name == key) = false := beq_false_of_ne h
  simp [hasGap, last?_concat, h, other]

theorem hasGap_concat_of_mem (present : key ∈ d.keys) :
    hasGap (d ++ [(key, value)]) key = (d.hasGap key || (Field.cell? value).isNone) := by
  have given : (d.last? key).isNone = false := by
    rw [Option.isNone_eq_false_iff, Option.isSome_iff_ne_none]
    exact fun h => last?_eq_none_iff.1 h present
  simp [hasGap, last?_concat, given]

theorem hasGap_concat_of_not_mem (absent : key ∉ d.keys) :
    hasGap (d ++ [(key, value)]) key = (Field.cell? value).isNone := by
  have unnamed : ∀ e ∈ d, e.1 ≠ key := fun e mem h => absent (List.mem_map.2 ⟨e, mem, h⟩)
  have : (d.any fun e => e.1 == key && (Field.cell? e.2).isNone) = false := by
    simp only [List.any_eq_false, Bool.and_eq_true, beq_iff_eq, not_and]
    exact fun e mem h => absurd h (unnamed e mem)
  simp [hasGap, last?_concat, this]

theorem cell?_value_eq_none_iff : Field.cell? value = none ↔ value = .null := by
  cases value <;> simp [Field.cell?]

theorem hasGap_iff : d.hasGap key = true ↔ key ∉ d.keys ∨ (key, Value.null) ∈ d := by
  have nulls : (d.any fun e => e.1 == key && (Field.cell? e.2).isNone) = true ↔
      (key, Value.null) ∈ d := by
    simp only [List.any_eq_true, Bool.and_eq_true, beq_iff_eq, Option.isNone_iff_eq_none,
      cell?_value_eq_none_iff]
    constructor
    · rintro ⟨⟨k, v⟩, mem, rfl, rfl⟩
      exact mem
    · intro mem
      exact ⟨_, mem, rfl, rfl⟩
  rw [hasGap, Bool.or_eq_true, nulls, Option.isNone_iff_eq_none, last?_eq_none_iff]

theorem cell?_value_of_ne {v : Value} (h : v ≠ .null) : Field.cell? v = some (Cell.ofValue v) := by
  cases v <;> first | rfl | exact absurd rfl h

theorem cell?_eq_some_iff :
    d.cell? key = some c ↔ ∃ v, d.last? key = some v ∧ v ≠ .null ∧ c = Cell.ofValue v := by
  rw [cell?, Option.bind_eq_some_iff]
  refine exists_congr fun v => and_congr_right fun _ => ?_
  by_cases null : v = .null
  · simp [null, Field.cell?]
  · simp [null, cell?_value_of_ne null, eq_comm]

theorem cell?_eq_none_iff :
    d.cell? key = none ↔ d.last? key = none ∨ d.last? key = some .null := by
  rw [cell?]
  cases d.last? key with
  | none => simp
  | some v => simp [cell?_value_eq_none_iff]

theorem mem_of_last? {v : Value} (h : d.last? key = some v) : (key, v) ∈ d := by
  obtain ⟨entry, found, rfl⟩ := Option.map_eq_some_iff.1 h
  have same : entry.1 = key := by simpa using List.find?_some found
  rw [← same]
  exact List.mem_reverse.1 (List.mem_of_find?_eq_some found)

theorem hasGap_of_cell?_eq_none (h : d.cell? key = none) : d.hasGap key = true := by
  rcases cell?_eq_none_iff.1 h with lacks | null
  · exact hasGap_of_not_mem (last?_eq_none_iff.1 lacks)
  · exact hasGap_iff.2 (.inr (mem_of_last? null))

/-! ## The names of all keys -/

theorem mem_names : key ∈ names records ↔ ∃ d ∈ records, key ∈ d.keys := by
  simp [names, List.mem_eraseDups]

theorem names_concat_nil : names (records ++ [[]]) = names records := by
  simp [names, keys]

theorem eraseDups_concat (l : List String) (a : String) :
    (l ++ [a]).eraseDups = if a ∈ l then l.eraseDups else l.eraseDups ++ [a] := by
  rw [List.eraseDups_append]
  split <;> simp_all [List.removeAll, List.eraseDups_cons]

theorem nodup_eraseDups (l : List String) : l.eraseDups.Nodup := by
  induction l using List.reverseRecOn with
  | nil => exact List.nodup_nil
  | append_singleton l a ih =>
    rw [eraseDups_concat]
    split
    · exact ih
    · rename_i absent
      have fresh : a ∉ l.eraseDups := fun mem => absent (List.mem_eraseDups.1 mem)
      rw [← List.concat_eq_append]
      exact List.Nodup.concat fresh ih

theorem nodup_names : (names records).Nodup := nodup_eraseDups _

theorem names_concat_concat :
    names (records ++ [d ++ [(key, value)]]) =
      if key ∈ names (records ++ [d]) then names (records ++ [d])
      else names (records ++ [d]) ++ [key] := by
  have grown : (records ++ [d ++ [(key, value)]]).flatMap keys =
      (records ++ [d]).flatMap keys ++ [key] := by
    simp [keys]
  rw [names, grown, eraseDups_concat]
  simp only [names, List.mem_eraseDups]

end Document

/-! ## The field of one key -/

namespace Field

variable {records seen rest : List Document} {d : Document} {key name : String} {value : Value}

def ofRecords (records : List Document) (key : String) : Field :=
  ⟨key, records.any (·.hasGap key), (records.map (·.cell? key)).toArray⟩

@[simp] theorem name_ofRecords : (ofRecords records key).name = key := rfl

@[simp] theorem size_ofRecords : (ofRecords records key).cells.size = records.length := by
  simp [ofRecords]

theorem extendTo_ofRecords (lacks : ∀ d ∈ rest, key ∉ d.keys) :
    (ofRecords seen key).extendTo (seen ++ rest).length = ofRecords (seen ++ rest) key := by
  have absent : rest.map (·.cell? key) = List.replicate rest.length none := by
    refine List.eq_replicate_iff.2 ⟨List.length_map _, fun c mem => ?_⟩
    obtain ⟨d, held, rfl⟩ := List.mem_map.1 mem
    exact Document.cell?_of_not_mem (lacks d held)
  cases rest with
  | nil => simp [extendTo]
  | cons d rest =>
    -- a record that lacks the key is itself a gap, so the flag agrees as well
    have gap : (d :: rest).any (·.hasGap key) = true :=
      List.any_eq_true.2 ⟨d, by simp, Document.hasGap_of_not_mem (lacks d (by simp))⟩
    rw [extendTo, if_pos (by simp)]
    simp only [ofRecords, List.any_append, gap, Bool.or_true, List.map_append, absent]
    simp

theorem append_ofRecords (absent : key ∉ d.keys) :
    (ofRecords records key).append value = ofRecords (records ++ [d ++ [(key, value)]]) key := by
  simp [append, noteNull, ofRecords, Document.cell?_concat,
    Document.hasGap_concat_of_not_mem absent]

theorem replaceLast_ofRecords (present : key ∈ d.keys) :
    (ofRecords (records ++ [d]) key).replaceLast value =
      ofRecords (records ++ [d ++ [(key, value)]]) key := by
  simp [replaceLast, noteNull, ofRecords, Document.cell?_concat,
    Document.hasGap_concat_of_mem present, Bool.or_assoc]

theorem ofRecords_concat_ne (other : name ≠ key) :
    ofRecords (records ++ [d ++ [(name, value)]]) key = ofRecords (records ++ [d]) key := by
  simp [ofRecords, Document.cell?_concat, Document.hasGap_concat_ne other, other]

end Field

end DocTable
