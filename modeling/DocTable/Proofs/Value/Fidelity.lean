import DocTable.Proofs.Entries
import DocTable.Value.Bson

/-!
# Fidelity towards the store

A value of the store that is read and sent back is the same, unless a part of it is of a kind that
values do not have. What is sent to the store has no such part, so reading it and sending it back
changes nothing.
-/

namespace DocTable

namespace Bson

/-- The kinds that are read as something else, a date out of reach among them. -/
def isForeign : Bson → Bool
  | .code _ => true
  | .codeWithScope _ _ => true
  | .symbol _ => true
  | .timestamp _ _ => true
  | .minKey => true
  | .maxKey => true
  | .dbPointer _ _ => true
  | .dateTime millis => (Instant.ofMillis? millis.toInt).isNone
  | _ => false

/-- A part of a value, at any depth; each value is a part of itself. -/
inductive Part : Bson → Bson → Prop
  | self (b : Bson) : Part b b
  | item {part item : Bson} {items : List Bson} : item ∈ items → Part part item →
      Part part (.array items)
  | entry {part : Bson} {entry : String × Bson} {entries : List (String × Bson)} :
      entry ∈ entries → Part part entry.2 → Part part (.document entries)
  | scope {part : Bson} {text : String} {entry : String × Bson} {scope : List (String × Bson)} :
      entry ∈ scope → Part part entry.2 → Part part (.codeWithScope text scope)

def Everywhere (p : Bson → Prop) (b : Bson) : Prop := ∀ part, Part part b → p part

/-- Each document has each of its keys once, as documents of the store do. -/
def DistinctKeys : Bson → Prop :=
  Everywhere fun part => ∀ entries, part = .document entries → (Entries.names entries).Nodup

def Native : Bson → Prop := Everywhere fun part => part.isForeign = false

/-! ## Parts -/

variable {p : Bson → Prop} {b : Bson} {items : List Bson} {entries : List (String × Bson)}

theorem Everywhere.self (h : b.Everywhere p) : p b := h b (.self b)

theorem everywhere_array :
    (array items).Everywhere p ↔ p (.array items) ∧ ∀ b ∈ items, b.Everywhere p := by
  constructor
  · exact fun h => ⟨h.self, fun b mem part inside => h part (.item mem inside)⟩
  · rintro ⟨own, inner⟩ part (_ | ⟨mem, inside⟩)
    · exact own
    · exact inner _ mem part inside

theorem everywhere_document :
    (document entries).Everywhere p ↔
      p (.document entries) ∧ ∀ e ∈ entries, e.2.Everywhere p := by
  constructor
  · exact fun h => ⟨h.self, fun e mem part inside => h part (.entry mem inside)⟩
  · rintro ⟨own, inner⟩ part (_ | _ | ⟨mem, inside⟩)
    · exact own
    · exact inner _ mem part inside

theorem distinctKeys_array : (array items).DistinctKeys ↔ ∀ b ∈ items, b.DistinctKeys := by
  simp [DistinctKeys, everywhere_array]

theorem native_array : (array items).Native ↔ ∀ b ∈ items, b.Native := by
  simp [Native, everywhere_array, isForeign]

theorem distinctKeys_document :
    (document entries).DistinctKeys ↔
      (Entries.names entries).Nodup ∧ ∀ e ∈ entries, e.2.DistinctKeys := by
  simp [DistinctKeys, everywhere_document]

theorem native_document : (document entries).Native ↔ ∀ e ∈ entries, e.2.Native := by
  simp [Native, everywhere_document, isForeign]

/-- The values that no other value is a part of. -/
def isLeaf : Bson → Bool
  | .array _ => false
  | .document _ => false
  | .codeWithScope _ _ => false
  | _ => true

theorem everywhere_of_isLeaf (leaf : b.isLeaf = true) (own : p b) : b.Everywhere p := by
  intro part inside
  cases inside with
  | self => exact own
  | item => cases leaf
  | entry => cases leaf
  | scope => cases leaf

theorem faithful_of_isLeaf (leaf : b.isLeaf = true) (native : b.isForeign = false) :
    b.DistinctKeys ∧ b.Native := by
  refine ⟨everywhere_of_isLeaf leaf ?_, everywhere_of_isLeaf leaf native⟩
  rintro entries rfl
  cases leaf

end Bson

namespace Instant

theorem ofMillis?_millis (t : Instant) : ofMillis? t.millis = some t := by
  rw [ofMillis?, dif_pos ⟨t.least_le, t.le_greatest⟩]

theorem millis_of_ofMillis? {millis : Int} {t : Instant} (h : ofMillis? millis = some t) :
    t.millis = millis := by
  unfold ofMillis? at h
  split at h
  · rw [← Option.some.inj h]
  · cases h

theorem toInt_ofInt_millis (t : Instant) : (Int64.ofInt t.millis).toInt = t.millis := by
  have := t.least_le
  have := t.le_greatest
  exact Int64.toInt_ofInt_of_le (by omega) (by omega)

end Instant

namespace Value

/-! ## There and back -/

theorem names_toBsonEntries_ofBsonEntries (entries : List (String × Bson)) :
    Entries.names (toBsonEntries (ofBsonEntries entries)) = Entries.names entries := by
  induction entries with
  | nil => rfl
  | cons e entries ih =>
    rw [ofBsonEntries, toBsonEntries, Entries.names, List.map_cons, ← Entries.names, ih]
    rfl

theorem collapse_eq_iff {entries : List (String × Bson)} :
    Entries.collapse (toBsonEntries (ofBsonEntries entries)) = entries ↔
      (Entries.names entries).Nodup ∧ toBsonEntries (ofBsonEntries entries) = entries := by
  constructor
  · intro h
    have distinct : (Entries.names entries).Nodup := h ▸ Entries.nodup_collapse _
    rw [← names_toBsonEntries_ofBsonEntries] at distinct
    rw [Entries.collapse_eq_self distinct] at h
    exact ⟨h ▸ distinct, h⟩
  · rintro ⟨distinct, h⟩
    rw [h, Entries.collapse_eq_self distinct]

theorem toBson_ofBson_dateTime (millis : Int64) :
    (ofBson (.dateTime millis)).toBson = .dateTime millis ↔
      (Bson.dateTime millis).isForeign = false := by
  rw [ofBson, Bson.isForeign]
  cases reach : Instant.ofMillis? millis.toInt with
  | none => exact iff_of_false nofun nofun
  | some t =>
    refine iff_of_true ?_ rfl
    rw [toBson, Instant.millis_of_ofMillis? reach, Int64.ofInt_toInt]

mutual

theorem toBson_ofBson_iff : (b : Bson) →
    ((ofBson b).toBson = b ↔ b.DistinctKeys ∧ b.Native)
  | .array items => by
    rw [ofBson, toBson, Bson.array.injEq, toItems_ofItems_iff items, Bson.distinctKeys_array,
      Bson.native_array, forall₂_and]
  | .document entries => by
    rw [ofBson, toBson, Bson.document.injEq, collapse_eq_iff,
      toBsonEntries_ofBsonEntries_iff entries, Bson.distinctKeys_document, Bson.native_document,
      forall₂_and, and_assoc]
  | .dateTime millis => by
    rw [toBson_ofBson_dateTime]
    exact ⟨Bson.faithful_of_isLeaf rfl, fun h => h.2.self⟩
  | .null | .undefined | .boolean _ | .int32 _ | .int64 _ | .double _ | .decimal128 _
  | .string _ | .binary _ _ | .regex _ _ | .objectId _ =>
    iff_of_true rfl (Bson.faithful_of_isLeaf rfl rfl)
  | .dbPointer _ _ | .code _ | .codeWithScope _ _ | .symbol _ | .timestamp _ _ | .minKey
  | .maxKey =>
    iff_of_false nofun fun h => nomatch h.2.self

theorem toItems_ofItems_iff : (items : List Bson) →
    (toItems (ofItems items) = items ↔ ∀ b ∈ items, b.DistinctKeys ∧ b.Native)
  | [] => iff_of_true rfl nofun
  | b :: items => by
    rw [ofItems, toItems, List.cons.injEq, toBson_ofBson_iff b, toItems_ofItems_iff items,
      List.forall_mem_cons]

theorem toBsonEntries_ofBsonEntries_iff : (entries : List (String × Bson)) →
    (toBsonEntries (ofBsonEntries entries) = entries ↔
      ∀ e ∈ entries, e.2.DistinctKeys ∧ e.2.Native)
  | [] => iff_of_true rfl nofun
  | (key, b) :: entries => by
    rw [ofBsonEntries, toBsonEntries, List.cons.injEq, Prod.mk.injEq, eq_self, true_and,
      toBson_ofBson_iff b, toBsonEntries_ofBsonEntries_iff entries, List.forall_mem_cons]

end

/-! ## What is sent -/

theorem faithful_collapse {entries : List (String × Bson)}
    (h : ∀ e ∈ entries, e.2.DistinctKeys ∧ e.2.Native) :
    (Bson.document (Entries.collapse entries)).DistinctKeys ∧
      (Bson.document (Entries.collapse entries)).Native := by
  rw [Bson.distinctKeys_document, Bson.native_document]
  exact ⟨⟨Entries.nodup_collapse entries, fun e mem => (h e (Entries.mem_of_mem_collapse mem)).1⟩,
    fun e mem => (h e (Entries.mem_of_mem_collapse mem)).2⟩

mutual

theorem faithful_toBson : (v : Value) → v.toBson.DistinctKeys ∧ v.toBson.Native
  | .array items => by
    rw [toBson, Bson.distinctKeys_array, Bson.native_array, ← forall₂_and]
    exact faithful_toItems items
  | .document entries => faithful_collapse (faithful_toBsonEntries entries)
  | .map entries => faithful_collapse (faithful_toBsonEntries entries)
  | .dbPointer db target => by
    rw [toBson, Bson.distinctKeys_document, Bson.native_document, and_assoc, ← forall₂_and]
    refine ⟨by simp [Entries.names], ?_⟩
    rw [List.forall_mem_cons, List.forall_mem_singleton]
    exact ⟨Bson.faithful_of_isLeaf rfl rfl, faithful_toBson target⟩
  | .dateTime t => by
    refine Bson.faithful_of_isLeaf rfl ?_
    rw [toBson, Bson.isForeign, t.toInt_ofInt_millis, t.ofMillis?_millis]
    rfl
  | .uint64 n => by
    rw [toBson]
    split <;> exact Bson.faithful_of_isLeaf rfl rfl
  | .null | .undefined | .bool _ | .int8 _ | .int16 _ | .int32 _ | .int64 _ | .uint8 _
  | .uint16 _ | .uint32 _ | .float32 _ | .float64 _ | .string _ | .decimal _ | .binary _ _
  | .regex _ _ | .objectId _ =>
    Bson.faithful_of_isLeaf rfl rfl

theorem faithful_toItems : (items : List Value) →
    ∀ b ∈ toItems items, b.DistinctKeys ∧ b.Native
  | [] => nofun
  | v :: items => by
    rw [toItems, List.forall_mem_cons]
    exact ⟨faithful_toBson v, faithful_toItems items⟩

theorem faithful_toBsonEntries : (entries : List (String × Value)) →
    ∀ e ∈ toBsonEntries entries, e.2.DistinctKeys ∧ e.2.Native
  | [] => nofun
  | (key, v) :: entries => by
    rw [toBsonEntries, List.forall_mem_cons]
    exact ⟨faithful_toBson v, faithful_toBsonEntries entries⟩

end

end Value

/-- A value of the store comes back from a value as it was just if it is one of the store's, with
each key once, and no part of it is foreign. Whatever is sent is like that; so sending what was read
of it sends the same again, and reading that gives the same value. -/
theorem store_fidelity :
    (∀ b : Bson, (Value.ofBson b).toBson = b ↔ b.DistinctKeys ∧ b.Native) ∧
    ∀ v : Value, v.toBson.DistinctKeys ∧ v.toBson.Native ∧
      (Value.ofBson v.toBson).toBson = v.toBson ∧
      Value.ofBson (Value.ofBson v.toBson).toBson = Value.ofBson v.toBson := by
  refine ⟨Value.toBson_ofBson_iff, fun v => ?_⟩
  have same : (Value.ofBson v.toBson).toBson = v.toBson :=
    (Value.toBson_ofBson_iff v.toBson).2 (Value.faithful_toBson v)
  exact ⟨(Value.faithful_toBson v).1, (Value.faithful_toBson v).2, same, congrArg Value.ofBson same⟩

/-- A date is foreign from the first millisecond after the last year on. -/
example : (Bson.dateTime 8210266876799999).isForeign = false ∧
    (Bson.dateTime 8210266876800000).isForeign = true := by decide

end DocTable
