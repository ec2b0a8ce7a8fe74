import DocTable.Proofs.Json.Writing
import DocTable.Query.Arguments

/-!
# Relaxed text as an argument

The relaxed text of a value is an argument list with that value in it. It keeps every kind that the
relaxed form tells apart; the width of an integer it does not, so an integer of 64 bits comes back
with 32 if these hold it.
-/

namespace DocTable

open ExtendedJson (Wrapper wrap)

namespace Value

/-- The values that the relaxed form tells apart: no dates, floats or patterns, and documents that
have each key once and look like no wrapper. -/
inductive Plain : Value → Prop
  | null : Plain .null
  | undefined : Plain .undefined
  | bool (b : Bool) : Plain (.bool b)
  | int32 (n : Int32) : Plain (.int32 n)
  | int64 (n : Int64) : Plain (.int64 n)
  | string (s : String) : Plain (.string s)
  | objectId (id : ObjectId) : Plain (.objectId id)
  | binary (subtype : UInt8) (bytes : List UInt8) : Plain (.binary subtype bytes)
  | array {items : List Value} : (∀ v ∈ items, Plain v) → Plain (.array items)
  | document {entries : List (String × Value)} : (Entries.names entries).Nodup →
      (∀ w : Wrapper, w.key ∉ Entries.names entries) → (∀ e ∈ entries, Plain e.2) →
      Plain (.document entries)

mutual

/-- The value with each integer of 64 bits that 32 bits hold in 32 bits. -/
def narrow : Value → Value
  | .int64 n =>
    if Int32.minValue.toInt ≤ n.toInt ∧ n.toInt ≤ Int32.maxValue.toInt then
      .int32 (Int32.ofInt n.toInt)
    else .int64 n
  | .array items => .array (narrowItems items)
  | .document entries => .document (narrowEntries entries)
  | v => v

def narrowItems : List Value → List Value
  | [] => []
  | v :: rest => narrow v :: narrowItems rest

def narrowEntries : List (String × Value) → List (String × Value)
  | [] => []
  | (key, v) :: rest => (key, narrow v) :: narrowEntries rest

end

theorem toItems_eq_map (items : List Value) : toItems items = items.map toBson := by
  induction items with
  | nil => rfl
  | cons v items ih => rw [toItems, ih, List.map_cons]

theorem toBsonEntries_eq_map (entries : List (String × Value)) :
    toBsonEntries entries = entries.map fun e => (e.1, e.2.toBson) := by
  induction entries with
  | nil => rfl
  | cons e entries ih => rw [toBsonEntries, ih, List.map_cons]

end Value

namespace ExtendedJson

theorem ofItems_eq_map (form : Form) (items : List Bson) :
    ofItems form items = items.map (ofBson form) := by
  induction items with
  | nil => rfl
  | cons b items ih => rw [ofItems, ih, List.map_cons]

theorem ofEntries_eq_map (form : Form) (entries : List (String × Bson)) :
    ofEntries form entries = entries.map fun e => (e.1, ofBson form e.2) := by
  induction entries with
  | nil => rfl
  | cons e entries ih => rw [ofEntries, ih, List.map_cons]

theorem detect?_eq_none {entries : List (String × Json)}
    (h : ∀ w : Wrapper, w.key ∉ Entries.names entries) : Wrapper.detect? entries = none := by
  rw [Wrapper.detect?, List.find?_eq_none]
  intro w _ known
  obtain ⟨e, mem, same⟩ := List.any_eq_true.1 known
  exact h w (List.mem_map.2 ⟨e, mem, by simpa using same⟩)

theorem detect?_single (w : Wrapper) (body : Json) : Wrapper.detect? [(w.key, body)] = some w := by
  cases w <;> simp [Wrapper.detect?, Wrapper.byPriority, Wrapper.key]

theorem toBson_wrap {w : Wrapper} (plain : w ≠ .code) (body : Json) :
    toBson (wrap w.key body) = w.decode [(w.key, body)] := by
  rw [wrap, toBson, detect?_single]
  cases w
  case code => exact absurd rfl plain
  all_goals rfl

theorem shaped_field_single {α : Type} {name : String} {shape : Json.Shape α} {body : Json}
    {a : α} (h : shape body = .ok a) :
    shaped (Json.Shape.field name shape none [(name, body)]) = .ok a := by
  rw [Json.Shape.field, if_pos rfl, h]
  rfl

theorem toBson_objectId (id : ObjectId) :
    toBson (ofBson .relaxed (.objectId id)) = .ok (.objectId id) := by
  rw [ofBson, show "$oid" = Wrapper.oid.key from rfl, toBson_wrap (by decide), Wrapper.decode]
  simp only [shaped_field_single (Json.Shape.text.eq_1 id.hex), bind, Except.bind,
    Content.objectId_hex]
  rfl

theorem toBson_binary (subtype : UInt8) (bytes : List UInt8) :
    toBson (ofBson .relaxed (.binary subtype bytes)) = .ok (.binary subtype bytes) := by
  have body : Json.Shape.pair "BinaryBody" "base64" .text "subType" .text
      (.object [("base64", .string (String.ofList (Base64.encode bytes))),
        ("subType", .string (subtypeText subtype))]) =
      .ok (String.ofList (Base64.encode bytes), subtypeText subtype) := by
    simp [Json.Shape.pair, Json.Shape.fields, Json.Shape.text, bind, Except.bind]
  rw [ofBson, binary, if_neg (by simp), show "$binary" = Wrapper.binary.key from rfl,
    toBson_wrap (by decide), Wrapper.decode]
  simp only [shaped_field_single body, bind, Except.bind, Content.binary_encode]

theorem toBson_undefined : toBson (ofBson .relaxed .undefined) = .ok .undefined := by
  rw [ofBson, show "$undefined" = Wrapper.undefined.key from rfl, toBson_wrap (by decide),
    Wrapper.decode]
  simp only [shaped_field_single (Json.Shape.truth.eq_1 true), bind, Except.bind]
  rfl

theorem ofInteger_int32 (n : Int32) : ofInteger n.toInt = .int32 n := by
  rw [ofInteger, if_pos ⟨n.minValue_le_toInt, n.toInt_le⟩, Int32.ofInt_toInt]

theorem exact_integer {n : Int} (least : Int64.minValue.toInt ≤ n)
    (greatest : n ≤ Int64.maxValue.toInt) : (Json.integer n).Exact :=
  .integer least (Int.lt_of_le_of_lt greatest (by decide))

theorem exact_wrap {key : String} {body : Json} (h : body.Exact) : (wrap key body).Exact := by
  refine .object (List.nodup_singleton key) ?_
  rw [List.forall_mem_singleton]
  exact h

end ExtendedJson

namespace Value

variable {v : Value} {items : List Value} {entries : List (String × Value)}

/-- The value is sent as relaxed extended JSON that is read as the value in narrow form. -/
def ComesBack (v : Value) : Prop :=
  ∃ b, ExtendedJson.toBson (ExtendedJson.ofBson .relaxed v.toBson) = .ok b ∧ ofBson b = v.narrow

theorem comesBack_int64 (n : Int64) : (int64 n).ComesBack := by
  by_cases fits : Int32.minValue.toInt ≤ n.toInt ∧ n.toInt ≤ Int32.maxValue.toInt
  · refine ⟨.int32 (Int32.ofInt n.toInt), congrArg Except.ok (if_pos fits), ?_⟩
    rw [ofBson, narrow, if_pos fits]
  · have wide : ExtendedJson.ofInteger n.toInt = .int64 n := by
      rw [ExtendedJson.ofInteger, if_neg fits, if_pos ⟨n.minValue_le_toInt, n.toInt_le⟩,
        Int64.ofInt_toInt]
    refine ⟨.int64 n, congrArg Except.ok wide, ?_⟩
    rw [ofBson, narrow, if_neg fits]

theorem comesBack_items (h : ∀ v ∈ items, v.ComesBack) :
    ∃ bs, ExtendedJson.toItems (ExtendedJson.ofItems .relaxed (toItems items)) = .ok bs ∧
      ofItems bs = narrowItems items := by
  induction items with
  | nil => exact ⟨[], rfl, rfl⟩
  | cons v items ih =>
    rw [List.forall_mem_cons] at h
    obtain ⟨b, read, same⟩ := h.1
    obtain ⟨bs, others, sames⟩ := ih h.2
    refine ⟨b :: bs, ?_, ?_⟩
    · rw [toItems, ExtendedJson.ofItems, ExtendedJson.toItems, read, others]
      rfl
    · rw [ofItems, narrowItems, same, sames]

theorem comesBack_entries (h : ∀ e ∈ entries, e.2.ComesBack) :
    ∃ es,
      ExtendedJson.toEntries (ExtendedJson.ofEntries .relaxed (toBsonEntries entries)) = .ok es ∧
        ofBsonEntries es = narrowEntries entries := by
  induction entries with
  | nil => exact ⟨[], rfl, rfl⟩
  | cons e entries ih =>
    rw [List.forall_mem_cons] at h
    obtain ⟨b, read, same⟩ := h.1
    obtain ⟨es, others, sames⟩ := ih h.2
    refine ⟨(e.1, b) :: es, ?_, ?_⟩
    · rw [toBsonEntries, ExtendedJson.ofEntries, ExtendedJson.toEntries, read, others]
      rfl
    · rw [ofBsonEntries, narrowEntries, same, sames]

theorem names_toBsonEntries (entries : List (String × Value)) :
    Entries.names (toBsonEntries entries) = Entries.names entries := by
  simp [Entries.names, toBsonEntries_eq_map]

theorem names_relaxed (entries : List (String × Value)) :
    Entries.names (ExtendedJson.ofEntries .relaxed (toBsonEntries entries)) =
      Entries.names entries := by
  simp [Entries.names, toBsonEntries_eq_map, ExtendedJson.ofEntries_eq_map]

theorem relaxed_document (distinct : (Entries.names entries).Nodup) :
    ExtendedJson.ofBson .relaxed (document entries).toBson =
      .object (ExtendedJson.ofEntries .relaxed (toBsonEntries entries)) := by
  rw [toBson, Entries.collapse_eq_self (by rwa [names_toBsonEntries]), ExtendedJson.ofBson]

theorem Plain.comesBack (h : v.Plain) : v.ComesBack := by
  induction h with
  | null => exact ⟨.null, rfl, rfl⟩
  | undefined => exact ⟨.undefined, ExtendedJson.toBson_undefined, rfl⟩
  | bool b => exact ⟨.boolean b, rfl, rfl⟩
  | int32 n => exact ⟨.int32 n, congrArg Except.ok (ExtendedJson.ofInteger_int32 n), rfl⟩
  | int64 n => exact comesBack_int64 n
  | string s => exact ⟨.string s, rfl, rfl⟩
  | objectId id => exact ⟨.objectId id, ExtendedJson.toBson_objectId id, rfl⟩
  | binary subtype bytes =>
    exact ⟨.binary subtype bytes, ExtendedJson.toBson_binary subtype bytes, rfl⟩
  | array _ ih =>
    obtain ⟨bs, read, same⟩ := comesBack_items ih
    refine ⟨.array bs, ?_, ?_⟩
    · rw [toBson, ExtendedJson.ofBson, ExtendedJson.toBson, read]
      rfl
    · rw [ofBson, narrow, same]
  | document distinct unwrapped _ ih =>
    obtain ⟨es, read, same⟩ := comesBack_entries ih
    refine ⟨.document es, ?_, ?_⟩
    · rw [relaxed_document distinct, ExtendedJson.toBson,
        ExtendedJson.detect?_eq_none (by rwa [names_relaxed]), read]
      rfl
    · rw [ofBson, narrow, same]

theorem Plain.exact (h : v.Plain) : (ExtendedJson.ofBson .relaxed v.toBson).Exact := by
  induction h with
  | null => exact .null
  | undefined => exact ExtendedJson.exact_wrap (.bool true)
  | bool b => exact .bool b
  | int32 n =>
    exact ExtendedJson.exact_integer (Int.le_trans (by decide) n.minValue_le_toInt)
      (Int.le_trans n.toInt_le (by decide))
  | int64 n => exact ExtendedJson.exact_integer n.minValue_le_toInt n.toInt_le
  | string s => exact .string s
  | objectId id => exact ExtendedJson.exact_wrap (.string _)
  | binary subtype bytes =>
    refine ExtendedJson.exact_wrap (.object (by simp [Entries.names]) ?_)
    simpa using ⟨.string _, .string _⟩
  | @array items _ ih =>
    rw [toBson, ExtendedJson.ofBson, toItems_eq_map, ExtendedJson.ofItems_eq_map, List.map_map]
    refine .array ?_
    rw [List.forall_mem_map]
    exact ih
  | @document entries distinct _ _ ih =>
    rw [relaxed_document distinct]
    refine .object (by rwa [names_relaxed]) ?_
    rw [toBsonEntries_eq_map, ExtendedJson.ofEntries_eq_map, List.map_map, List.forall_mem_map]
    exact ih

end Value

/-- What is written in relaxed form is read as one argument: the same value, in narrow form. -/
theorem relaxed_text_decodes (v : Value) (plain : v.Plain)
    (within : (Json.array [ExtendedJson.ofBson .relaxed v.toBson]).depth ≤ Json.nestingLimit) :
    decodeArguments v.relaxedText.toList = .ok [v.narrow] := by
  have exact : (Json.array [ExtendedJson.ofBson .relaxed v.toBson]).Exact := by
    refine .array ?_
    rw [List.forall_mem_singleton]
    exact plain.exact
  have parsed := (Json.parse_compact_iff exact).2 within
  obtain ⟨b, read, same⟩ := plain.comesBack
  have text : '[' :: v.relaxedText.toList ++ [']'] =
      (Json.array [ExtendedJson.ofBson .relaxed v.toBson]).compact := by
    simp [Value.relaxedText, ExtendedJson.relaxedText, Json.compactText, Json.compact,
      Json.compactItems]
  have items : ExtendedJson.toItems [ExtendedJson.ofBson .relaxed v.toBson] = .ok [b] := by
    rw [ExtendedJson.toItems, read]
    rfl
  have values : (Json.array [ExtendedJson.ofBson .relaxed v.toBson]).argumentValues =
      .ok [v.narrow] := by
    rw [Json.argumentValues, items, ← same]
    rfl
  rw [decodeArguments, text, parsed]
  simp only [bind, Except.bind, Except.mapError, values]

/-- Of the two integers the first fits 32 bits. -/
theorem relaxed_text_decodes_nested :
    decodeArguments (Value.document [
        ("_id", .objectId ⟨List.replicate 12 0xAB, rfl⟩), ("count", .int64 (-7)),
        ("size", .int64 4294967296), ("note", .string "a \"b\"\n\x01 \u00E9"),
        ("bytes", .binary 0x80 [0, 255, 16]), ("gone", .undefined),
        ("parts", .array [.null, .bool true, .int32 3, .document [], .array []])
      ]).relaxedText.toList =
      .ok [.document [
        ("_id", .objectId ⟨List.replicate 12 0xAB, rfl⟩), ("count", .int32 (-7)),
        ("size", .int64 4294967296), ("note", .string "a \"b\"\n\x01 \u00E9"),
        ("bytes", .binary 0x80 [0, 255, 16]), ("gone", .undefined),
        ("parts", .array [.null, .bool true, .int32 3, .document [], .array []])]] := by
  refine relaxed_text_decodes _ (.document ?_ ?_ ?_) (by decide)
  · simp [Entries.names]
  · rintro ⟨⟩ <;> simp [Entries.names, Wrapper.key]
  · simp only [List.forall_mem_cons, List.not_mem_nil, false_implies, implies_true, and_true]
    refine ⟨.objectId _, .int64 _, .int64 _, .string _, .binary _ _, .undefined, .array ?_⟩
    simp only [List.forall_mem_cons, List.not_mem_nil, false_implies, implies_true, and_true]
    exact ⟨.null, .bool _, .int32 _,
      .document (by simp [Entries.names]) (by simp [Entries.names]) nofun, .array nofun⟩

end DocTable
