import DocTable.Proofs.Json.Items
import DocTable.Query.Arguments
import DocTable.Text.Blank

/-!
# Decoded lists of arguments

What decodes is a JSON list without its brackets, and unless it is blank there is a value in it.
-/

namespace DocTable

open Json (IsText)

variable {text : List Char} {values : List Value}

theorem ExtendedJson.toItems_cons_eq_ok_iff {e : Json} {es : List Json} {bs : List Bson} :
    toItems (e :: es) = .ok bs ↔
      ∃ b bs', toBson e = .ok b ∧ toItems es = .ok bs' ∧ bs = b :: bs' := by
  rw [toItems]
  cases toBson e with
  | error cause => simp [bind, Except.bind]
  | ok b =>
    cases toItems es with
    | error cause => simp [bind, Except.bind]
    | ok bs' => simp [bind, Except.bind, eq_comm]

theorem ExtendedJson.length_toItems {items : List Json} {bs : List Bson}
    (h : toItems items = .ok bs) : bs.length = items.length := by
  induction items generalizing bs with
  | nil =>
    obtain rfl := Except.ok.inj h
    rfl
  | cons e items ih =>
    obtain ⟨b, bs, -, others, rfl⟩ := toItems_cons_eq_ok_iff.1 h
    simp [ih others]

theorem Value.length_ofItems (bs : List Bson) : (ofItems bs).length = bs.length := by
  induction bs with
  | nil => rfl
  | cons b bs ih => simp [ofItems, ih]

theorem decodeArguments_ok (h : decodeArguments text = .ok values) :
    ∃ elements rest bs, Json.parse ('[' :: text ++ [']']) = .ok (.array elements) ∧
      Json.Reader.items (Json.Reader.value 126) (text ++ [']']) = .ok (elements, rest) ∧
      Json.Reader.skipSpace rest = [] ∧
      ExtendedJson.toItems elements = .ok bs ∧ values = Value.ofItems bs := by
  rw [decodeArguments] at h
  cases parsed : Json.parse ('[' :: text ++ [']']) with
  | error e => rw [parsed] at h; cases h
  | ok v =>
    obtain ⟨rest, read, done⟩ := Json.parse_ok parsed
    obtain ⟨elements, rfl, items⟩ := Json.Reader.value_bracket read
    rw [parsed] at h
    cases decoded : ExtendedJson.toItems elements with
    | error e =>
      have failed : (Json.array elements).argumentValues = .error e := by
        rw [Json.argumentValues, decoded]
        rfl
      simp [failed, bind, Except.bind, Except.mapError] at h
    | ok bs =>
      have found : (Json.array elements).argumentValues = .ok (Value.ofItems bs) := by
        rw [Json.argumentValues, decoded]
        rfl
      have same : Value.ofItems bs = values := by
        simpa [found, bind, Except.bind, Except.mapError] using h
      exact ⟨elements, rest, bs, rfl, items, done, decoded, same.symm⟩

/-- The bracket behind the list is the one that closes the array. -/
theorem eq_nil_of_bracket {t rest : List Char} (same : text ++ [']'] = t ++ ']' :: rest)
    (blank : Json.Reader.skipSpace rest = []) : rest = [] := by
  rcases List.eq_nil_or_concat rest with rfl | ⟨init, last, rfl⟩
  · rfl
  · rw [List.concat_eq_append, ← List.cons_append, ← List.append_assoc] at same
    obtain rfl := List.singleton_inj.1 (List.append_inj' same rfl).2
    exact absurd (List.dropWhile_eq_nil_iff.1 blank ']' (by simp)) (by decide)

theorem parse_bracketed {elements : List Json}
    (h : Json.Reader.items (Json.Reader.value 126) (text ++ [']']) = .ok (elements, [])) :
    Json.parse ('[' :: (text ++ [']'])) = .ok (.array elements) := by
  have read : Json.Reader.value Json.nestingLimit ('[' :: (text ++ [']'])) =
    .ok (.array elements, []) := Json.Reader.value_array h
  simp [Json.parse, read, Json.Reader.finish, Json.Reader.skipSpace, bind, Except.bind,
    Except.mapError, pure, Except.pure]

theorem decodeArguments_eq_ok_iff :
    decodeArguments text = .ok values ↔ ∃ elements bs,
      Json.Reader.items (Json.Reader.value 126) (text ++ [']']) = .ok (elements, []) ∧
      ExtendedJson.toItems elements = .ok bs ∧ values = Value.ofItems bs := by
  constructor
  · intro h
    obtain ⟨elements, rest, bs, -, read, blank, decoded, rfl⟩ := decodeArguments_ok h
    obtain ⟨t, same, -⟩ := Json.Reader.items_local Json.Reader.readsItems_value read
    obtain rfl := eq_nil_of_bracket same blank
    exact ⟨elements, bs, read, decoded, rfl⟩
  · rintro ⟨elements, bs, read, decoded, rfl⟩
    simp [decodeArguments, parse_bracketed read, Json.argumentValues, decoded, bind, Except.bind,
      Except.map, Except.mapError]

theorem exists_decoded (h : (decodeArguments text).isOk = true) :
    ∃ values, decodeArguments text = .ok values := by
  cases decoded : decodeArguments text with
  | error e => rw [decoded] at h; cases h
  | ok values => exact ⟨values, rfl⟩

theorem isText_of_decodeArguments (h : decodeArguments text = .ok values) :
    IsText ('[' :: text ++ [']']) := by
  obtain ⟨_, _, _, parsed, _⟩ := decodeArguments_ok h
  exact Json.isText_of_parse parsed

theorem decodeArguments_eq_ok_nil_iff :
    decodeArguments text = .ok [] ↔ ∀ c ∈ text, Json.Reader.isSpace c = true := by
  rw [decodeArguments_eq_ok_iff]
  constructor
  · rintro ⟨elements, bs, read, decoded, none⟩
    have lengths := congrArg List.length none
    rw [Value.length_ofItems, ExtendedJson.length_toItems decoded] at lengths
    obtain rfl := List.eq_nil_of_length_eq_zero lengths.symm
    obtain ⟨gap, space, same⟩ := Json.Reader.items_eq_ok_nil_iff.1 read
    rw [List.append_cancel_right_eq] at same
    exact same ▸ space
  · exact fun space => ⟨[], [], Json.Reader.items_eq_ok_nil_iff.2 ⟨text, space, rfl⟩, rfl, rfl⟩

theorem Json.Reader.isBlank_of_isSpace {c : Char} (h : isSpace c = true) :
    Text.isBlank c = true := by
  rcases isSpace_cases h with rfl | rfl | rfl | rfl <;> decide

theorem decodeArguments_ne_nil (h : decodeArguments text = .ok values)
    (written : Text.allBlank text = false) : values ≠ [] := by
  rintro rfl
  have space := decodeArguments_eq_ok_nil_iff.1 h
  have blank : Text.allBlank text = true :=
    List.all_eq_true.2 fun c mem => Json.Reader.isBlank_of_isSpace (space c mem)
  rw [blank] at written
  cases written

end DocTable
