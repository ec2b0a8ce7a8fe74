import DocTable.Proofs.Json.Items
import DocTable.Proofs.Query.Arguments

/-!
# Arguments one by one

A list of arguments is decoded piece by piece: it has the values of its pieces, each of which is
decoded as it would be alone, and nothing else decodes, `arguments_separated`. A list without values
is blank in the sense of JSON.
-/

namespace DocTable

open Json.Reader (Spells commas items isSpace readsItems_value)

variable {text : List Char} {values : List Value} {pieces : List (List Char)}

/-! ## Piece by piece -/

/-- The text is one argument with blanks around it. -/
def ReadsAs (piece : List Char) (v : Value) : Prop :=
  ∃ e b, Spells (Json.Reader.value 126) piece e ∧ ExtendedJson.toBson e = .ok b ∧ v = .ofBson b

theorem forall₂_readsAs_iff :
    List.Forall₂ ReadsAs pieces values ↔ ∃ elements bs,
      List.Forall₂ (Spells (Json.Reader.value 126)) pieces elements ∧
      ExtendedJson.toItems elements = .ok bs ∧ values = Value.ofItems bs := by
  constructor
  · intro all
    induction all with
    | nil => exact ⟨[], [], .nil, rfl, rfl⟩
    | cons first _ ih =>
      obtain ⟨e, b, spells, decoded, rfl⟩ := first
      obtain ⟨es, bs, others, others_decoded, rfl⟩ := ih
      exact ⟨e :: es, b :: bs, .cons spells others,
        ExtendedJson.toItems_cons_eq_ok_iff.2 ⟨b, bs, decoded, others_decoded, rfl⟩, rfl⟩
  · rintro ⟨elements, bs, all, decoded, rfl⟩
    induction all generalizing bs with
    | nil =>
      obtain rfl := Except.ok.inj decoded
      exact .nil
    | cons spells _ ih =>
      obtain ⟨b, bs, first, others, rfl⟩ := ExtendedJson.toItems_cons_eq_ok_iff.1 decoded
      exact .cons ⟨_, b, spells, first, rfl⟩ (ih bs others)

theorem decodeArguments_eq_ok_cons_iff {v : Value} {others : List Value} :
    decodeArguments text = .ok (v :: others) ↔
      ∃ pieces, text = commas pieces ∧ List.Forall₂ ReadsAs pieces (v :: others) := by
  rw [decodeArguments_eq_ok_iff]
  constructor
  · rintro ⟨elements, bs, read, decoded, same⟩
    cases elements with
    | nil =>
      obtain rfl := Except.ok.inj decoded
      cases same
    | cons e es =>
      obtain ⟨pieces, list, all⟩ := (Json.Reader.items_eq_ok_cons_iff readsItems_value).1 read
      rw [List.append_cancel_right_eq] at list
      exact ⟨pieces, list, forall₂_readsAs_iff.2 ⟨_, bs, all, decoded, same⟩⟩
  · rintro ⟨pieces, rfl, all⟩
    obtain ⟨elements, bs, spells, decoded, same⟩ := forall₂_readsAs_iff.1 all
    cases spells with
    | nil =>
      obtain rfl := Except.ok.inj decoded
      cases same
    | cons first more =>
      refine ⟨_, bs, ?_, decoded, same⟩
      exact (Json.Reader.items_eq_ok_cons_iff readsItems_value).2 ⟨_, rfl, .cons first more⟩

theorem decodeArguments_eq_ok_singleton_iff {v : Value} :
    decodeArguments text = .ok [v] ↔ ReadsAs text v := by
  rw [decodeArguments_eq_ok_cons_iff]
  simp only [List.forall₂_cons_right_iff, List.forall₂_nil_right_iff]
  constructor
  · rintro ⟨pieces, rfl, piece, none, reads, rfl, rfl⟩
    simpa [commas] using reads
  · exact fun reads => ⟨[text], by simp [commas], text, [], reads, rfl, rfl⟩

/-- Values are decoded from just the lists that are pieces with commas between them, one piece for
each value, and no values from just the blank lists. The array that a list makes between brackets
ends at the bracket behind the list, whatever stands there. -/
theorem arguments_separated (text : List Char) :
    (∀ v others, decodeArguments text = .ok (v :: others) ↔
      ∃ pieces, text = [','].intercalate pieces ∧
        List.Forall₂ (fun piece v => decodeArguments piece = .ok [v]) pieces (v :: others)) ∧
    (decodeArguments text = .ok [] ↔ ∀ c ∈ text, isSpace c = true) ∧
    ∀ values, decodeArguments text = .ok values → ∃ elements, elements.length = values.length ∧
      ∀ more, Json.Reader.value Json.nestingLimit ('[' :: text ++ ']' :: more) =
        .ok (.array elements, more) := by
  refine ⟨fun v others => ?pieces, decodeArguments_eq_ok_nil_iff, fun values decoded => ?closed⟩
  case pieces =>
    simp only [decodeArguments_eq_ok_singleton_iff]
    exact decodeArguments_eq_ok_cons_iff
  case closed =>
    obtain ⟨elements, bs, read, images, rfl⟩ := decodeArguments_eq_ok_iff.1 decoded
    obtain ⟨t, list, reads⟩ := Json.Reader.items_local readsItems_value read
    obtain rfl : text = t := List.append_cancel_right list
    refine ⟨elements, ?_, fun more => Json.Reader.value_array (reads more)⟩
    rw [Value.length_ofItems, ExtendedJson.length_toItems images]

/-- A comma and brackets in a string. -/
def bracketsPiece : List Char := "\x7b\"a\":\"],[\"\x7d".toList

/-- A comma in an array, and blanks around it. -/
def arrayPiece : List Char := " [true,null] ".toList

theorem arguments_separated_brackets :
    decodeArguments (bracketsPiece ++ ',' :: arrayPiece) =
      .ok [.document [("a", .string "],[")], .array [.bool true, .null]] ∧
    (∃ elements, elements.length = 2 ∧ ∀ more,
      Json.Reader.value Json.nestingLimit
        ('[' :: (bracketsPiece ++ ',' :: arrayPiece) ++ ']' :: more) =
          .ok (.array elements, more)) ∧
    decodeArguments " \t".toList = .ok [] := by
  obtain ⟨decodes, -, closes⟩ := arguments_separated (bracketsPiece ++ ',' :: arrayPiece)
  have first : decodeArguments bracketsPiece = .ok [.document [("a", .string "],[")]] := by cbv
  have second : decodeArguments arrayPiece = .ok [.array [.bool true, .null]] := by cbv
  have both := (decodes _ _).2
    ⟨[bracketsPiece, arrayPiece], rfl, .cons first (.cons second .nil)⟩
  exact ⟨both, closes _ both, (arguments_separated " \t".toList).2.1.2 (List.all_eq_true.1 rfl)⟩

end DocTable
