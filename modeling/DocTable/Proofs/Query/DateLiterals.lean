import DocTable.Proofs.Json.Items
import DocTable.Proofs.Json.Writing
import DocTable.Proofs.Query.DateCalls
import DocTable.Proofs.Value.Fidelity

/-!
# Date calls and date literals

The call that is quoted and the literal that is patched have the same digits: a call is quoted as
the literal with its digits, that string is read as it was written, and it is patched with the
instant that the digits give, `date_calls_become_instants`. Only a literal out of reach stays a
string.
-/

namespace DocTable

open Json (IsDigits)

variable {digits rest s : List Char} {n : Nat}

/-! ## Calls -/

namespace DateCall

def size? (s : List Char) : Option Nat :=
  (read? s).map fun (_, after) => Utf8.size s - Utf8.size after

theorem size?_eq_some_iff {length : Nat} :
    size? s = some length ↔ ∃ digits rest, IsDigits digits ∧ s = text digits ++ rest ∧
      length = Utf8.size (text digits) := by
  simp only [size?, Option.map_eq_some_iff, Prod.exists, read?_eq_some_iff]
  constructor
  · rintro ⟨digits, rest, ⟨run, rfl⟩, rfl⟩
    exact ⟨digits, rest, run, rfl, by rw [Utf8.size_append, Nat.add_sub_cancel]⟩
  · rintro ⟨digits, rest, run, rfl, rfl⟩
    exact ⟨digits, rest, ⟨run, rfl⟩, by rw [Utf8.size_append, Nat.add_sub_cancel]⟩

end DateCall

/-! ## Literals -/

namespace DateLiteral

def text (digits : List Char) : List Char := '$' :: '{' :: DateCall.text digits ++ ['}']

theorem text_eq (digits : List Char) : text digits = opening ++ (digits ++ closing) := by
  have opened : opening = '$' :: '{' :: DateCall.opening := rfl
  have closed : closing = [')', '}'] := rfl
  simp [text, DateCall.text, opened, closed]

theorem instant?_text (run : IsDigits digits) (rest : List Char) :
    instant? (text digits ++ rest) = Instant.ofMillis? (Digits.value digits) := by
  have stop : Digits.isDigit ')' = false := rfl
  have taken : (digits ++ (closing ++ rest)).takeWhile Digits.isDigit = digits := by
    simp [List.takeWhile_append_of_pos run.2, closing, stop]
  have dropped : (digits ++ (closing ++ rest)).dropWhile Digits.isDigit = closing ++ rest := by
    simp [List.dropWhile_append_of_pos run.2, closing, stop]
  have opened : Text.dropMark? opening (text digits ++ rest) = some (digits ++ (closing ++ rest)) :=
    Text.dropMark?_eq_some_iff.2 (by simp [text_eq])
  have closed : Text.dropMark? closing (closing ++ rest) = some rest :=
    Text.dropMark?_eq_some_iff.2 rfl
  simp only [instant?, opened, taken, dropped, closed, Option.bind_eq_bind, Option.bind_some]
  simp [run.1]

theorem exists_text_of_instant? {t : Instant} (h : instant? s = some t) :
    ∃ digits rest, IsDigits digits ∧ s = text digits ++ rest := by
  simp only [instant?, Option.bind_eq_bind, Option.bind_eq_some_iff] at h
  obtain ⟨behind, opened, after, closed, h⟩ := h
  split at h
  · cases h
  · next some =>
    rw [Text.dropMark?_eq_some_iff] at opened closed
    refine ⟨behind.takeWhile Digits.isDigit, after,
      ⟨by simpa using some, fun c mem => List.mem_takeWhile_imp mem⟩, ?_⟩
    rw [opened, text_eq, List.append_assoc, List.append_assoc, ← closed,
      List.takeWhile_append_dropWhile]

end DateLiteral

theorem Instant.ofMillis?_eq_some_iff {millis : Int} {t : Instant} :
    Instant.ofMillis? millis = some t ↔ t.millis = millis :=
  ⟨Instant.millis_of_ofMillis?, fun same => same ▸ t.ofMillis?_millis⟩

/-- All of the instants are within 64 bits. -/
theorem Instant.ofMillis?_eq_none_iff :
    Instant.ofMillis? n = none ↔
      ¬ ((n : Int) ≤ Int64.maxValue.toInt ∧ (n : Int) ≤ 8210266876799999) := by
  have widest : Int64.maxValue.toInt = 9223372036854775807 := rfl
  rw [Instant.ofMillis?, dite_eq_right_iff, widest]
  constructor
  · rintro none ⟨-, near⟩
    cases none ⟨by omega, near⟩
  · intro far near
    exact absurd ⟨by omega, near.2⟩ far

/-! ## Placeholders -/

namespace DateLiteral

theorem escape_digit {c : Char} (digit : Digits.isDigit c = true) : Json.escape c = [c] := by
  have other (d : Char) (not_digit : Digits.isDigit d = false) : c ≠ d := by
    rintro rfl
    rw [digit] at not_digit
    cases not_digit
  have visible : ¬ c.toNat < 0x20 := by
    simp [Digits.isDigit] at digit
    omega
  simp [Json.escape, other '"' rfl, other '\\' rfl, other '\x08' rfl, other '\x0c' rfl,
    other '\n' rfl, other '\r' rfl, other '\t' rfl, visible]

theorem flatMap_escape_text (run : IsDigits digits) :
    (text digits).flatMap Json.escape = text digits := by
  have opened : opening.flatMap Json.escape = opening := rfl
  have closed : closing.flatMap Json.escape = closing := rfl
  have plain : digits.flatMap Json.escape = digits := by
    rw [List.flatMap_congr fun c mem => escape_digit (run.2 c mem), List.flatMap_singleton']
  rw [text_eq, List.flatMap_append, List.flatMap_append, opened, plain, closed]

theorem value_text (run : IsDigits digits) (depth : Nat) (rest : List Char) :
    Json.Reader.value depth ('"' :: (text digits ++ '"' :: rest)) =
      .ok (.string (String.ofList (text digits)), rest) := by
  have read : Json.Reader.string (text digits ++ '"' :: rest) =
      .ok (String.ofList (text digits), rest) := by
    have whole := @Json.Reader.string_append rest (String.ofList (text digits))
    rwa [String.toList_ofList, flatMap_escape_text run] at whole
  exact Json.Reader.value_string read

theorem patchDates_text (run : IsDigits digits) :
    (Value.string (String.ofList (text digits))).patchDates =
      match Instant.ofMillis? (Digits.value digits) with
      | some t => .dateTime t
      | none => .string (String.ofList (text digits)) := by
  have literal := instant?_text run []
  rw [List.append_nil] at literal
  cases found : Instant.ofMillis? (Digits.value digits) with
  | none => simp [Value.patchDates, literal, found]
  | some t => simp [Value.patchDates, literal, found]

end DateLiteral

/-- A text begins with a date call just if some digits stand between the parts of one. With them a
date literal stands for the instant of their value, or for none if the value is beyond the last
instant, and every text that stands for an instant begins with such a literal. So a call outside of
strings becomes the string of its literal, which is read as it was written, wherever it stands, and
patched with the instant; out of reach it stays that string. -/
theorem date_calls_become_instants :
    (∀ s length, DateCall.size? s = some length ↔ ∃ digits rest, IsDigits digits ∧
      s = DateCall.text digits ++ rest ∧ length = Utf8.size (DateCall.text digits)) ∧
    (∀ digits rest, IsDigits digits →
      (∀ t, DateLiteral.instant? (DateLiteral.text digits ++ rest) = some t ↔
        t.millis = Digits.value digits) ∧
      (DateLiteral.instant? (DateLiteral.text digits ++ rest) = none ↔
        ¬ ((Digits.value digits : Int) ≤ Int64.maxValue.toInt ∧
          (Digits.value digits : Int) ≤ 8210266876799999))) ∧
    (∀ width n, Digits.value (Digits.padded width n) = n) ∧
    (∀ s t, DateLiteral.instant? s = some t →
      ∃ digits rest, IsDigits digits ∧ s = DateLiteral.text digits ++ rest) ∧
    ∀ digits rest, IsDigits digits →
      let placeholder := Value.string (String.ofList (DateLiteral.text digits))
      quoteDateCallsFrom .outside (DateCall.text digits ++ rest) =
        '"' :: DateLiteral.text digits ++ '"' :: quoteDateCallsFrom .outside rest ∧
      (∀ depth, ∃ v, Json.Reader.value depth ('"' :: DateLiteral.text digits ++ '"' :: rest) =
          .ok (v, rest) ∧
        (ExtendedJson.toBson v).map Value.ofBson = .ok placeholder) ∧
      placeholder.patchDates =
        match Instant.ofMillis? (Digits.value digits) with
        | some t => .dateTime t
        | none => placeholder := by
  refine ⟨fun s length => DateCall.size?_eq_some_iff, fun digits rest run => ?instants,
    Digits.value_padded, fun s t => DateLiteral.exists_text_of_instant?,
    fun digits rest run => ?placeholders⟩
  case instants =>
    rw [DateLiteral.instant?_text run]
    exact ⟨fun t => Instant.ofMillis?_eq_some_iff, Instant.ofMillis?_eq_none_iff⟩
  case placeholders =>
    refine ⟨?_, fun depth => ⟨_, DateLiteral.value_text run depth rest, rfl⟩,
      DateLiteral.patchDates_text run⟩
    rw [quoteDateCallsFrom_text run]
    simp [DateLiteral.text]

theorem date_calls_become_instants_zeros :
    DateCall.size? "new Date(007)]".toList = some 13 ∧
    DateLiteral.instant? "$\x7bnew Date(007)\x7d!".toList = some ⟨7, by decide, by decide⟩ ∧
    DateLiteral.instant? "$\x7bnew Date(8210266876800000)\x7d".toList = none ∧
    quoteDateCallsFrom .outside (DateCall.text "8210266876800000".toList) =
      "\"$\x7bnew Date(8210266876800000)\x7d\"".toList ∧
    (Value.string "$\x7bnew Date(8210266876800000)\x7d").patchDates =
      .string "$\x7bnew Date(8210266876800000)\x7d" := by
  have zeros : IsDigits "007".toList := ⟨by decide, List.all_eq_true.1 rfl⟩
  have far : IsDigits "8210266876800000".toList := ⟨by decide, List.all_eq_true.1 rfl⟩
  obtain ⟨sizes, instants, -, -, placeholders⟩ := date_calls_become_instants
  obtain ⟨quoted, -, patched⟩ := placeholders _ [] far
  refine ⟨(sizes _ 13).2 ⟨"007".toList, [']'], zeros, rfl, by decide⟩,
    ((instants _ ['!'] zeros).1 _).2 (by decide), (instants _ [] far).2.2 (by decide), ?_, patched⟩
  have done : quoteDateCallsFrom .outside [] = [] := by rw [quoteDateCallsFrom]
  rw [List.append_nil, done] at quoted
  exact quoted

end DocTable
