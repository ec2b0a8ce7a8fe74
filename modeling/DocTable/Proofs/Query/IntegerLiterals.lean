import DocTable.Proofs.Json.Writing
import DocTable.Proofs.Number.Rounding
import DocTable.Proofs.Query.Separation

/-!
# Integer literals

An integer is decoded in the narrowest kind that holds it, whatever the number of its digits, and
goes to the store as it was written. Only one beyond 64 bits becomes a double, and one beyond the
doubles is refused, `integers_keep_their_value`.
-/

namespace DocTable

namespace Json

/-! ## Digits -/

theorem foldl_digits_pos (digits : List Char) {n : Nat} (positive : 0 < n) :
    0 < digits.foldl (fun n c => n * 10 + Digits.valueOf c) n := by
  induction digits generalizing n with
  | nil => exact positive
  | cons d digits ih => exact ih (n := n * 10 + Digits.valueOf d) (by omega)

theorem IsWhole.value_pos {digits : List Char} (whole : IsWhole digits)
    (nonzero : digits ≠ ['0']) : 0 < Digits.value digits := by
  obtain rfl | ⟨run, first⟩ := whole
  · exact absurd rfl nonzero
  · obtain ⟨d, digits, rfl⟩ := List.exists_cons_of_ne_nil run.1
    have digit : 48 ≤ d.toNat := by
      have digit : Digits.isDigit d = true := run.2 d (List.mem_cons_self ..)
      simp only [Digits.isDigit, Bool.and_eq_true, decide_eq_true_eq] at digit
      exact digit.1
    have other : d.toNat ≠ 48 := fun same =>
      first (congrArg some (Char.toNat_inj.1 (show d.toNat = '0'.toNat from same)))
    exact foldl_digits_pos digits (by simp [Digits.valueOf]; omega)

/-! ## Failures -/

theorem Position.after_line {front : List Char} (line : '\n' ∉ front) (rest : List Char) :
    after (Utf8.size front) (front ++ rest) = ⟨1, Utf8.size front⟩ := by
  suffices passed : ∀ column, after.go (Utf8.size front) 1 column (front ++ rest) =
      ⟨1, column + Utf8.size front⟩ by
    simpa [after] using passed 0
  induction front with
  | nil =>
    intro column
    cases rest <;> simp [after.go]
  | cons c front ih =>
    intro column
    rw [List.mem_cons, not_or] at line
    have bytes := c.utf8Size_pos
    have inside : Utf8.size (c :: front) ≠ 0 := by
      rw [Utf8.size_cons]
      omega
    rw [List.cons_append, after.go, if_neg inside, if_neg (Ne.symm line.1),
      if_pos (by simp), Utf8.size_cons, Nat.add_sub_cancel_left, ih line.2, Nat.add_assoc]

theorem Reader.value_array_error {depth : Nat} {s : List Char} {f : Failure}
    (failed : Reader.items (Reader.value depth) s = .error f) :
    Reader.value (depth + 1) ('[' :: s) = .error f := by
  rw [Reader.value.eq_def, Reader.skipSpace_cons (by decide)]
  simp [failed, bind, Except.bind]

end Json

theorem decodeArguments_eq_error {text s : List Char} {c : Char} {f : Json.Failure}
    (same : text = c :: s) (space : Json.Reader.isSpace c = false) (bracket : c ≠ ']')
    (failed : Json.Reader.value 126 (text ++ [']']) = .error f) :
    decodeArguments text = .error (.json (f.locate ('[' :: text ++ [']']))) := by
  have front : Json.Reader.skipSpace (text ++ [']']) = c :: (s ++ [']']) := by
    rw [same, List.cons_append, Json.Reader.skipSpace_cons space]
  have item : Json.Reader.items (Json.Reader.value 126) (text ++ [']']) = .error f := by
    rw [Json.Reader.items_eq_itemsFrom Json.Reader.readsItems_value front bracket,
      Json.Reader.itemsFrom, failed]
    rfl
  have read : Json.Reader.value Json.nestingLimit ('[' :: (text ++ [']'])) = .error f :=
    Json.Reader.value_array_error item
  simp [decodeArguments, Json.parse, read, bind, Except.bind, Except.mapError]

/-! ## Literals -/

open Json.Reader (Breaks Takes numeral number value_number)
open BinaryFormat (doubleLimit)

/-- The text of an integer in JSON; zero has no minus. -/
structure IntegerLiteral where
  negative : Bool
  digits : List Char
  whole : Json.IsWhole digits
  nonzero : negative = true → digits ≠ ['0']

namespace IntegerLiteral

variable (l : IntegerLiteral) {more : List Char}

def sign : List Char := if l.negative then ['-'] else []

def text : List Char := l.sign ++ l.digits

def value : Int := if l.negative then -Digits.value l.digits else Digits.value l.digits

/-! ## Its value -/

theorem natAbs_value : l.value.natAbs = Digits.value l.digits := by
  unfold value
  split <;> omega

theorem value_neg_iff : l.value < 0 ↔ l.negative = true := by
  unfold value
  cases negative : l.negative with
  | true =>
    have positive := l.whole.value_pos (l.nonzero negative)
    simp only [if_true, iff_true]
    omega
  | false => simp

/-! ## Its reading -/

theorem numeral_text (stop : Breaks more) :
    numeral (l.text ++ more) = .ok (⟨l.negative, l.digits, [], 0, true⟩, more) := by
  have signs : l.sign = [] ∨ l.sign = ['-'] := by
    unfold sign
    split <;> simp
  have minus : decide (l.sign ≠ []) = l.negative := by
    unfold sign
    cases l.negative <;> rfl
  have read := Json.Reader.numeral_append signs l.whole (stop.mono (List.nil_subset _))
    (Json.Reader.fractionPart_of_avoids (stop.mono (by simp)))
    (Json.Reader.exponentPart_of_breaks stop)
  rw [text, List.append_assoc, read, minus]
  rfl

theorem integer?_numeral :
    Json.Reader.Numeral.integer? ⟨l.negative, l.digits, [], 0, true⟩ =
      if -2 ^ 63 ≤ l.value ∧ l.value < 2 ^ 64 then some l.value else none := by
  have least : Int64.minValue.toInt = -2 ^ 63 := by decide
  have size : UInt64.size = 2 ^ 64 := by decide
  unfold Json.Reader.Numeral.integer? value
  rw [least, size]
  cases negative : l.negative with
  | true =>
    have positive := l.whole.value_pos (l.nonzero negative)
    have below : -(Digits.value l.digits : Int) < 18446744073709551616 := by omega
    simp [positive, below]
  | false => simp

theorem double_numeral :
    Json.Reader.Numeral.double ⟨l.negative, l.digits, [], 0, true⟩ =
      .ofRatio (l.value < 0) l.value.natAbs 1 := by
  have sign : decide (l.value < 0) = l.negative := by simp [value_neg_iff]
  rw [Json.Reader.Numeral.double, sign, natAbs_value]
  simp [BinaryFloat.ofDecimal_integer_eq_ofRatio]

theorem number_text (stop : Breaks more) :
    number (l.text ++ more) =
      if -2 ^ 63 ≤ l.value ∧ l.value < 2 ^ 64 then .ok (.integer l.value, more)
      else if l.value.natAbs < doubleLimit then
        .ok (.float (.ofRatio (l.value < 0) l.value.natAbs 1), more)
      else .error ⟨.numberOutOfRange, more, 0⟩ := by
  have finite := BinaryFloat.isFinite_ofRatio_one (l.value < 0) l.value.natAbs
  simp only [number, numeral_text l stop, integer?_numeral, double_numeral, finite, bind,
    Except.bind]
  by_cases fits : -2 ^ 63 ≤ l.value ∧ l.value < 2 ^ 64
  · simp only [if_pos fits]
  · simp only [if_neg fits]
    rfl

theorem exists_cons_text : ∃ c s, l.text = c :: s ∧ (c = '-' ∨ Digits.isDigit c = true) := by
  unfold text sign
  split
  · exact ⟨_, _, rfl, .inl rfl⟩
  · obtain ⟨d, digits, same, digit⟩ := Json.Reader.exists_digit_of_isWhole l.whole
    exact ⟨d, digits, same, .inr digit⟩

theorem no_line : '\n' ∉ '[' :: l.text := by
  have digits : '\n' ∉ l.digits := by
    rcases l.whole with zero | ⟨run, -⟩
    · rw [zero]
      decide
    · exact fun mem => absurd (run.2 '\n' mem) (by decide)
  unfold text sign
  split <;> simpa using digits

theorem value_text {depth : Nat} (more : List Char) :
    Json.Reader.value depth (l.text ++ more) = number (l.text ++ more) := by
  obtain ⟨c, s, same, head⟩ := l.exists_cons_text
  rw [same, List.cons_append, value_number head]

/-! ## Its decoding -/

theorem decodeArguments_text {e : Json} {b : Bson}
    (reads : ∀ more, Breaks more → number (l.text ++ more) = .ok (e, more))
    (decoded : ExtendedJson.toBson e = .ok b) : decodeArguments l.text = .ok [.ofBson b] := by
  have takes : Takes (Json.Reader.value 126) l.text e := fun more stop =>
    (l.value_text more).trans (reads more stop)
  exact decodeArguments_eq_ok_singleton_iff.2
    ⟨e, b, ⟨l.text, [], (List.append_nil _).symm, takes, nofun⟩, decoded, rfl⟩

theorem decodeArguments_integer (fits : -2 ^ 63 ≤ l.value ∧ l.value < 2 ^ 64) :
    decodeArguments l.text = .ok [.ofBson (ExtendedJson.ofInteger l.value)] :=
  l.decodeArguments_text (fun more stop => by rw [l.number_text stop, if_pos fits]) rfl

theorem decodeArguments_double (beyond : ¬ (-2 ^ 63 ≤ l.value ∧ l.value < 2 ^ 63))
    (finite : l.value.natAbs < doubleLimit) :
    decodeArguments l.text = .ok [.float64 (.ofRatio (l.value < 0) l.value.natAbs 1)] := by
  by_cases fits : -2 ^ 63 ≤ l.value ∧ l.value < 2 ^ 64
  · have unsigned : ExtendedJson.ofInteger l.value =
        .double (.ofRatio (l.value < 0) l.value.natAbs 1) := by
      have least : Int64.minValue.toInt = -2 ^ 63 := by decide
      have greatest : Int64.maxValue.toInt = 2 ^ 63 - 1 := by decide
      have least32 : Int32.minValue.toInt = -2 ^ 31 := by decide
      have greatest32 : Int32.maxValue.toInt = 2 ^ 31 - 1 := by decide
      rw [ExtendedJson.ofInteger, if_neg (by omega), if_neg (by omega)]
    rw [l.decodeArguments_integer fits, unsigned]
    rfl
  · exact l.decodeArguments_text
      (fun more stop => by rw [l.number_text stop, if_neg fits, if_pos finite]) rfl

/-- The place is behind the literal, where no line has ended. -/
theorem decodeArguments_infinite (infinite : doubleLimit ≤ l.value.natAbs) :
    decodeArguments l.text =
      .error (.json ⟨.numberOutOfRange, 1, Utf8.size ('[' :: l.text)⟩) := by
  have size := BinaryFormat.two_pow_le_doubleLimit
  have beyond : ¬ (-2 ^ 63 ≤ l.value ∧ l.value < 2 ^ 64) := by omega
  have failed : number (l.text ++ [']']) = .error ⟨.numberOutOfRange, [']'], 0⟩ := by
    rw [l.number_text (Json.Reader.breaks_mark (by decide)), if_neg beyond, if_neg (by omega)]
  obtain ⟨c, s, same, head⟩ := l.exists_cons_text
  have space : Json.Reader.isSpace c = false := by
    rcases head with rfl | digit
    · rfl
    · exact Json.Reader.isSpace_of_isDigit digit
  have bracket : c ≠ ']' := by
    rintro rfl
    revert head
    decide
  have place : Json.Position.after (Utf8.size ('[' :: l.text)) ('[' :: l.text ++ [']']) = _ :=
    Json.Position.after_line (l.no_line) [']']
  rw [decodeArguments_eq_error same space bracket ((l.value_text _).trans failed)]
  simp only [Json.Failure.locate, Json.Failure.position, Utf8.size_append, Nat.add_sub_cancel,
    Nat.add_zero, place]

end IntegerLiteral

/-! ## Every literal -/

/-- A literal of 32 or of 64 bits is decoded in just that width, with the value that it spells, and
goes to the store in the same width. Any other is the double nearest to it, if there is one, and
fails behind its last digit if not. -/
theorem integers_keep_their_value (l : IntegerLiteral) :
    (-2 ^ 31 ≤ l.value ∧ l.value < 2 ^ 31 → ∃ n : Int32, n.toInt = l.value ∧
      decodeArguments l.text = .ok [.int32 n] ∧ (Value.int32 n).toBson = .int32 n) ∧
    (¬ (-2 ^ 31 ≤ l.value ∧ l.value < 2 ^ 31) → -2 ^ 63 ≤ l.value ∧ l.value < 2 ^ 63 →
      ∃ n : Int64, n.toInt = l.value ∧
        decodeArguments l.text = .ok [.int64 n] ∧ (Value.int64 n).toBson = .int64 n) ∧
    (¬ (-2 ^ 63 ≤ l.value ∧ l.value < 2 ^ 63) → ∀ x : Binary64,
      x = .ofRatio (l.value < 0) l.value.natAbs 1 →
        (x.isFinite = true ↔ l.value.natAbs < doubleLimit) ∧
        decodeArguments l.text = if x.isFinite then .ok [.float64 x]
          else .error (.json ⟨.numberOutOfRange, 1, Utf8.size ('[' :: l.text)⟩)) := by
  have least32 : Int32.minValue.toInt = -2 ^ 31 := by decide
  have greatest32 : Int32.maxValue.toInt = 2 ^ 31 - 1 := by decide
  have least64 : Int64.minValue.toInt = -2 ^ 63 := by decide
  have greatest64 : Int64.maxValue.toInt = 2 ^ 63 - 1 := by decide
  refine ⟨fun small => ?int32, fun large small => ?int64, fun beyond x nearest => ?double⟩
  case int32 =>
    refine ⟨Int32.ofInt l.value, Int32.toInt_ofInt_of_le small.1 small.2, ?_, rfl⟩
    rw [l.decodeArguments_integer (by omega), ExtendedJson.ofInteger, if_pos (by omega)]
    rfl
  case int64 =>
    refine ⟨Int64.ofInt l.value, Int64.toInt_ofInt_of_le small.1 small.2, ?_, rfl⟩
    rw [l.decodeArguments_integer (by omega), ExtendedJson.ofInteger, if_neg (by omega),
      if_pos (by omega)]
    rfl
  case double =>
    have finite : x.isFinite = true ↔ l.value.natAbs < doubleLimit :=
      nearest ▸ BinaryFloat.isFinite_ofRatio_one ..
    refine ⟨finite, ?_⟩
    split
    · next small => rw [l.decodeArguments_double beyond (finite.1 small), nearest]
    · next large => exact l.decodeArguments_infinite (Nat.le_of_not_lt (finite.2.mt large))

def IntegerLiteral.ofNat (n : Nat) : IntegerLiteral :=
  ⟨false, Nat.toDigits 10 n, Json.Reader.isWhole_toDigits n, nofun⟩

theorem IntegerLiteral.text_ofNat (n : Nat) : (ofNat n).text = Nat.toDigits 10 n := rfl

theorem IntegerLiteral.value_ofNat (n : Nat) : (ofNat n).value = n :=
  congrArg Nat.cast (Digits.value_toDigits n)

theorem integers_keep_their_value_limits :
    (∃ n : Int32, n.toInt = -2147483648 ∧
      decodeArguments "-2147483648".toList = .ok [.int32 n]) ∧
    (∃ n : Int64, n.toInt = 2147483648 ∧
      decodeArguments "2147483648".toList = .ok [.int64 n]) ∧
    (∃ x : Binary64, x.isFinite = true ∧
      decodeArguments "9223372036854775808".toList = .ok [.float64 x]) ∧
    decodeArguments (Nat.toDigits 10 doubleLimit) =
      .error (.json ⟨.numberOutOfRange, 1, Utf8.size ('[' :: Nat.toDigits 10 doubleLimit)⟩) := by
  refine ⟨?least32, ?above32, ?above64, ?above⟩
  case least32 =>
    obtain ⟨small, -, -⟩ := integers_keep_their_value ⟨true, "2147483648".toList,
      .inr ⟨⟨nofun, List.all_eq_true.1 rfl⟩, nofun⟩, fun _ => nofun⟩
    obtain ⟨n, value, decoded, -⟩ := small (by decide)
    exact ⟨n, value, decoded⟩
  case above32 =>
    obtain ⟨-, wide, -⟩ := integers_keep_their_value ⟨false, "2147483648".toList,
      .inr ⟨⟨nofun, List.all_eq_true.1 rfl⟩, nofun⟩, nofun⟩
    obtain ⟨n, value, decoded, -⟩ := wide (by decide) (by decide)
    exact ⟨n, value, decoded⟩
  case above64 =>
    obtain ⟨-, -, beyond⟩ := integers_keep_their_value ⟨false, "9223372036854775808".toList,
      .inr ⟨⟨nofun, List.all_eq_true.1 rfl⟩, nofun⟩, nofun⟩
    obtain ⟨finite, decoded⟩ := beyond (by decide) _ rfl
    have inside := finite.2 (by decide +kernel)
    rw [if_pos inside] at decoded
    exact ⟨_, inside, decoded⟩
  case above =>
    have value := IntegerLiteral.value_ofNat doubleLimit
    have size := BinaryFormat.two_pow_le_doubleLimit
    obtain ⟨-, -, beyond⟩ := integers_keep_their_value (.ofNat doubleLimit)
    obtain ⟨finite, decoded⟩ := beyond (by omega) _ rfl
    rw [if_neg (finite.1.mt (by omega)), IntegerLiteral.text_ofNat] at decoded
    exact decoded

end DocTable
