import DocTable.Proofs.Json.Reading
import DocTable.Proofs.Query.Literals
import DocTable.Query.Parser
import Mathlib.Data.List.Forall2

/-!
# Bare dates

A date call among the arguments is quoted, so that it becomes the string of a date literal; a text
that is JSON already stays as it is, whatever its strings hold. What carries both is that the state
of quoting is `outside` between any two tokens.
-/

namespace DocTable

open Json (Token spell IsBody IsDigits IsText)

namespace DateCall

variable {s digits rest : List Char}

theorem head_of_opening {c : Char} (h : opening <+: c :: s) : c = 'n' ∧ s.head? = some 'e' := by
  obtain ⟨behind, text⟩ := h
  have spelt : opening ++ behind = 'n' :: 'e' :: ("w Date(".toList ++ behind) := rfl
  obtain ⟨rfl, rfl⟩ := List.cons.inj (spelt.symm.trans text)
  exact ⟨rfl, rfl⟩

theorem read?_text (run : IsDigits digits) : read? (text digits ++ rest) = some (digits, rest) := by
  have stop : Digits.isDigit ')' = false := rfl
  have taken : (digits ++ ')' :: rest).takeWhile Digits.isDigit = digits := by
    simp [List.takeWhile_append_of_pos run.2, stop]
  have dropped : (digits ++ ')' :: rest).dropWhile Digits.isDigit = ')' :: rest := by
    simp [List.dropWhile_append_of_pos run.2, stop]
  have opened : Text.dropMark? opening (text digits ++ rest) = some (digits ++ ')' :: rest) :=
    Text.dropMark?_eq_some_iff.2 (by simp [text])
  have closed : Text.dropMark? [')'] (')' :: rest) = some rest :=
    Text.dropMark?_eq_some_iff.2 rfl
  simp only [read?, opened, taken, dropped, closed, Option.bind_eq_bind, Option.bind_some]
  simp [run.1]

theorem isDigits_of_read? (h : read? s = some (digits, rest)) : IsDigits digits := by
  simp only [read?, Option.bind_eq_bind, Option.bind_eq_some_iff] at h
  obtain ⟨r, -, after, -, h⟩ := h
  split at h
  · cases h
  · next some =>
    obtain ⟨rfl, -⟩ := Prod.mk.inj (Option.some.inj h)
    exact ⟨by simpa using some, fun c mem => List.mem_takeWhile_imp mem⟩

theorem read?_eq_some_iff :
    read? s = some (digits, rest) ↔ IsDigits digits ∧ s = text digits ++ rest := by
  constructor
  · exact fun h => ⟨isDigits_of_read? h, eq_text_append_of_read? h⟩
  · rintro ⟨run, rfl⟩
    exact read?_text run

theorem read?_eq_none_iff : read? s = none ↔ ∀ digits, IsDigits digits → ¬ text digits <+: s := by
  rw [Option.eq_none_iff_forall_ne_some]
  constructor
  · rintro none digits run ⟨rest, rfl⟩
    exact none (digits, rest) (read?_text run)
  · rintro free ⟨digits, rest⟩ found
    obtain ⟨run, text⟩ := read?_eq_some_iff.1 found
    exact free digits run ⟨rest, text.symm⟩

theorem opening_prefix_text (digits : List Char) : opening <+: text digits :=
  ⟨digits ++ [')'], by simp [text]⟩

theorem read?_eq_none (h : ¬ opening <+: s) : read? s = none :=
  read?_eq_none_iff.2 fun digits _ front => h ((opening_prefix_text digits).trans front)

end DateCall

/-! ## The state between tokens -/

variable {s rest body digits : List Char} {c : Char}

theorem quoteDateCallsFrom_inside :
    quoteDateCallsFrom .inside (c :: rest) =
      c :: quoteDateCallsFrom (Quoting.inside.next c) rest := by
  rw [quoteDateCallsFrom, if_neg (by decide)]

theorem quoteDateCallsFrom_escaped :
    quoteDateCallsFrom .escaped (c :: rest) = c :: quoteDateCallsFrom .inside rest := by
  rw [quoteDateCallsFrom, if_neg (by decide)]
  rfl

theorem quoteDateCallsFrom_of_none (h : DateCall.read? (c :: rest) = none) :
    quoteDateCallsFrom .outside (c :: rest) =
      c :: quoteDateCallsFrom (Quoting.outside.next c) rest := by
  rw [quoteDateCallsFrom, if_pos rfl]
  split
  · next found => rw [h] at found; cases found
  · rfl

theorem quoteDateCallsFrom_outside (h : ¬ DateCall.opening <+: c :: rest) :
    quoteDateCallsFrom .outside (c :: rest) =
      c :: quoteDateCallsFrom (Quoting.outside.next c) rest :=
  quoteDateCallsFrom_of_none (DateCall.read?_eq_none h)

theorem quoteDateCallsFrom_text (run : IsDigits digits) :
    quoteDateCallsFrom .outside (DateCall.text digits ++ rest) =
      '"' :: '$' :: '{' :: DateCall.text digits ++
        '}' :: '"' :: quoteDateCallsFrom .outside rest := by
  have cut : DateCall.read? (DateCall.text digits ++ rest) = some (digits, rest) :=
    DateCall.read?_text run
  have head : DateCall.text digits ++ rest =
      'n' :: ("ew Date(".toList ++ digits ++ [')'] ++ rest) := rfl
  rw [head] at cut ⊢
  rw [quoteDateCallsFrom, if_pos rfl]
  split
  · next found =>
    rw [cut] at found
    obtain ⟨rfl, rfl⟩ := Prod.mk.inj (Option.some.inj found)
    rfl
  · next absent => rw [cut] at absent; cases absent

theorem quoteDateCallsFrom_enclosed (h : Enclosed body) :
    quoteDateCallsFrom .inside (body ++ rest) = body ++ quoteDateCallsFrom .inside rest := by
  induction h with
  | nil => rfl
  | plain quote backslash _ ih =>
    simp [quoteDateCallsFrom_inside, Quoting.next, quote, backslash, ih]
  | escaped _ ih =>
    simp [quoteDateCallsFrom_inside, quoteDateCallsFrom_escaped, Quoting.next, ih]

theorem quoteDateCallsFrom_quote :
    quoteDateCallsFrom .outside ('"' :: rest) = '"' :: quoteDateCallsFrom .inside rest :=
  quoteDateCallsFrom_outside fun front => by simpa using (DateCall.head_of_opening front).1

theorem quoteDateCallsFrom_literal (h : Enclosed body) :
    quoteDateCallsFrom .outside ('"' :: (body ++ '"' :: rest)) =
      '"' :: (body ++ '"' :: quoteDateCallsFrom .outside rest) := by
  rw [quoteDateCallsFrom_quote, quoteDateCallsFrom_enclosed h, quoteDateCallsFrom_inside]
  rfl

theorem quoteDateCallsFrom_unclosed (h : Unclosed body) :
    quoteDateCallsFrom .outside ('"' :: body) = '"' :: body := by
  have done (state : Quoting) : quoteDateCallsFrom state [] = [] := by rw [quoteDateCallsFrom]
  rw [quoteDateCallsFrom_quote]
  rcases h with h | ⟨front, rfl, h⟩
  · have whole : quoteDateCallsFrom .inside (body ++ []) = _ := quoteDateCallsFrom_enclosed h
    simpa [done] using whole
  · rw [quoteDateCallsFrom_enclosed h, quoteDateCallsFrom_inside, done]

theorem quoteDateCallsFrom_append {cs : List Char} (h : ∀ c ∈ cs, c ≠ '"' ∧ c ≠ 'n') :
    quoteDateCallsFrom .outside (cs ++ rest) = cs ++ quoteDateCallsFrom .outside rest := by
  induction cs with
  | nil => rfl
  | cons c cs ih =>
    obtain ⟨quote, start⟩ := h c (List.mem_cons_self ..)
    have later : ¬ DateCall.opening <+: c :: (cs ++ rest) :=
      fun front => start (DateCall.head_of_opening front).1
    rw [List.cons_append, quoteDateCallsFrom_outside later, Quoting.next, if_neg quote,
      ih fun d mem => h d (List.mem_cons_of_mem c mem), List.cons_append]

theorem quoteDateCallsFrom_token {t : Token} (h : t.IsLexeme) :
    quoteDateCallsFrom .outside (t.text ++ rest) = t.text ++ quoteDateCallsFrom .outside rest := by
  cases t with
  | blank c =>
    have space : Json.Reader.isSpace c = true := h
    refine quoteDateCallsFrom_append fun d mem => ?_
    rw [List.mem_singleton.1 mem]
    constructor <;> rintro rfl <;> exact absurd space (by decide)
  | mark c =>
    have known : c ∈ Json.marks := h
    refine quoteDateCallsFrom_append fun d mem => ?_
    rw [List.mem_singleton.1 mem]
    constructor <;> rintro rfl <;> exact absurd known (by decide)
  | word letters =>
    have known : letters ∈ Json.words := h
    have null : quoteDateCallsFrom .outside ('n' :: ['u', 'l', 'l'] ++ rest) =
        'n' :: quoteDateCallsFrom .outside (['u', 'l', 'l'] ++ rest) :=
      quoteDateCallsFrom_outside fun front => by simpa using (DateCall.head_of_opening front).2
    rcases known with _ | ⟨_, _ | ⟨_, _ | ⟨_, ⟨⟩⟩⟩⟩
    · rw [Token.text, null, quoteDateCallsFrom_append (by simp)]
      rfl
    · exact quoteDateCallsFrom_append (by simp [Token.text])
    · exact quoteDateCallsFrom_append (by simp [Token.text])
  | number text =>
    refine quoteDateCallsFrom_append fun d mem => ?_
    have known := h.mem mem
    constructor <;> rintro rfl <;> exact absurd known (by decide)
  | string body =>
    have valid : IsBody body := h
    simp [Token.text, quoteDateCallsFrom_literal valid.enclosed]

/-! ## Lists of arguments -/

/-- A token as it may be written among the arguments: as it is, and the string of a date literal
as the bare call, too. -/
inductive Written : Token → List Char → Prop
  | asIs (t : Token) : Written t t.text
  | bare {digits : List Char} : IsDigits digits →
      Written (.string ('$' :: '{' :: DateCall.text digits ++ ['}'])) (DateCall.text digits)

/-- Some of the strings of `list` that are date literals are written as bare calls in `written`. -/
def BareDates (list written : List Char) : Prop :=
  ∃ tokens pieces, (∀ t ∈ tokens, t.IsLexeme) ∧ list = spell tokens ∧
    List.Forall₂ Written tokens pieces ∧ written = pieces.flatten

theorem quoteDateCallsFrom_written {t : Token} {piece : List Char} (h : Written t piece)
    (lexeme : t.IsLexeme) :
    quoteDateCallsFrom .outside (piece ++ rest) = t.text ++ quoteDateCallsFrom .outside rest := by
  cases h with
  | asIs => exact quoteDateCallsFrom_token lexeme
  | bare run => simp [quoteDateCallsFrom_text run, Token.text]

theorem quoteDateCallsFrom_pieces {tokens : List Token} {pieces : List (List Char)}
    (written : List.Forall₂ Written tokens pieces) (lexemes : ∀ t ∈ tokens, t.IsLexeme) :
    quoteDateCallsFrom .outside pieces.flatten = spell tokens := by
  induction written with
  | nil => rw [List.flatten_nil, quoteDateCallsFrom, Json.spell_nil]
  | cons first more ih =>
    rw [List.flatten_cons, quoteDateCallsFrom_written first (lexemes _ (List.mem_cons_self ..)),
      ih fun t mem => lexemes t (List.mem_cons_of_mem _ mem), Json.spell_cons]

/-- A text without the beginning of a call would be left alone by the search for calls, too. -/
theorem quoteDateCallsFrom_eq_self {state : Quoting} (h : ¬ DateCall.opening <:+: s) :
    quoteDateCallsFrom state s = s := by
  induction s generalizing state with
  | nil => rw [quoteDateCallsFrom]
  | cons c s ih =>
    rw [List.infix_cons_iff, not_or] at h
    cases state with
    | outside => rw [quoteDateCallsFrom_outside h.1, ih h.2]
    | inside => rw [quoteDateCallsFrom_inside, ih h.2]
    | escaped => rw [quoteDateCallsFrom_escaped, ih h.2]

theorem quoteDateCalls_eq (s : List Char) : quoteDateCalls s = quoteDateCallsFrom .outside s := by
  rw [quoteDateCalls]
  split
  · next absent =>
    rw [Option.isNone_iff_eq_none, Text.breakOn?_eq_none_iff] at absent
    exact (quoteDateCallsFrom_eq_self absent).symm
  · rfl

/-- The search for bare calls gives back the strings that they are written for. -/
theorem BareDates.quoted {list written : List Char} (h : BareDates list written) :
    quoteDateCalls written = list := by
  obtain ⟨tokens, pieces, lexemes, rfl, spelt, rfl⟩ := h
  rw [quoteDateCalls_eq, quoteDateCallsFrom_pieces spelt lexemes]

theorem BareDates.refl {list : List Char} (valid : IsText ('[' :: list ++ [']'])) :
    BareDates list list := by
  obtain ⟨tokens, lexemes, rfl⟩ := valid.exists_lexemes
  refine ⟨tokens, tokens.map Token.text, lexemes, rfl, ?_, List.flatMap_def⟩
  exact List.forall₂_map_right_iff.2 (List.forall₂_same.2 fun t _ => .asIs t)

theorem quoteDateCalls_eq_self {list : List Char} (valid : IsText ('[' :: list ++ [']'])) :
    quoteDateCalls list = list :=
  (BareDates.refl valid).quoted

/-! ## Reading the arguments -/

theorem Written.eq_of_allBlank {t : Token} {piece : List Char} (h : Written t piece)
    (blank : Text.allBlank piece = true ∨ Text.allBlank t.text = true) : piece = t.text := by
  cases h with
  | asIs => rfl
  | bare =>
    have quote : Text.isBlank '"' = false := by decide
    have letter : Text.isBlank 'n' = false := by decide
    rcases blank with blank | blank
    · exact absurd (List.all_eq_true.1 blank 'n' (List.mem_cons_self ..)) (by simp [letter])
    · exact absurd (List.all_eq_true.1 blank '"' (List.mem_cons_self ..)) (by simp [quote])

/-- Nothing is written differently in a blank list, so both are blank or neither is. -/
theorem BareDates.allBlank_eq {list written : List Char} (h : BareDates list written) :
    Text.allBlank written = Text.allBlank list := by
  obtain ⟨tokens, pieces, -, rfl, spelt, rfl⟩ := h
  induction spelt with
  | nil => rfl
  | @cons t piece tokens pieces first _ ih =>
    have same : Text.allBlank piece = Text.allBlank t.text := by
      rw [Bool.eq_iff_iff]
      exact ⟨fun blank => first.eq_of_allBlank (.inl blank) ▸ blank,
        fun blank => first.eq_of_allBlank (.inr blank) ▸ blank⟩
    rw [List.flatten_cons, Json.spell_cons, Text.allBlank, Text.allBlank, List.all_append,
      List.all_append]
    exact congrArg₂ and same ih

def Method.argumentsOf (method : Method) (items : List Value) : Value × Option Value :=
  ((items.head?.getD method.emptyFilter).patchDates,
    match method with
    | .find => items[1]?
    | .aggregate => none)

theorem readArguments_eq (method : Method) (written : List Char) :
    Query.readArguments method written =
      let text := if Text.allBlank written then method.defaultArguments.toList else written
      ((decodeArguments (quoteDateCalls text)).map method.argumentsOf).mapError
        (Query.argumentsError method.name text) := by
  simp only [Query.readArguments]
  cases decodeArguments (quoteDateCalls _) <;> rfl

theorem readArguments_written {method : Method} {written : List Char}
    (present : Text.allBlank written = false) :
    Query.readArguments method written =
      ((decodeArguments (quoteDateCalls written)).map method.argumentsOf).mapError
        (Query.argumentsError method.name written) := by
  rw [readArguments_eq, present]
  rfl

/-- A date call may be written bare, or quoted as the string of a date literal: whichever of the
strings of a JSON list are written as bare calls, the list is read as it stands, with the same
values or for the same reason with none. A list without bare calls stays as it is. -/
theorem bare_dates_read_as_quoted {list : List Char} (valid : IsText ('[' :: list ++ [']'])) :
    quoteDateCalls list = list ∧ ∀ written, BareDates list written →
      quoteDateCalls written = list ∧
      ∀ method : Method, ∃ outcome : Except DecodeError (Value × Option Value),
        Query.readArguments method list = outcome.mapError (Query.argumentsError method.name list) ∧
        Query.readArguments method written =
          outcome.mapError (Query.argumentsError method.name written) := by
  refine ⟨quoteDateCalls_eq_self valid, fun written bare => ⟨bare.quoted, fun method => ?_⟩⟩
  rw [readArguments_eq, readArguments_eq, bare.allBlank_eq]
  cases Text.allBlank list with
  | true =>
    obtain ⟨items, decoded⟩ :
        ∃ items, decodeArguments (quoteDateCalls method.defaultArguments.toList) = .ok items := by
      cases method with
      | find => exact ⟨[.document []], rfl⟩
      | aggregate => exact ⟨[.array []], rfl⟩
    exact ⟨.ok (method.argumentsOf items), by simp [decoded, Except.map, Except.mapError],
      by simp [decoded, Except.map, Except.mapError]⟩
  | false =>
    refine ⟨(decodeArguments list).map method.argumentsOf, ?_, ?_⟩
    · simp [quoteDateCalls_eq_self valid]
    · simp [bare.quoted]

/-- A date literal, and a string that holds a call behind an escaped quote. -/
def datedTokens : List Token :=
  [.mark '{', .string ['t'], .mark ':', .string ('$' :: '{' :: DateCall.text ['5'] ++ ['}']),
    .mark ',', .string ['n'], .mark ':', .string ('\\' :: '"' :: DateCall.text ['6']), .mark '}']

def datedPieces : List (List Char) :=
  [['{'], "\"t\"".toList, [':'], DateCall.text ['5'], [','], "\"n\"".toList, [':'],
    "\"\\\"new Date(6)\"".toList, ['}']]

theorem bare_dates_read_as_quoted_beside_escape :
    IsText ('[' :: spell datedTokens ++ [']']) ∧ BareDates (spell datedTokens) datedPieces.flatten ∧
    quoteDateCalls (spell datedTokens) = spell datedTokens ∧
    quoteDateCalls datedPieces.flatten = spell datedTokens ∧
    ∃ outcome : Except DecodeError (Value × Option Value),
      Query.readArguments .find (spell datedTokens) =
        outcome.mapError (Query.argumentsError "find" (spell datedTokens)) ∧
      Query.readArguments .find datedPieces.flatten =
        outcome.mapError (Query.argumentsError "find" datedPieces.flatten) := by
  obtain ⟨v, parsed⟩ : ∃ v, Json.parse ('[' :: spell datedTokens ++ [']']) = .ok v := ⟨_, rfl⟩
  have valid := Json.isText_of_parse parsed
  have plain {s : List Char} (h : s.all (fun c => c != '"' && c != '\\' && 0x20 ≤ c.toNat) = true) :
      IsBody s := by
    induction s with
    | nil => exact .nil
    | cons c s ih =>
      obtain ⟨⟨⟨quote, backslash⟩, visible⟩, others⟩ := by simpa using h
      exact .plain quote backslash visible (ih (by simpa using others))
  have lexemes : ∀ t ∈ datedTokens, t.IsLexeme := by
    simp only [datedTokens, List.forall_mem_cons, Token.IsLexeme]
    exact ⟨by decide, plain (by decide), by decide, plain (by decide), by decide,
      plain (by decide), by decide, .escape (by decide) (plain (by decide)), by decide, nofun⟩
  have bare : BareDates (spell datedTokens) datedPieces.flatten :=
    ⟨_, _, lexemes, rfl,
      .cons (.asIs _) (.cons (.asIs _) (.cons (.asIs _)
        (.cons (.bare ⟨nofun, by simp [Digits.isDigit]⟩)
          (.cons (.asIs _) (.cons (.asIs _) (.cons (.asIs _) (.cons (.asIs _)
            (.cons (.asIs _) .nil)))))))), rfl⟩
  obtain ⟨same, every⟩ := bare_dates_read_as_quoted valid
  obtain ⟨quoted, outcome⟩ := every _ bare
  exact ⟨valid, bare, same, quoted, outcome .find⟩

end DocTable
