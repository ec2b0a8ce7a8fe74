import DocTable.Proofs.Query.Arguments
import DocTable.Proofs.Query.Clauses
import DocTable.Proofs.Query.Quoting

/-!
# Where the arguments end

The arguments of a call end at the first mark of a sort, also where that stands in a string of
theirs. So arguments without the mark are taken whole, whatever else their strings hold, and with
it a string is torn in two and the call is refused, `find_arguments_end`.
-/

namespace DocTable

namespace Clauses

/-- Nothing that a mark or the ends of a query could be taken for. -/
def IsName (s : List Char) : Prop :=
  s ≠ [] ∧ ∀ c ∈ s, c ≠ '.' ∧ c ≠ '(' ∧ c ≠ ')' ∧ Text.isBlank c = false

instance (s : List Char) : Decidable (IsName s) :=
  decidable_of_iff
    (s ≠ [] ∧ s.all (fun c => c != '.' && c != '(' && c != ')' && !Text.isBlank c) = true)
    (by simp [IsName, and_assoc])

def text (c : Clauses) : List Char := c.call ++ [')']

def sortedText (c : Clauses) : List Char := c.call ++ sortMark ++ c.sortArguments ++ [')']

/-! ## Cutting -/

variable {c : Clauses} {s before rest : List Char}

theorem IsName.spells (database : IsName c.database) (collection : IsName c.collection)
    (free : ¬ sortMark <:+: c.arguments)
    (text : s = c.sortedText ∨ c.sortArguments = [] ∧ s = c.text) : c.Spells s where
  database_ne := database.1
  database_plain mem := (database.2 _ mem).1 rfl
  collection_ne := collection.1
  collection_plain mem := (collection.2 _ mem).1 rfl
  no_call m front := (collection.2 '(' (front.mem (by simp))).2.1 rfl
  no_sort := free
  text := text

theorem IsName.trim_eq_self (database : IsName c.database) (text : s = c.call ++ rest ++ [')']) :
    Text.trim s = s := by
  obtain ⟨first, others, name⟩ := List.exists_cons_of_ne_nil database.1
  refine Text.trim_eq_self ?_ ?_ <;> rintro d mem
  · have head : s.head? = some first := by simp [text, call, name]
    rw [head, Option.mem_some] at mem
    exact mem ▸ (database.2 first (name ▸ List.mem_cons_self ..)).2.2.2
  · rw [text, List.getLast?_concat, Option.mem_some] at mem
    exact mem ▸ by decide

theorem IsName.split?_trim (database : IsName c.database) (collection : IsName c.collection)
    (free : ¬ sortMark <:+: c.arguments)
    (text : s = c.sortedText ∨ c.sortArguments = [] ∧ s = c.text) :
    split? (Text.trim s) = some c := by
  have closed : ∃ rest, s = c.call ++ rest ++ [')'] := by
    rcases text with rfl | ⟨-, rfl⟩
    · exact ⟨sortMark ++ c.sortArguments, by simp [sortedText]⟩
    · exact ⟨[], by simp [Clauses.text]⟩
  obtain ⟨rest, shape⟩ := closed
  rw [database.trim_eq_self shape]
  exact split?_eq_some_iff_spells.2 (database.spells collection free text)

end Clauses

/-! ## Reading -/

namespace Query

variable {c : Clauses} {s written : List Char} {values : List Value} {defaultDatabase : String}

theorem parse_of_split? (h : Clauses.split? (Text.trim s) = some c) :
    parse (String.ofList s) defaultDatabase = ofClauses c defaultDatabase := by
  rw [parse, String.toList_ofList, h]

theorem readArguments_of_decoded {method : Method} (h : decodeArguments written = .ok values)
    (some : Text.allBlank written = false) :
    readArguments method written = .ok (method.argumentsOf values) := by
  rw [readArguments_written some, quoteDateCalls_eq_self (isText_of_decodeArguments h), h]
  rfl

theorem readSort_of_decoded (h : decodeArguments written = .ok values)
    (some : Text.allBlank written = false) : readSort written = .ok values.head? := by
  simp [readSort, some, h, Except.map, Except.mapError]

end Query

/-! ## Torn arguments -/

section Torn

variable {arguments before rest : List Char} {values : List Value}

theorem quote_open_before_mark (h : decodeArguments arguments = .ok values)
    (text : arguments = before ++ Clauses.sortMark ++ rest) :
    Quoting.outside.after before ≠ .outside := by
  intro closed
  obtain ⟨tokens, lexemes, spelt⟩ := (isText_of_decodeArguments h).exists_lexemes
  have cut : Json.spell tokens = before ++ ')' :: (".sort(".toList ++ rest) := by
    rw [spelt, text, List.append_assoc]
    rfl
  rcases Quoting.exists_token_of_after lexemes cut closed with quote | ⟨t, mem, inside, other⟩
  · exact absurd quote (by decide)
  · -- The mark begins with a parenthesis, which only a string can hold.
    have lexeme := lexemes t mem
    rcases lexeme.eq_mark_of_mem (by decide) (by decide) (by decide) inside with rfl | ⟨body, rfl⟩
    · have known : ')' ∈ Json.marks := lexeme
      exact absurd known (by decide)
    · exact other body rfl

theorem decodeArguments_torn (h : Quoting.outside.after before ≠ .outside) :
    ∃ e, decodeArguments (quoteDateCalls before) = .error e := by
  cases decoded : decodeArguments (quoteDateCalls before) with
  | error e => exact ⟨e, rfl⟩
  | ok values =>
    obtain ⟨tokens, lexemes, spelt⟩ := (isText_of_decodeArguments decoded).exists_lexemes
    rw [← Quoting.after_quoteDateCalls, ← spelt] at h
    exact absurd (Quoting.outside_after_spell lexemes) h

theorem allBlank_of_quote_open (h : Quoting.outside.after before ≠ .outside) :
    Text.allBlank before = false := by
  cases blank : Text.allBlank before with
  | false => rfl
  | true =>
    refine absurd (Quoting.outside_after fun quote => ?_) h
    exact absurd (List.all_eq_true.1 blank _ quote) (by decide)

theorem Query.parse_torn {c : Clauses} {s : List Char} (defaultDatabase : String)
    (cut : Clauses.split? (Text.trim s) = some c) (find : c.method = .find)
    (torn : Quoting.outside.after c.arguments ≠ .outside) {e : DecodeError}
    (failed : decodeArguments (quoteDateCalls c.arguments) = .error e) :
    parse (String.ofList s) defaultDatabase = .error (argumentsError "find" c.arguments e) := by
  have refused :
      readArguments c.method c.arguments = .error (argumentsError "find" c.arguments e) := by
    rw [readArguments_written (allBlank_of_quote_open torn), find, failed]
    rfl
  rw [parse_of_split? cut, ofClauses, refused]
  rfl

end Torn

/-- The text of a find is taken apart where its arguments end, if the mark of a sort does not occur
in them; its filter and its projection are then the first two of their values, and its sort is the
first one of the sort's. If the mark does occur in them, in a string, the text in front of it is
refused. -/
theorem find_arguments_end {database collection arguments sortArguments : List Char}
    {values sortValues : List Value} (defaultDatabase : String)
    (database_name : Clauses.IsName database) (collection_name : Clauses.IsName collection)
    (written : Text.allBlank arguments = false) (sort_written : Text.allBlank sortArguments = false)
    (decoded : decodeArguments arguments = .ok values)
    (sort_decoded : decodeArguments sortArguments = .ok sortValues) :
    let plain : Clauses := ⟨database, collection, .find, arguments, []⟩
    let sorted : Clauses := ⟨database, collection, .find, arguments, sortArguments⟩
    (¬ Clauses.sortMark <:+: arguments →
      Clauses.split? (Text.trim plain.text) = some plain ∧
      Clauses.split? (Text.trim sorted.sortedText) = some sorted ∧
      ∃ filter others sort sortOthers, values = filter :: others ∧ sortValues = sort :: sortOthers ∧
        let query : Query := {
          database := if database = "db".toList then defaultDatabase else String.ofList database
          collection := String.ofList collection
          method := .find
          filter := filter.patchDates
          projection := others.head?
          sort := none }
        Query.parse (String.ofList plain.text) defaultDatabase = .ok query ∧
        Query.parse (String.ofList sorted.sortedText) defaultDatabase =
          .ok { query with sort := some sort }) ∧
    ∀ before rest, arguments = before ++ Clauses.sortMark ++ rest →
      ¬ Clauses.sortMark <:+: before →
      ∃ e, decodeArguments (quoteDateCalls before) = .error e ∧
        Query.parse (String.ofList plain.text) defaultDatabase =
          .error (Query.argumentsError "find" before e) ∧
        Query.parse (String.ofList sorted.sortedText) defaultDatabase =
          .error (Query.argumentsError "find" before e) := by
  intro plain sorted
  constructor
  · intro free
    have cut : Clauses.split? (Text.trim plain.text) = some plain :=
      Clauses.IsName.split?_trim database_name collection_name free (.inr ⟨rfl, rfl⟩)
    have cut' : Clauses.split? (Text.trim sorted.sortedText) = some sorted :=
      Clauses.IsName.split?_trim database_name collection_name free (.inl rfl)
    obtain ⟨filter, others, rfl⟩ :=
      List.exists_cons_of_ne_nil (decodeArguments_ne_nil decoded written)
    obtain ⟨sort, sortOthers, rfl⟩ :=
      List.exists_cons_of_ne_nil (decodeArguments_ne_nil sort_decoded sort_written)
    have read : Query.readArguments .find arguments = .ok (filter.patchDates, others.head?) := by
      rw [Query.readArguments_of_decoded decoded written]
      simp [Method.argumentsOf, List.head?_eq_getElem?]
    have read_sort : Query.readSort sortArguments = .ok (some sort) :=
      Query.readSort_of_decoded sort_decoded sort_written
    refine ⟨cut, cut', filter, others, sort, sortOthers, rfl, rfl, ?_, ?_⟩
    · rw [Query.parse_of_split? cut, Query.ofClauses, read]
      rfl
    · rw [Query.parse_of_split? cut', Query.ofClauses, read, read_sort]
      rfl
  · rintro before rest text free
    have torn := quote_open_before_mark decoded text
    obtain ⟨e, failed⟩ := decodeArguments_torn torn
    have cut : Clauses.split? (Text.trim plain.text) =
        some ⟨database, collection, .find, before, rest⟩ :=
      Clauses.IsName.split?_trim database_name collection_name free
        (.inl (by simp [plain, Clauses.text, Clauses.sortedText, Clauses.call, text]))
    have cut' : Clauses.split? (Text.trim sorted.sortedText) =
        some ⟨database, collection, .find, before, rest ++ Clauses.sortMark ++ sortArguments⟩ :=
      Clauses.IsName.split?_trim database_name collection_name free
        (.inl (by simp [sorted, Clauses.sortedText, Clauses.call, text]))
    exact ⟨e, failed, Query.parse_torn defaultDatabase cut rfl torn failed,
      Query.parse_torn defaultDatabase cut' rfl torn failed⟩

/-- A method's mark behind an escaped quote, in a string. -/
def calmArguments : List Char := "\x7b\"a\":\"\\\".find(\"\x7d,\x7b\"b\":0\x7d".toList

/-- The mark of a sort, in a string. -/
def markedArguments : List Char := "\x7b\"a\":\").sort(\"\x7d".toList

theorem calmArguments_decode : (decodeArguments calmArguments).isOk = true := by decide +kernel

theorem markedArguments_decode : (decodeArguments markedArguments).isOk = true := by decide +kernel

theorem find_arguments_end_beside_marks :
    (∃ query, Query.parse
        (String.ofList (⟨"db".toList, ['c'], .find, calmArguments, markedArguments⟩ :
          Clauses).sortedText) "main" = .ok query ∧
      query.database = "main" ∧ query.sort.isSome) ∧
    ∃ e, Query.parse (String.ofList (⟨"db".toList, ['c'], .find, markedArguments, []⟩ :
        Clauses).text) "main" =
      .error (Query.argumentsError "find" "\x7b\"a\":\"".toList e) := by
  have database : Clauses.IsName "db".toList := by decide
  have collection : Clauses.IsName ['c'] := by decide
  obtain ⟨calm, decoded⟩ := exists_decoded calmArguments_decode
  obtain ⟨marked, marked_decoded⟩ := exists_decoded markedArguments_decode
  constructor
  · have free : ¬ Clauses.sortMark <:+: calmArguments := Text.breakOn?_eq_none_iff.1 (by decide)
    obtain ⟨-, -, filter, others, sort, sortOthers, -, -, -, parsed⟩ :=
      (find_arguments_end "main" database collection (by decide) (by decide) decoded
        marked_decoded).1 free
    exact ⟨_, parsed, rfl, rfl⟩
  · have free : ¬ Clauses.sortMark <:+: "\x7b\"a\":\"".toList :=
      Text.breakOn?_eq_none_iff.1 (by decide)
    obtain ⟨e, -, refused, -⟩ :=
      (find_arguments_end "main" database collection (by decide) (by decide) marked_decoded
        marked_decoded).2 "\x7b\"a\":\"".toList "\"\x7d".toList rfl free
    exact ⟨e, refused⟩

/-- Arguments that are refused though they decode. -/
theorem mark_in_string_ends_arguments :
    let plain : Clauses := ⟨"db".toList, ['c'], .find, markedArguments, []⟩
    let sorted : Clauses := ⟨"db".toList, ['c'], .find, markedArguments, "\x7b\x7d".toList⟩
    Clauses.IsName plain.database ∧ Clauses.IsName plain.collection ∧
    Text.allBlank markedArguments = false ∧ Text.allBlank sorted.sortArguments = false ∧
    (∃ values, decodeArguments markedArguments = .ok values) ∧
    (∃ values, decodeArguments sorted.sortArguments = .ok values) ∧
    Clauses.split? (Text.trim plain.text) = some ⟨"db".toList, ['c'], .find,
      "\x7b\"a\":\"".toList, "\"\x7d".toList⟩ ∧
    (∃ e, Query.parse (String.ofList plain.text) "main" = .error e) ∧
    ∃ e, Query.parse (String.ofList sorted.sortedText) "main" = .error e := by
  intro plain sorted
  have torn : Quoting.outside.after "\x7b\"a\":\"".toList ≠ .outside := by decide
  obtain ⟨e, failed⟩ := decodeArguments_torn torn
  have cut : Clauses.split? (Text.trim plain.text) = some ⟨"db".toList, ['c'], .find,
      "\x7b\"a\":\"".toList, "\"\x7d".toList⟩ := by decide
  have cut' : Clauses.split? (Text.trim sorted.sortedText) = some ⟨"db".toList, ['c'], .find,
      "\x7b\"a\":\"".toList, "\"\x7d).sort(\x7b\x7d".toList⟩ := by decide
  exact ⟨by decide, by decide, by decide, by decide,
    exists_decoded markedArguments_decode, exists_decoded (by decide +kernel),
    cut, ⟨_, Query.parse_torn "main" cut rfl torn failed⟩,
    ⟨_, Query.parse_torn "main" cut' rfl torn failed⟩⟩

end DocTable
