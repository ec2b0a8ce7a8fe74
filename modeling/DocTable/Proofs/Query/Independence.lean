import DocTable.Proofs.Query.Boundaries
import DocTable.Proofs.Query.DateCalls

/-!
# Each clause by itself

A call with a sort is read like the call without, and its sort by itself: `sort_read_apart`. The
arguments are read first, so their error hides that of the sort, and only they can have date calls
and date literals.
-/

namespace DocTable

/-! ## A prefix that is accepted -/

namespace Clauses

def trimmed (c : Clauses) : Clauses :=
  { c with database := c.database.dropWhile Text.isBlank }

theorem trim_call (c : Clauses) (rest : List Char) :
    Text.trim (c.call ++ rest ++ [')']) = c.trimmed.call ++ rest ++ [')'] := by
  have point : Text.isBlank '.' = false := by decide
  have closing : Text.isBlank ')' = false := by decide
  have front (s : List Char) : (c.database ++ '.' :: s).dropWhile Text.isBlank =
      c.database.dropWhile Text.isBlank ++ '.' :: s := by
    rw [List.dropWhile_append]
    split
    · next blank => simp [List.isEmpty_iff.1 blank, point]
    · rfl
  simp [Text.trim, call, trimmed, front, closing]

theorem trim_text (c : Clauses) : Text.trim c.text = c.trimmed.text := by
  simpa [text] using c.trim_call []

theorem trim_sortedText (c : Clauses) : Text.trim c.sortedText = c.trimmed.sortedText := by
  simpa [sortedText, trimmed] using c.trim_call (sortMark ++ c.sortArguments)

theorem not_called_and_sorted (front front' : List Char) (method : Method) :
    front ++ (method.name.toList ++ ['(', ')']) ≠ front' ++ (sortMark ++ [')']) := by
  intro same
  have apart : ¬ method.name.toList ++ ['(', ')'] <:+ sortMark ++ [')'] ∧
      ¬ sortMark ++ [')'] <:+ method.name.toList ++ ['(', ')'] := by
    cases method <;> decide
  rcases List.suffix_or_suffix_of_suffix (List.suffix_append front _)
    (same ▸ List.suffix_append front' _) with called | sorted
  · exact apart.1 called
  · exact apart.2 sorted

theorem eq_dropWhile_of_split? {database name collection : List Char} {method : Method}
    (accepted : split? (Text.trim (⟨database, collection, method, [], []⟩ : Clauses).text) =
      some ⟨name, collection, method, [], []⟩) :
    name = database.dropWhile Text.isBlank := by
  rw [trim_text, split?_eq_some_iff_spells] at accepted
  rcases accepted.text with sorted | ⟨-, plain⟩
  · refine (not_called_and_sorted (database.dropWhile Text.isBlank ++ '.' :: collection ++ ['.'])
      (call ⟨name, collection, method, [], []⟩) method ?_).elim
    simpa only [text, call, trimmed, List.append_assoc, List.cons_append, List.nil_append,
      List.append_nil] using sorted
  · simpa only [text, call, trimmed, List.append_assoc, List.append_cancel_right_eq]
      using plain.symm

theorem split?_of_accepted {database name collection arguments : List Char} {method : Method}
    (accepted : split? (Text.trim (⟨database, collection, method, [], []⟩ : Clauses).text) =
      some ⟨name, collection, method, [], []⟩)
    (free : ¬ sortMark <:+: arguments) (sortArguments : List Char) :
    split? (Text.trim (⟨database, collection, method, arguments, []⟩ : Clauses).text) =
        some ⟨name, collection, method, arguments, []⟩ ∧
      split? (Text.trim
          (⟨database, collection, method, arguments, sortArguments⟩ : Clauses).sortedText) =
        some ⟨name, collection, method, arguments, sortArguments⟩ := by
  obtain rfl := eq_dropWhile_of_split? accepted
  rw [split?_eq_some_iff_spells] at accepted
  rw [trim_text, trim_sortedText, split?_eq_some_iff_spells, split?_eq_some_iff_spells]
  exact ⟨{ accepted with no_sort := free, text := .inr ⟨rfl, rfl⟩ },
    { accepted with no_sort := free, text := .inl rfl }⟩

end Clauses

/-! ## Reading clause by clause -/

theorem allBlank_of_quoteDateCallsFrom {state : Quoting} {s : List Char}
    (h : Text.allBlank (quoteDateCallsFrom state s) = true) : Text.allBlank s = true := by
  fun_induction quoteDateCallsFrom state s with
  | case1 => rfl
  | case2 c rest digits after read ih =>
    have quote : Text.isBlank '"' = false := by decide
    simp [Text.allBlank, quote] at h
  | case3 c rest read ih =>
    simp only [Text.allBlank, List.all_cons, Bool.and_eq_true] at h ih ⊢
    exact ⟨h.1, ih h.2⟩
  | case4 state c rest inside ih =>
    simp only [Text.allBlank, List.all_cons, Bool.and_eq_true] at h ih ⊢
    exact ⟨h.1, ih h.2⟩

theorem allBlank_quoteDateCalls {s : List Char} (h : Text.allBlank s = false) :
    Text.allBlank (quoteDateCalls s) = false := by
  rw [quoteDateCalls]
  split
  · exact h
  · cases blank : Text.allBlank (quoteDateCallsFrom .outside s) with
    | false => rfl
    | true =>
      rw [allBlank_of_quoteDateCallsFrom blank] at h
      cases h

namespace Query

variable {c : Clauses} {method : Method} {written : List Char} {defaultDatabase : String}
  {e : QueryError} {q : Query} {filter : Value} {projection sort : Option Value}

/-- What is read from the arguments of a method: with date calls, and with instants for the date
literals of the filter, though not of the projection. -/
inductive ReadsArguments (method : Method) (written : List Char) : Value → Option Value → Prop where
  | blank (blank : Text.allBlank written = true) :
    ReadsArguments method written method.emptyFilter none
  | values {first : Value} {others : List Value} (present : Text.allBlank written = false)
      (decoded : decodeArguments (quoteDateCalls written) = .ok (first :: others)) :
    ReadsArguments method written first.patchDates
      (match method with
        | .find => others.head?
        | .aggregate => none)

/-- What is read from the arguments of a sort: values as they stand. -/
inductive ReadsSort (written : List Char) : Option Value → Prop where
  | blank (blank : Text.allBlank written = true) : ReadsSort written none
  | values {first : Value} {others : List Value} (present : Text.allBlank written = false)
      (decoded : decodeArguments written = .ok (first :: others)) : ReadsSort written (some first)

theorem readArguments_blank (blank : Text.allBlank written = true) :
    readArguments method written = .ok (method.emptyFilter, none) := by
  rw [readArguments_eq, blank]
  cases method <;> rfl

theorem readArguments_ok_iff :
    readArguments method written = .ok (filter, projection) ↔
      ReadsArguments method written filter projection := by
  constructor
  · intro h
    cases blank : Text.allBlank written with
    | true =>
      rw [readArguments_blank blank] at h
      obtain ⟨rfl, rfl⟩ := Prod.mk.inj (Except.ok.inj h)
      exact .blank blank
    | false =>
      rw [readArguments_written blank] at h
      cases decoded : decodeArguments (quoteDateCalls written) with
      | error cause => rw [decoded] at h; cases h
      | ok values =>
        obtain ⟨first, others, rfl⟩ := List.exists_cons_of_ne_nil
          (decodeArguments_ne_nil decoded (allBlank_quoteDateCalls blank))
        rw [decoded] at h
        obtain ⟨rfl, rfl⟩ := Prod.mk.inj (Except.ok.inj h)
        have read : ReadsArguments method written first.patchDates _ := .values blank decoded
        cases method with
        | find => simpa [List.head?_eq_getElem?] using read
        | aggregate => exact read
  · intro h
    cases h with
    | blank blank => exact readArguments_blank blank
    | values present decoded =>
      rw [readArguments_written present, decoded]
      cases method <;>
        simp [Except.map, Except.mapError, Method.argumentsOf, List.head?_eq_getElem?]

theorem readArguments_error_iff :
    readArguments method written = .error e ↔ Text.allBlank written = false ∧
      ∃ cause, decodeArguments (quoteDateCalls written) = .error cause ∧
        e = argumentsError method.name written cause := by
  cases blank : Text.allBlank written with
  | true => simp [readArguments_blank blank]
  | false =>
    rw [readArguments_written blank]
    cases decodeArguments (quoteDateCalls written) with
    | error cause => simp [Except.map, Except.mapError, eq_comm]
    | ok values => simp [Except.map, Except.mapError]

theorem readSort_ok_iff : readSort written = .ok sort ↔ ReadsSort written sort := by
  rw [readSort]
  constructor
  · intro h
    cases blank : Text.allBlank written with
    | true =>
      obtain rfl : none = sort := by simpa [blank] using h
      exact .blank blank
    | false =>
      cases decoded : decodeArguments written with
      | error cause => simp [blank, decoded, Except.map, Except.mapError] at h
      | ok values =>
        obtain ⟨first, others, rfl⟩ :=
          List.exists_cons_of_ne_nil (decodeArguments_ne_nil decoded blank)
        obtain rfl : some first = sort := by
          simpa [blank, decoded, Except.map, Except.mapError] using h
        exact .values blank decoded
  · intro h
    cases h with
    | blank blank => simp [blank]
    | values present decoded => simp [present, decoded, Except.map, Except.mapError]

theorem readSort_error_iff :
    readSort written = .error e ↔ Text.allBlank written = false ∧
      ∃ cause, decodeArguments written = .error cause ∧
        e = argumentsError "sort" written cause := by
  rw [readSort]
  cases Text.allBlank written with
  | true => simp
  | false =>
    cases decodeArguments written with
    | error cause => simp [Except.map, Except.mapError, eq_comm]
    | ok values => simp [Except.map, Except.mapError]

theorem exists_readsSort_iff : (∃ sort, ReadsSort written sort) ↔
    Text.allBlank written = true ∨ ∃ values, decodeArguments written = .ok values := by
  constructor
  · rintro ⟨sort, read⟩
    cases read with
    | blank blank => exact .inl blank
    | values _ decoded => exact .inr ⟨_, decoded⟩
  · intro h
    cases blank : Text.allBlank written with
    | true => exact ⟨none, .blank blank⟩
    | false =>
      obtain ⟨values, decoded⟩ := h.resolve_left (by simp [blank])
      obtain ⟨first, others, rfl⟩ :=
        List.exists_cons_of_ne_nil (decodeArguments_ne_nil decoded blank)
      exact ⟨some first, .values blank decoded⟩

theorem ReadsSort.eq_none_iff (h : ReadsSort written sort) :
    sort = none ↔ Text.allBlank written = true := by
  cases h with
  | blank blank => simp [blank]
  | values present _ => simp [present]

theorem readSort_nil : readSort [] = .ok none := rfl

theorem ofClauses_ok_iff :
    ofClauses c defaultDatabase = .ok q ↔ ∃ filter projection sort,
      ReadsArguments c.method c.arguments filter projection ∧ ReadsSort c.sortArguments sort ∧
      q = {
        database := if c.database = defaultDatabaseAlias then defaultDatabase
          else String.ofList c.database
        collection := String.ofList c.collection
        method := c.method
        filter, projection, sort } := by
  simp only [← readArguments_ok_iff, ← readSort_ok_iff, ofClauses]
  cases readArguments c.method c.arguments with
  | error e => simp [bind, Except.bind]
  | ok read =>
    obtain ⟨filter, projection⟩ := read
    cases readSort c.sortArguments with
    | error e => simp [bind, Except.bind]
    | ok sort => simp [bind, Except.bind, eq_comm]

theorem exists_ofClauses_iff : (∃ q, ofClauses c defaultDatabase = .ok q) ↔
    (∃ filter projection, ReadsArguments c.method c.arguments filter projection) ∧
      ∃ sort, ReadsSort c.sortArguments sort := by
  simp only [ofClauses_ok_iff]
  constructor
  · rintro ⟨q, filter, projection, sort, arguments, sorted, -⟩
    exact ⟨⟨filter, projection, arguments⟩, sort, sorted⟩
  · rintro ⟨⟨filter, projection, arguments⟩, sort, sorted⟩
    exact ⟨_, filter, projection, sort, arguments, sorted, rfl⟩

theorem ofClauses_error_iff :
    ofClauses c defaultDatabase = .error e ↔ readArguments c.method c.arguments = .error e ∨
      (∃ read, readArguments c.method c.arguments = .ok read) ∧
        readSort c.sortArguments = .error e := by
  rw [ofClauses]
  cases readArguments c.method c.arguments with
  | error e => simp [bind, Except.bind]
  | ok read =>
    cases readSort c.sortArguments with
    | error e => simp [bind, Except.bind]
    | ok sort => simp [bind, Except.bind]

end Query

/-- A call with a sort and the call without it are read alike. Both give the same query, but for the
sort, which is read from its own text with no date call or date literal of it replaced. The call
fails by its arguments, as they were written, and whatever its sort is; only behind arguments that
are read does the call with the sort fail by that. -/
theorem sort_read_apart {database name collection arguments : List Char} {method : Method}
    (sortArguments : List Char) (defaultDatabase : String)
    (accepted :
      Clauses.split? (Text.trim (⟨database, collection, method, [], []⟩ : Clauses).text) =
        some ⟨name, collection, method, [], []⟩)
    (free : ¬ Clauses.sortMark <:+: arguments) :
    let plain := Query.parse
      (String.ofList (⟨database, collection, method, arguments, []⟩ : Clauses).text) defaultDatabase
    let sorted := Query.parse
      (String.ofList (⟨database, collection, method, arguments, sortArguments⟩ :
        Clauses).sortedText) defaultDatabase
    ((∃ q, sorted = .ok q) ↔ (∃ q, plain = .ok q) ∧
      (Text.allBlank sortArguments = true ∨ ∃ values, decodeArguments sortArguments = .ok values)) ∧
    (∀ q q', plain = .ok q → sorted = .ok q' →
      q' = { q with sort := q'.sort } ∧
      q.database = (if name = "db".toList then defaultDatabase else String.ofList name) ∧
      q.collection = String.ofList collection ∧ q.method = method ∧
      Query.ReadsArguments method arguments q.filter q.projection ∧ q.sort = none ∧
      Query.ReadsSort sortArguments q'.sort ∧
      (q'.sort = none ↔ Text.allBlank sortArguments = true)) ∧
    (∀ e, plain = .error e ↔ Text.allBlank arguments = false ∧
      ∃ cause, decodeArguments (quoteDateCalls arguments) = .error cause ∧
        e = .arguments method.name (String.ofList arguments) cause.message) ∧
    ∀ e, sorted = .error e ↔ plain = .error e ∨
      (∃ q, plain = .ok q) ∧ Text.allBlank sortArguments = false ∧
        ∃ cause, decodeArguments sortArguments = .error cause ∧
          e = .arguments "sort" (String.ofList sortArguments) cause.message := by
  intro plain sorted
  obtain ⟨cut, cut'⟩ := Clauses.split?_of_accepted accepted free sortArguments
  have plain_eq : plain =
      Query.ofClauses ⟨name, collection, method, arguments, []⟩ defaultDatabase :=
    Query.parse_of_split? cut
  have sorted_eq : sorted =
      Query.ofClauses ⟨name, collection, method, arguments, sortArguments⟩ defaultDatabase :=
    Query.parse_of_split? cut'
  have plain_ok : (∃ q, plain = .ok q) ↔
      ∃ filter projection, Query.ReadsArguments method arguments filter projection := by
    rw [plain_eq, Query.exists_ofClauses_iff, Query.exists_readsSort_iff]
    exact and_iff_left (.inl rfl)
  have plain_error e : plain = .error e ↔ Query.readArguments method arguments = .error e := by
    simp [plain_eq, Query.ofClauses_error_iff, Query.readSort_nil]
  refine ⟨?succeeds, ?queries, ?plainly, ?fails⟩
  case succeeds =>
    rw [plain_ok, sorted_eq, Query.exists_ofClauses_iff, Query.exists_readsSort_iff]
  case queries =>
    intro q q' read read'
    rw [plain_eq, Query.ofClauses_ok_iff] at read
    rw [sorted_eq, Query.ofClauses_ok_iff] at read'
    obtain ⟨filter, projection, unsorted, arguments_read, unsorted_read, rfl⟩ := read
    obtain ⟨filter', projection', sort, arguments_read', sort_read, rfl⟩ := read'
    obtain ⟨rfl, rfl⟩ : filter' = filter ∧ projection' = projection := by
      rw [← Query.readArguments_ok_iff] at arguments_read arguments_read'
      simpa using arguments_read'.symm.trans arguments_read
    exact ⟨rfl, rfl, rfl, rfl, arguments_read, unsorted_read.eq_none_iff.2 rfl, sort_read,
      sort_read.eq_none_iff⟩
  case plainly =>
    intro e
    rw [plain_error, Query.readArguments_error_iff]
    rfl
  case fails =>
    intro e
    have found :
        (∃ read, Query.readArguments method arguments = .ok read) ↔ ∃ q, plain = .ok q := by
      simp only [plain_ok, Prod.exists, Query.readArguments_ok_iff]
    rw [sorted_eq, Query.ofClauses_error_iff, plain_error, found, Query.readSort_error_iff]
    rfl

/-- One literal in the filter, in the projection and in the sort. -/
def literal : Value := .string "$\x7bnew Date(5)\x7d"

def literalArguments : List Char :=
  "\x7b\"a\":\"$\x7bnew Date(5)\x7d\"\x7d,\x7b\"p\":\"$\x7bnew Date(5)\x7d\"\x7d".toList

def literalSort : List Char := "\x7b\"s\":\"$\x7bnew Date(5)\x7d\"\x7d".toList

theorem literalArguments_decode :
    decodeArguments literalArguments =
      .ok [.document [("a", literal)], .document [("p", literal)]] := by
  cbv

theorem literalSort_decode : decodeArguments literalSort = .ok [.document [("s", literal)]] := by
  cbv

theorem patchDates_literal :
    (Value.document [("a", literal)]).patchDates =
      .document [("a", .dateTime ⟨5, by decide, by decide⟩)] := by
  rfl

theorem sort_read_apart_literals :
    let plain : Clauses := ⟨" db".toList, ['c'], .find, literalArguments, []⟩
    let sorted : Clauses := ⟨" db".toList, ['c'], .find, literalArguments, literalSort⟩
    let query : Query := ⟨"main", "c", .find,
      .document [("a", .dateTime ⟨5, by decide, by decide⟩)],
      some (.document [("p", literal)]), none⟩
    Query.parse (String.ofList plain.text) "main" = .ok query ∧
      Query.parse (String.ofList sorted.sortedText) "main" =
        .ok { query with sort := some (.document [("s", literal)]) } := by
  intro plain sorted query
  have accepted : Clauses.split? (Text.trim (⟨" db".toList, ['c'], .find, [], []⟩ : Clauses).text) =
      some ⟨"db".toList, ['c'], .find, [], []⟩ := by decide
  have free : ¬ Clauses.sortMark <:+: literalArguments := Text.breakOn?_eq_none_iff.1 (by decide)
  have quoted : decodeArguments (quoteDateCalls literalArguments) =
      .ok [.document [("a", literal)], .document [("p", literal)]] := by
    rw [quoteDateCalls_eq_self (isText_of_decodeArguments literalArguments_decode)]
    exact literalArguments_decode
  obtain ⟨succeeds, queries, plainly, -⟩ := sort_read_apart literalSort "main" accepted free
  obtain ⟨q, read⟩ : ∃ q, Query.parse (String.ofList plain.text) "main" = .ok q := by
    cases read : Query.parse (String.ofList plain.text) "main" with
    | ok q => exact ⟨q, rfl⟩
    | error e =>
      obtain ⟨-, cause, failed, -⟩ := (plainly e).1 read
      rw [quoted] at failed
      cases failed
  obtain ⟨q', read'⟩ := succeeds.2 ⟨⟨q, read⟩, .inr ⟨_, literalSort_decode⟩⟩
  obtain ⟨same, database, collection, method, arguments_read, unsorted, sort_read, -⟩ :=
    queries q q' read read'
  have parts := (Query.readArguments_ok_iff.2 arguments_read).symm.trans
    (Query.readArguments_ok_iff.2 (.values (by decide) quoted))
  have sort := (Query.readSort_ok_iff.2 sort_read).symm.trans
    (Query.readSort_ok_iff.2 (.values (by decide) literalSort_decode))
  rw [patchDates_literal] at parts
  obtain ⟨filter, projection⟩ := Prod.mk.inj (Except.ok.inj parts)
  have whole : q = query := by
    obtain ⟨_, _, _, _, _, _⟩ := q
    subst database collection method filter projection unsorted
    rfl
  rw [read, read', same, whole, Except.ok.inj sort]
  exact ⟨rfl, rfl⟩

end DocTable
