import DocTable.Proofs.Query.Independence

/-!
# Where defaults stand in

Only blank arguments are replaced by those of the method, and only a blank sort is none. Arguments
that are written are decoded to one value at least, so the filter is always one that was asked for,
`written_filter_kept`.
-/

namespace DocTable

def Method.arity : Method → Nat
  | .find => 2
  | .aggregate => 1

namespace Query

variable {method : Method} {text defaultDatabase : String} {written : List Char}
  {first : Value} {others values : List Value} {filter : Value} {projection : Option Value}
  {q : Query}

theorem parse_ok_iff : parse text defaultDatabase = .ok q ↔
    ∃ c, Clauses.split? (Text.trim text.toList) = some c ∧ ofClauses c defaultDatabase = .ok q := by
  rw [parse]
  cases Clauses.split? (Text.trim text.toList) <;> simp

/-- The arguments are decoded to a value at least, be they the default or what is written. -/
theorem arguments_ne_nil
    (h : decodeArguments (quoteDateCalls
      (if Text.allBlank written then method.defaultArguments.toList else written)) = .ok values) :
    values ≠ [] := by
  refine decodeArguments_ne_nil h (allBlank_quoteDateCalls ?_)
  split
  · cases method <;> rfl
  · next present => simpa using present

theorem ReadsArguments.of_blank (h : ReadsArguments method written filter projection)
    (blank : Text.allBlank written = true) : filter = method.emptyFilter ∧ projection = none := by
  cases h with
  | blank => exact ⟨rfl, rfl⟩
  | values present =>
    rw [blank] at present
    cases present

theorem ReadsArguments.of_written (h : ReadsArguments method written filter projection)
    (present : Text.allBlank written = false) : ∃ first others,
      decodeArguments (quoteDateCalls written) = .ok (first :: others) ∧
      method.argumentsOf (first :: others) = (filter, projection) := by
  cases h with
  | blank blank =>
    rw [blank] at present
    cases present
  | values _ decoded =>
    refine ⟨_, _, decoded, ?_⟩
    cases method <;> simp [Method.argumentsOf, List.head?_eq_getElem?]

theorem argumentsOf_take (values : List Value) :
    method.argumentsOf (values.take method.arity) = method.argumentsOf values := by
  cases method with
  | find => simp [Method.argumentsOf, Method.arity, List.head?_take]
  | aggregate => simp [Method.argumentsOf, Method.arity, List.head?_take]

theorem readsArguments_of_take (present : Text.allBlank written = false)
    (decoded : decodeArguments (quoteDateCalls written) = .ok values)
    (same : values.take method.arity = (first :: others).take method.arity)
    (read : method.argumentsOf (first :: others) = (filter, projection)) :
    ReadsArguments method written filter projection := by
  rw [← readArguments_ok_iff, readArguments_written present, decoded]
  rw [← argumentsOf_take, ← same, argumentsOf_take] at read
  simp [read, Except.map, Except.mapError]

theorem ReadsSort.of_written {sort : Option Value} (h : ReadsSort written sort)
    (present : Text.allBlank written = false) : ∃ first others,
      decodeArguments written = .ok (first :: others) ∧ sort = some first := by
  cases h with
  | blank blank =>
    rw [blank] at present
    cases present
  | values _ decoded => exact ⟨_, _, decoded, rfl⟩

end Query

/-- In a query that is read, only blank arguments stand for a default. Arguments that are written
decode to one value or more, the first of which is the filter, with instants for its date literals;
the second one is the projection of a find, and further ones make no difference. In the same way
only a blank sort is none. At no text is there a list of arguments that decodes to nothing, for
which an empty filter would have to stand in. -/
theorem written_filter_kept :
    (∀ text defaultDatabase q, Query.parse text defaultDatabase = .ok q →
      ∃ c, Clauses.split? (Text.trim text.toList) = some c ∧ q.method = c.method ∧
        (Text.allBlank c.arguments = true → q.projection = none ∧
          q.filter = match c.method with
            | .find => .document []
            | .aggregate => .array []) ∧
        (Text.allBlank c.arguments = false → ∃ first others,
          decodeArguments (quoteDateCalls c.arguments) = .ok (first :: others) ∧
          q.filter = first.patchDates ∧
          (q.projection = match c.method with
            | .find => others.head?
            | .aggregate => none) ∧
          ∀ text' written values,
            Clauses.split? (Text.trim text'.toList) = some { c with arguments := written } →
            Text.allBlank written = false → decodeArguments (quoteDateCalls written) = .ok values →
            values.take c.method.arity = (first :: others).take c.method.arity →
            Query.parse text' defaultDatabase = .ok q) ∧
        (Text.allBlank c.sortArguments = true → q.sort = none) ∧
        (Text.allBlank c.sortArguments = false → ∃ first others,
          decodeArguments c.sortArguments = .ok (first :: others) ∧ q.sort = some first)) ∧
    ∀ (method : Method) written values,
      decodeArguments (quoteDateCalls
        (if Text.allBlank written then method.defaultArguments.toList else written)) = .ok values →
      values ≠ [] := by
  refine ⟨fun text defaultDatabase q accepted => ?_,
    fun method written values => Query.arguments_ne_nil⟩
  obtain ⟨c, cut, read⟩ := Query.parse_ok_iff.1 accepted
  obtain ⟨filter, projection, sort, arguments_read, sort_read, rfl⟩ := Query.ofClauses_ok_iff.1 read
  refine ⟨c, cut, rfl, fun blank => ?blank, fun present => ?written,
    sort_read.eq_none_iff.2, fun present => sort_read.of_written present⟩
  case blank =>
    obtain ⟨rfl, rfl⟩ := arguments_read.of_blank blank
    exact ⟨rfl, rfl⟩
  case written =>
    obtain ⟨first, others, decoded, parts⟩ := arguments_read.of_written present
    obtain ⟨rfl, rfl⟩ := Prod.mk.inj parts
    refine ⟨first, others, decoded, rfl, ?_,
      fun text' written values cut' present' decoded' same => ?_⟩
    · cases c.method <;> simp [List.head?_eq_getElem?]
    · refine Query.parse_ok_iff.2 ⟨_, cut', Query.ofClauses_ok_iff.2 ⟨_, _, sort,
        Query.readsArguments_of_take present' decoded' same rfl, sort_read, rfl⟩⟩

def twoArguments : List Char := "\x7b\"a\":true\x7d,\x7b\"b\":true\x7d".toList

def threeArguments : List Char := twoArguments ++ ",null".toList

theorem twoArguments_decode : decodeArguments twoArguments =
    .ok [.document [("a", .bool true)], .document [("b", .bool true)]] := by cbv

theorem threeArguments_decode : decodeArguments threeArguments =
    .ok [.document [("a", .bool true)], .document [("b", .bool true)], .null] := by cbv

/-- A call whose sort is blank, though not in the sense of JSON. -/
def blankSorted (arguments : List Char) : Clauses :=
  ⟨"db".toList, ['c'], .find, arguments, ['\u00a0']⟩

theorem written_filter_kept_beside_more :
    let query : Query := ⟨"main", "c", .find, .document [("a", .bool true)],
      some (.document [("b", .bool true)]), none⟩
    Query.parse (String.ofList (blankSorted threeArguments).sortedText) "main" = .ok query ∧
      Query.parse (String.ofList (blankSorted twoArguments).sortedText) "main" = .ok query := by
  intro query
  have cut : Clauses.split? (Text.trim (blankSorted threeArguments).sortedText) =
      some (blankSorted threeArguments) := by decide
  have cut' : Clauses.split? (Text.trim (blankSorted twoArguments).sortedText) =
      some (blankSorted twoArguments) := by decide
  have decoded : decodeArguments (quoteDateCalls threeArguments) = _ :=
    quoteDateCalls_eq_self (isText_of_decodeArguments threeArguments_decode) ▸ threeArguments_decode
  have decoded' : decodeArguments (quoteDateCalls twoArguments) = _ :=
    quoteDateCalls_eq_self (isText_of_decodeArguments twoArguments_decode) ▸ twoArguments_decode
  have accepted :
      Query.parse (String.ofList (blankSorted threeArguments).sortedText) "main" = .ok query := by
    rw [Query.parse_of_split? cut, Query.ofClauses_ok_iff]
    exact ⟨_, _, none, .values (by decide) decoded, .blank (by decide), rfl⟩
  obtain ⟨c, found, -, -, written, -⟩ := written_filter_kept.1 _ _ _ accepted
  rw [String.toList_ofList, cut, Option.some.injEq] at found
  subst found
  obtain ⟨first, others, read, -, -, more⟩ := written (by decide)
  obtain ⟨rfl, rfl⟩ := List.cons.inj (Except.ok.inj (decoded.symm.trans read))
  refine ⟨accepted, more _ twoArguments _ ?_ (by decide) decoded' rfl⟩
  rw [String.toList_ofList]
  exact cut'

end DocTable
