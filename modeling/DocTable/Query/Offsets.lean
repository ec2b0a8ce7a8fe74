import DocTable.Query.Parser
import DocTable.Text.Offset

/-!
Reading query texts by offsets. Every cut of a text is a slice between two offsets, which searches
and lengths give, and the rewriting of date calls goes turn by turn over what is left of the
arguments. A slice that is not there is a fault, and ends the reading without an answer.
-/

namespace DocTable.Offsets

open Text (Fault slice suffix minus)

/-! ## Clauses -/

/-- Where a method's mark stands; it stops behind the parenthesis. -/
structure MethodPlace where
  start : Nat
  stop : Nat
  method : Method
  deriving DecidableEq, Repr

def methodPlace? (text : List Char) (m : Method) : Option MethodPlace :=
  (Text.find? m.mark text).map fun start => ⟨start, start + Utf8.size m.mark, m⟩

def findMethod? (text : List Char) : Option MethodPlace :=
  ([.find, .aggregate].filterMap (methodPlace? text)).minOn? (·.start)

/-- The arguments and those of the sort, in a text that ends with a parenthesis, behind the one at
which the arguments open. -/
def splitSort (text : List Char) (stop : Nat) : Except Fault (List Char × List Char) := do
  let close ← minus (Utf8.size text) 1
  match Text.find? Clauses.sortMark (← suffix text stop) with
  | some pos =>
    let sortStart := stop + pos
    let arguments ← slice text stop sortStart
    let sortArguments ← slice text (sortStart + Utf8.size Clauses.sortMark) close
    pure (arguments, sortArguments)
  | none => pure (← slice text stop close, [])

def tokenize (text : List Char) : Except Fault (Option Clauses) := do
  match findMethod? text with
  | none => pure none
  | some place =>
    let names ← slice text 0 (← minus place.stop 1)
    match names.splitOn '.' with
    | [database, collection, _] =>
      if database.isEmpty || collection.isEmpty then pure none
      else if text.getLast? != some ')' then pure none
      else
        let (arguments, sortArguments) ← splitSort text place.stop
        pure (some ⟨database, collection, place.method, arguments, sortArguments⟩)
    | _ => pure none

/-! ## Date calls -/

/-- The offset of the first character that is no digit, or the end of the text. -/
def digitsEnd (s : List Char) : Nat :=
  (Text.findChar? (!Digits.isDigit ·) s).getD (Utf8.size s)

section Digits

variable (s : List Char)

theorem digitsEnd_eq : digitsEnd s = Utf8.size (s.takeWhile Digits.isDigit) :=
  Text.findChar?_not_getD ..

theorem digitsEnd_eq_zero_iff : digitsEnd s = 0 ↔ s.takeWhile Digits.isDigit = [] := by
  rw [digitsEnd_eq, Utf8.size_eq_zero_iff]

theorem slice_digitsEnd : slice s 0 (digitsEnd s) = .ok (s.takeWhile Digits.isDigit) := by
  have cut := Text.slice_front (s.takeWhile Digits.isDigit) (s.dropWhile Digits.isDigit)
  rwa [List.takeWhile_append_dropWhile, ← digitsEnd_eq] at cut

theorem suffix_digitsEnd : suffix s (digitsEnd s) = .ok (s.dropWhile Digits.isDigit) := by
  have cut := Text.suffix_append (s.takeWhile Digits.isDigit) (s.dropWhile Digits.isDigit)
  rwa [List.takeWhile_append_dropWhile, ← digitsEnd_eq] at cut

end Digits

def dateCallSize (s : List Char) : Except Fault (Option Nat) := do
  match Text.dropMark? DateCall.opening s with
  | none => pure none
  | some digits =>
    let n := digitsEnd digits
    if n = 0 then pure none
    else
      let behind ← suffix digits n
      if [')'].isPrefixOf behind then pure (some (Utf8.size DateCall.opening + n + 1))
      else pure none

theorem dateCallSize_eq (s : List Char) :
    dateCallSize s =
      .ok ((DateCall.read? s).map fun (digits, _) => Utf8.size (DateCall.text digits)) := by
  unfold dateCallSize DateCall.read?
  cases Text.dropMark? DateCall.opening s with
  | none => rfl
  | some rest =>
    simp only [digitsEnd_eq_zero_iff, suffix_digitsEnd, Text.isPrefixOf_eq, bind, Except.bind,
      Option.bind_some]
    cases Text.dropMark? [')'] (rest.dropWhile Digits.isDigit) with
    | none => simp [pure, Except.pure]
    | some after =>
      by_cases none : rest.takeWhile Digits.isDigit = []
      · simp [none, pure, Except.pure]
      · have closing : ')'.utf8Size = 1 := by decide
        simp [none, pure, Except.pure, DateCall.text, digitsEnd_eq, closing, Nat.add_assoc]

/-- What is written already, how far the string literals are, and what is left. -/
structure Rewriting where
  written : List Char
  state : Quoting
  left : List Char

namespace Rewriting

def copy (r : Rewriting) (c : Char) : Except Fault (Option Rewriting) := do
  let left ← suffix r.left c.utf8Size
  pure (some ⟨r.written ++ [c], r.state.next c, left⟩)

/-- One turn of the loop; there is none behind the end. -/
def step (r : Rewriting) : Except Fault (Option Rewriting) :=
  match r.left with
  | [] => pure none
  | c :: _ =>
    if r.state = .outside ∧ c ≠ '"' then do
      match ← dateCallSize r.left with
      | some size =>
        let call ← slice r.left 0 size
        let left ← suffix r.left size
        pure (some ⟨r.written ++ "\"$\x7b".toList ++ call ++ "\x7d\"".toList, r.state, left⟩)
      | none => r.copy c
    else r.copy c

variable {r r' : Rewriting} {written rest digits after : List Char} {state : Quoting} {c : Char}

theorem copy_cons :
    copy ⟨written, state, c :: rest⟩ c = .ok (some ⟨written ++ [c], state.next c, rest⟩) := by
  have cut : suffix (c :: rest) c.utf8Size = .ok rest := Text.suffix_append [c] rest
  simp only [copy, cut, bind, Except.bind]
  rfl

theorem step_copy (no_call : state = .outside → DateCall.read? (c :: rest) = none) :
    step ⟨written, state, c :: rest⟩ = .ok (some ⟨written ++ [c], state.next c, rest⟩) := by
  simp only [step]
  split
  · next outside =>
    rw [dateCallSize_eq, no_call outside.1]
    exact copy_cons
  · exact copy_cons

theorem step_call (call : DateCall.read? (c :: rest) = some (digits, after)) :
    step ⟨written, .outside, c :: rest⟩ =
      .ok (some ⟨written ++ '"' :: '$' :: '{' :: DateCall.text digits ++ ['}', '"'], .outside,
        after⟩) := by
  have text := DateCall.eq_text_append_of_read? call
  have quote : c ≠ '"' := by
    rintro rfl
    have none : DateCall.read? ('"' :: rest) = none := rfl
    cases none.symm.trans call
  have inside := Text.slice_front (DateCall.text digits) after
  have behind := Text.suffix_append (DateCall.text digits) after
  rw [← text] at inside behind
  simp [step, quote, dateCallSize_eq, call, inside, behind, bind, Except.bind, pure, Except.pure]

/-- A turn ends the loop, or copies a character, or quotes a date call. -/
theorem step_cases (r : Rewriting) :
    r.left = [] ∧ r.step = .ok none ∨
    (∃ c rest, r.left = c :: rest ∧ (r.state = .outside → DateCall.read? r.left = none) ∧
      r.step = .ok (some ⟨r.written ++ [c], r.state.next c, rest⟩)) ∨
    ∃ digits after, r.state = .outside ∧ DateCall.read? r.left = some (digits, after) ∧
      r.step = .ok (some ⟨r.written ++ '"' :: '$' :: '{' :: DateCall.text digits ++ ['}', '"'],
        .outside, after⟩) := by
  obtain ⟨written, state, left⟩ := r
  cases left with
  | nil => exact .inl ⟨rfl, rfl⟩
  | cons c rest =>
    by_cases no_call : state = .outside → DateCall.read? (c :: rest) = none
    · exact .inr (.inl ⟨c, rest, rfl, no_call, step_copy no_call⟩)
    · obtain ⟨rfl, some⟩ := Classical.not_imp.1 no_call
      obtain ⟨⟨digits, after⟩, call⟩ := Option.ne_none_iff_exists'.1 some
      exact .inr (.inr ⟨digits, after, rfl, call, step_call call⟩)

/-- Every turn takes something off what is left. -/
theorem step_shortens (h : r.step = .ok (some r')) : Utf8.size r'.left < Utf8.size r.left := by
  rcases step_cases r with ⟨-, ends⟩ | ⟨c, rest, text, -, copies⟩ | ⟨digits, after, -, call, quotes⟩
  · cases h.symm.trans ends
  · obtain rfl := Option.some.inj (Except.ok.inj (h.symm.trans copies))
    rw [text, Utf8.size_cons]
    exact Nat.lt_add_of_pos_left c.utf8Size_pos
  · obtain rfl := Option.some.inj (Except.ok.inj (h.symm.trans quotes))
    rw [DateCall.eq_text_append_of_read? call, Utf8.size_append]
    refine Nat.lt_add_of_pos_left (Nat.pos_of_ne_zero fun empty => ?_)
    simp only [Utf8.size_eq_zero_iff, DateCall.text, List.append_eq_nil_iff] at empty
    exact absurd empty.1.1 (by decide)

/-- The text once nothing is left. -/
def run (r : Rewriting) : Except Fault (List Char) :=
  match _h : r.step with
  | .error fault => .error fault
  | .ok none => .ok r.written
  | .ok (some r') => run r'
termination_by Utf8.size r.left
decreasing_by exact step_shortens _h

end Rewriting

def quoteDateCalls (s : List Char) : Except Fault (List Char) :=
  if (Text.find? DateCall.opening s).isNone then .ok s
  else Rewriting.run ⟨[], .outside, s⟩

/-! ## Date literals -/

/-- The instant that a text beginning with a date literal stands for, if it is within reach. -/
def instant (s : List Char) : Except Fault (Option Instant) := do
  match Text.dropMark? DateLiteral.opening s with
  | none => pure none
  | some rest =>
    let stop := digitsEnd rest
    if stop = 0 then pure none
    else
      let behind ← suffix rest stop
      if !DateLiteral.closing.isPrefixOf behind then pure none
      else
        let digits ← slice rest 0 stop
        pure ((Digits.intWithin? Int64.minValue.toInt Int64.maxValue.toInt digits).bind
          Instant.ofMillis?)

mutual

def patchDates : Value → Except Fault Value
  | .string s => do
    match ← instant s.toList with
    | some t => pure (.dateTime t)
    | none => pure (.string s)
  | .document entries => do pure (.document (← patchEntries entries))
  | .map entries => do pure (.map (← patchEntries entries))
  | .array items => do pure (.array (← patchItems items))
  | v => pure v

def patchEntries : List (String × Value) → Except Fault (List (String × Value))
  | [] => pure []
  | (key, v) :: rest => do
    let v ← patchDates v
    let rest ← patchEntries rest
    pure ((key, v) :: rest)

def patchItems : List Value → Except Fault (List Value)
  | [] => pure []
  | v :: rest => do
    let v ← patchDates v
    let rest ← patchItems rest
    pure (v :: rest)

end

/-! ## Queries -/

def readArguments (method : Method) (written : List Char) :
    Except Fault (Except QueryError (Value × Option Value)) := do
  let text := if Text.allBlank written then method.defaultArguments.toList else written
  match decodeArguments (← quoteDateCalls text) with
  | .error e => pure (.error (Query.argumentsError method.name text e))
  | .ok items =>
    let filter ← patchDates (items.head?.getD method.emptyFilter)
    let projection := match method with
      | .find => items[1]?
      | .aggregate => none
    pure (.ok (filter, projection))

def ofClauses (clauses : Clauses) (defaultDatabase : String) :
    Except Fault (Except QueryError Query) := do
  match ← readArguments clauses.method clauses.arguments with
  | .error e => pure (.error e)
  | .ok (filter, projection) =>
    pure ((Query.readSort clauses.sortArguments).map fun sort => {
      database := if clauses.database = Query.defaultDatabaseAlias then defaultDatabase
        else String.ofList clauses.database
      collection := String.ofList clauses.collection
      method := clauses.method
      filter, projection, sort })

def parse (text defaultDatabase : String) : Except Fault (Except QueryError Query) := do
  let trimmed := Text.trim text.toList
  match ← tokenize trimmed with
  | some clauses => ofClauses clauses defaultDatabase
  | none => pure (.error (.notAQuery (String.ofList trimmed)))

end DocTable.Offsets
