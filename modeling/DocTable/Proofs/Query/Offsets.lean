import DocTable.Proofs.Query.Clauses
import DocTable.Proofs.Query.DateLiterals
import DocTable.Query.Offsets

/-!
# No slice out of bounds

Reading by offsets never faults: every slice that it takes stands between two ends of characters, in
order and inside of the text, whatever the text is. So it gives what the reading by searches gives,
`parse_never_faults`.
-/

namespace DocTable.Offsets

open Text (Fault IsBoundary slice suffix minus)

variable {s text before after rest : List Char} {m : Method} {place : MethodPlace}

theorem minus_append (front back : List Char) :
    minus (Utf8.size (front ++ back)) (Utf8.size back) = .ok (Utf8.size front) := by
  rw [Utf8.size_append, minus, if_pos (Nat.le_add_left ..), Nat.add_sub_cancel]

/-! ## Where the method stands -/

theorem before_of_split {cut : MethodSplit} (h : MethodSplit.of? m text = some cut) :
    cut.before <+: text := by
  obtain ⟨-, whole, -⟩ := MethodSplit.of?_eq_some_iff.1 h
  exact ⟨cut.method.mark ++ cut.after, by rw [whole, (MethodSplit.of?_eq_some_iff.1 h).1]; simp⟩

theorem length_le_iff_size_le {a b : List Char} (ha : a <+: s) (hb : b <+: s) :
    a.length ≤ b.length ↔ Utf8.size a ≤ Utf8.size b := by
  constructor
  · intro le
    obtain ⟨more, rfl⟩ := List.prefix_of_prefix_length_le ha hb le
    simp
  · intro le
    by_contra longer
    obtain ⟨more, rfl⟩ := List.prefix_of_prefix_length_le hb ha (by omega)
    have none : more = [] := Utf8.size_eq_zero_iff.1 (by simp at le; omega)
    simp [none] at longer

def MethodPlace.ofSplit (cut : MethodSplit) : MethodPlace :=
  ⟨Utf8.size cut.before, Utf8.size (cut.before ++ cut.method.mark), cut.method⟩

theorem methodPlace?_eq (text : List Char) (m : Method) :
    methodPlace? text m = (MethodSplit.of? m text).map MethodPlace.ofSplit := by
  rw [methodPlace?, MethodSplit.of?, Text.find?_eq]
  cases Text.breakOn? m.mark text <;> simp [MethodPlace.ofSplit]

theorem findMethod?_eq (text : List Char) :
    findMethod? text =
      (MethodSplit.earlier? (MethodSplit.of? .find text) (MethodSplit.of? .aggregate text)).map
        MethodPlace.ofSplit := by
  simp only [findMethod?, List.filterMap_cons, List.filterMap_nil, methodPlace?_eq]
  cases find : MethodSplit.of? .find text with
  | none => cases MethodSplit.of? .aggregate text <;> rfl
  | some a =>
    cases aggregate : MethodSplit.of? .aggregate text with
    | none => rfl
    | some b =>
      have order := length_le_iff_size_le (before_of_split find)
        (before_of_split aggregate)
      simp only [Option.map_some, List.minOn?, List.foldl_cons, List.foldl_nil, minOn,
        MethodPlace.ofSplit, MethodSplit.earlier?, order]
      split <;> rfl

theorem findMethod?_eq_some_iff :
    findMethod? text = some place ↔
      ∃ cut, MethodSplit.Earliest text cut ∧ .ofSplit cut = place := by
  simp only [findMethod?_eq, Option.map_eq_some_iff, MethodSplit.earlier?_eq_some_iff]

/-! ## Cutting at the marks -/

theorem mark_eq_names (before : List Char) (m : Method) :
    before ++ m.mark = (before ++ '.' :: m.name.toList) ++ ['('] := by
  rw [m.mark_eq]
  simp

theorem minus_mark (before : List Char) (m : Method) :
    minus (Utf8.size (before ++ m.mark)) 1 = .ok (Utf8.size (before ++ '.' :: m.name.toList)) := by
  rw [mark_eq_names]
  exact minus_append _ ['(']

theorem slice_names (before : List Char) (m : Method) (after : List Char) :
    slice (before ++ m.mark ++ after) 0 (Utf8.size (before ++ '.' :: m.name.toList)) =
      .ok (before ++ '.' :: m.name.toList) := by
  rw [mark_eq_names, List.append_assoc]
  exact Text.slice_front ..

theorem splitOn_names (before : List Char) (m : Method) :
    (before ++ '.' :: m.name.toList).splitOn '.' = before.splitOn '.' ++ [m.name.toList] := by
  have plain : '.' ∉ m.name.toList := by cases m <;> decide
  rw [List.splitOn_append_cons_self, List.splitOn_eq_singleton plain]

theorem getLast?_mark_append (before : List Char) (m : Method) (after : List Char) :
    ((before ++ m.mark ++ after).getLast? != some ')') = (after.getLast? != some ')') := by
  rcases List.eq_nil_or_concat after with rfl | ⟨body, last, rfl⟩
  · have opens : m.mark.getLast? = some '(' := by cases m <;> rfl
    rw [List.append_nil, List.getLast?_append, opens]
    rfl
  · simp

theorem exists_concat_of_sortMark {body arguments rest : List Char}
    (whole : body ++ [')'] = arguments ++ Clauses.sortMark ++ rest) :
    ∃ sortArguments, rest = sortArguments ++ [')'] ∧
      body = arguments ++ Clauses.sortMark ++ sortArguments := by
  rcases List.eq_nil_or_concat rest with rfl | ⟨init, last, rfl⟩
  · have opens : Clauses.sortMark.getLast? = some '(' := rfl
    have ends := congrArg List.getLast? whole
    simp [List.getLast?_append, opens] at ends
  · rw [List.concat_eq_append, ← List.append_assoc] at whole
    obtain ⟨rfl, same⟩ := List.append_inj' whole rfl
    exact ⟨init, by rw [List.concat_eq_append, same], rfl⟩

theorem splitSort_eq (front body : List Char) :
    splitSort (front ++ (body ++ [')'])) (Utf8.size front) =
      .ok (Clauses.splitSort (body ++ [')'])) := by
  have close :
      minus (Utf8.size (front ++ (body ++ [')']))) 1 = .ok (Utf8.size (front ++ body)) := by
    rw [← List.append_assoc]
    exact minus_append (front ++ body) [')']
  rw [splitSort, close, Text.suffix_append, Clauses.splitSort]
  simp only [bind, Except.bind, Text.find?_eq]
  cases cut : Text.breakOn? Clauses.sortMark (body ++ [')']) with
  | none => simp [pure, Except.pure]
  | some parts =>
    obtain ⟨arguments, rest⟩ := parts
    obtain ⟨sortArguments, rfl, rfl⟩ := exists_concat_of_sortMark (Text.append_of_breakOn? cut)
    have second := Text.slice_append (front ++ arguments ++ Clauses.sortMark) sortArguments [')']
    simp only [List.append_assoc, Utf8.size_append, Nat.add_assoc] at second
    simp [second, Nat.add_assoc, pure, Except.pure]

theorem tokenize_eq (text : List Char) : tokenize text = .ok (Clauses.split? text) := by
  rw [tokenize, Clauses.split?, findMethod?_eq]
  cases earliest : MethodSplit.earlier? (MethodSplit.of? .find text)
      (MethodSplit.of? .aggregate text) with
  | none => rfl
  | some cut =>
    obtain ⟨rfl, -⟩ := MethodSplit.earlier?_eq_some_iff.1 earliest
    simp only [Option.map_some, MethodPlace.ofSplit, minus_mark, slice_names, splitOn_names,
      getLast?_mark_append, bind, Except.bind, Option.bind]
    rcases cut.before.splitOn '.' with _ | ⟨database, _ | ⟨collection, _ | ⟨third, more⟩⟩⟩
    · rfl
    · rfl
    · cases closed : cut.after.getLast? != some ')' with
      | true => simp [pure, Except.pure]
      | false =>
        obtain ⟨body, last⟩ := List.getLast?_eq_some_iff.1 (by simpa using closed)
        rw [last, splitSort_eq]
        simp only [List.cons_append, List.nil_append, Bool.or_false, pure, Except.pure]
        split <;> rfl
    · simp [pure, Except.pure]

/-- Behind the place where the arguments open stands at least the closing parenthesis, and so it
does behind the mark of a sort. -/
theorem close_bounds (found : findMethod? text = some place)
    (closed : text.getLast? = some ')') :
    ∃ close behind, minus (Utf8.size text) 1 = .ok close ∧ suffix text place.stop = .ok behind ∧
      place.stop ≤ close ∧ ∀ pos, Text.find? Clauses.sortMark behind = some pos →
        place.stop + pos + 7 ≤ close := by
  obtain ⟨cut, ⟨rfl, -⟩, rfl⟩ := findMethod?_eq_some_iff.1 found
  have ends := getLast?_mark_append cut.before cut.method cut.after
  rw [closed] at ends
  obtain ⟨body, last⟩ := List.getLast?_eq_some_iff.1 (by simpa using ends.symm)
  have close := minus_append (cut.before ++ cut.method.mark ++ body) [')']
  rw [List.append_assoc, ← last] at close
  refine ⟨_, cut.after, close, Text.suffix_append _ _, ?_, fun pos mark => ?_⟩
  · simp [MethodPlace.ofSplit]
  · rw [Text.find?_eq, last] at mark
    obtain ⟨⟨arguments, rest⟩, broken, rfl⟩ := Option.map_eq_some_iff.1 mark
    obtain ⟨sortArguments, -, rfl⟩ := exists_concat_of_sortMark (Text.append_of_breakOn? broken)
    have size : Utf8.size Clauses.sortMark = 7 := by decide
    simp [MethodPlace.ofSplit, size]
    omega

/-! ## Date calls -/

theorem dateCallSize_eq_size? (s : List Char) : dateCallSize s = .ok (DateCall.size? s) := by
  rw [dateCallSize_eq, DateCall.size?]
  cases call : DateCall.read? s with
  | none => rfl
  | some parts =>
    obtain ⟨digits, after⟩ := parts
    rw [DateCall.eq_text_append_of_read? call]
    simp

namespace Rewriting

theorem quoteDateCallsFrom_copy {state : Quoting} {c : Char}
    (no_call : state = .outside → DateCall.read? (c :: rest) = none) :
    quoteDateCallsFrom state (c :: rest) = c :: quoteDateCallsFrom (state.next c) rest := by
  cases state with
  | outside => exact quoteDateCallsFrom_of_none (no_call rfl)
  | inside => exact quoteDateCallsFrom_inside
  | escaped => exact quoteDateCallsFrom_escaped

/-- A turn keeps what the text becomes once nothing is left. -/
theorem step_keeps {r r' : Rewriting} (h : r.step = .ok (some r')) :
    r'.written ++ quoteDateCallsFrom r'.state r'.left =
      r.written ++ quoteDateCallsFrom r.state r.left := by
  rcases step_cases r with ⟨-, ends⟩ | ⟨c, rest, left, no_call, copies⟩ |
    ⟨digits, after, state, call, quotes⟩
  · cases h.symm.trans ends
  · obtain rfl := Option.some.inj (Except.ok.inj (h.symm.trans copies))
    rw [left, quoteDateCallsFrom_copy (left ▸ no_call)]
    simp
  · obtain rfl := Option.some.inj (Except.ok.inj (h.symm.trans quotes))
    obtain ⟨run, text⟩ := DateCall.read?_eq_some_iff.1 call
    rw [state, text, quoteDateCallsFrom_text run]
    simp

theorem step_ends_or_turns (r : Rewriting) :
    r.left = [] ∧ r.step = .ok none ∨ ∃ r', r.step = .ok (some r') := by
  rcases step_cases r with ends | ⟨c, rest, -, -, copies⟩ | ⟨digits, after, -, -, quotes⟩
  · exact .inl ends
  · exact .inr ⟨_, copies⟩
  · exact .inr ⟨_, quotes⟩

theorem run_eq (r : Rewriting) : r.run = .ok (r.written ++ quoteDateCallsFrom r.state r.left) := by
  fun_induction run r with
  | case1 r fault failed =>
    rcases step_ends_or_turns r with ⟨-, ends⟩ | ⟨next, turns⟩
    · cases failed.symm.trans ends
    · cases failed.symm.trans turns
  | case2 r ended =>
    rcases step_ends_or_turns r with ⟨left, -⟩ | ⟨next, turns⟩
    · rw [left, quoteDateCallsFrom, List.append_nil]
    · cases ended.symm.trans turns
  | case3 r r' turned ih => rw [ih, step_keeps turned]

end Rewriting

theorem quoteDateCalls_eq (s : List Char) : quoteDateCalls s = .ok (DocTable.quoteDateCalls s) := by
  rw [quoteDateCalls, DocTable.quoteDateCalls, Text.find?_eq, Option.isNone_map, Rewriting.run_eq]
  split <;> rfl

/-! ## Date literals -/

/-- A number of digits beyond 64 bits is beyond all instants. -/
theorem int64_bind_ofMillis? {digits : List Char} (run : Json.IsDigits digits) :
    (Digits.intWithin? Int64.minValue.toInt Int64.maxValue.toInt digits).bind Instant.ofMillis? =
      Instant.ofMillis? (Digits.value digits) := by
  have least : Int64.minValue.toInt = -9223372036854775808 := rfl
  have greatest : Int64.maxValue.toInt = 9223372036854775807 := rfl
  rw [Digits.intWithin?, Digits.int?_of_digits run.1 run.2, Option.filter_some]
  split
  · rfl
  · next wide =>
    rw [decide_eq_true_eq, least, greatest] at wide
    rw [Option.bind_none, Instant.ofMillis?, dif_neg (by omega)]

theorem instant_eq (s : List Char) : instant s = .ok (DateLiteral.instant? s) := by
  unfold instant DateLiteral.instant?
  cases Text.dropMark? DateLiteral.opening s with
  | none => rfl
  | some rest =>
    simp only [digitsEnd_eq_zero_iff, suffix_digitsEnd, slice_digitsEnd, Text.isPrefixOf_eq, bind,
      Except.bind, Option.bind]
    cases Text.dropMark? DateLiteral.closing (rest.dropWhile Digits.isDigit) with
    | none => simp [pure, Except.pure]
    | some after =>
      by_cases none : rest.takeWhile Digits.isDigit = []
      · simp [none, pure, Except.pure]
      · have run : Json.IsDigits (rest.takeWhile Digits.isDigit) :=
          ⟨none, fun c mem => List.mem_takeWhile_imp mem⟩
        simp only [List.isEmpty_iff, none, if_false, Option.isSome_some, Bool.not_true,
          Bool.false_eq_true, pure, Except.pure]
        exact congrArg Except.ok (int64_bind_ofMillis? run)

mutual

theorem patchDates_eq (v : Value) : patchDates v = .ok v.patchDates := by
  cases v with
  | string s =>
    rw [patchDates, Value.patchDates, instant_eq]
    cases DateLiteral.instant? s.toList <;> rfl
  | document entries =>
    rw [patchDates, patchEntries_eq entries]
    rfl
  | map entries =>
    rw [patchDates, patchEntries_eq entries]
    rfl
  | array items =>
    rw [patchDates, patchItems_eq items]
    rfl
  | _ => rfl

theorem patchEntries_eq (entries : List (String × Value)) :
    patchEntries entries = .ok (Value.patchEntries entries) := by
  cases entries with
  | nil => rfl
  | cons e rest =>
    obtain ⟨key, v⟩ := e
    rw [patchEntries, patchDates_eq v, patchEntries_eq rest]
    rfl

theorem patchItems_eq (items : List Value) : patchItems items = .ok (Value.patchItems items) := by
  cases items with
  | nil => rfl
  | cons v rest =>
    rw [patchItems, patchDates_eq v, patchItems_eq rest]
    rfl

end

/-! ## Queries -/

theorem readArguments_eq (method : Method) (written : List Char) :
    readArguments method written = .ok (Query.readArguments method written) := by
  rw [readArguments, Query.readArguments, quoteDateCalls_eq]
  simp only [bind, Except.bind]
  split
  · next failed =>
    rw [failed]
    rfl
  · next items decoded =>
    rw [decoded, patchDates_eq]
    rfl

theorem ofClauses_eq (clauses : Clauses) (defaultDatabase : String) :
    ofClauses clauses defaultDatabase = .ok (Query.ofClauses clauses defaultDatabase) := by
  rw [ofClauses, Query.ofClauses, readArguments_eq]
  simp only [bind, Except.bind]
  cases Query.readArguments clauses.method clauses.arguments with
  | error e => rfl
  | ok parts => cases Query.readSort clauses.sortArguments <;> rfl

theorem parse_eq (text defaultDatabase : String) :
    parse text defaultDatabase = .ok (Query.parse text defaultDatabase) := by
  rw [parse, Query.parse, tokenize_eq]
  simp only [bind, Except.bind]
  cases Clauses.split? (Text.trim text.toList) with
  | none => rfl
  | some clauses => exact ofClauses_eq clauses defaultDatabase

/-! ## Every slice -/

/-- Slices with ends that are out of order, behind the end of the text or inside of a character are
not there, and the reading takes none of them. The arguments end behind the place where they open,
those of a sort behind its mark, each turn of the rewriting leaves less than it found, and the
answer is the query or the failure that the searches give. -/
theorem parse_never_faults :
    (∀ s start stop, (∃ part, slice s start stop = .ok part) ↔
      start ≤ stop ∧ stop ≤ Utf8.size s ∧ IsBoundary s start ∧ IsBoundary s stop) ∧
    (∀ text, tokenize text = .ok (Clauses.split? text)) ∧
    (∀ text place, findMethod? text = some place → text.getLast? = some ')' →
      ∃ close behind, minus (Utf8.size text) 1 = .ok close ∧
        suffix text place.stop = .ok behind ∧ place.stop ≤ close ∧
        ∀ pos, Text.find? Clauses.sortMark behind = some pos → place.stop + pos + 7 ≤ close) ∧
    (∀ s, dateCallSize s = .ok (DateCall.size? s)) ∧
    (∀ r : Rewriting, r.left = [] ∧ r.step = .ok none ∨
      ∃ r', r.step = .ok (some r') ∧ Utf8.size r'.left < Utf8.size r.left) ∧
    (∀ s, quoteDateCalls s = .ok (DocTable.quoteDateCalls s)) ∧
    (∀ s, instant s = .ok (DateLiteral.instant? s)) ∧
    ∀ text defaultDatabase,
      parse text defaultDatabase = .ok (Query.parse text defaultDatabase) := by
  refine ⟨fun s start stop => ?slices, tokenize_eq, fun text place => close_bounds,
    dateCallSize_eq_size?, fun r => ?turns, quoteDateCalls_eq, instant_eq, parse_eq⟩
  case slices =>
    rw [Text.exists_slice_iff]
    exact ⟨fun ⟨order, first, last⟩ => ⟨order, last.le_size, first, last⟩,
      fun ⟨order, _, first, last⟩ => ⟨order, first, last⟩⟩
  case turns =>
    rcases r.step_ends_or_turns with ends | ⟨r', turns⟩
    · exact .inl ends
    · exact .inr ⟨r', turns, Rewriting.step_shortens turns⟩

/-- The mark of the sort stands right behind the method's, names take two bytes a character. -/
def adjacentMarks : List Char := "é.ü.find().sort()".toList

theorem parse_never_faults_adjacent :
    findMethod? adjacentMarks = some ⟨5, 11, .find⟩ ∧
    (∃ close behind, minus (Utf8.size adjacentMarks) 1 = .ok close ∧
      suffix adjacentMarks 11 = .ok behind ∧ 11 ≤ close ∧
      ∀ pos, Text.find? Clauses.sortMark behind = some pos → 11 + pos + 7 ≤ close) ∧
    tokenize adjacentMarks = .ok (some ⟨['é'], ['ü'], .find, [], []⟩) ∧
    ¬ ∃ part, slice adjacentMarks 1 2 = .ok part := by
  obtain ⟨-, clauses, bounds, -⟩ := parse_never_faults
  have place : findMethod? adjacentMarks = some ⟨5, 11, .find⟩ := by decide +kernel
  refine ⟨place, bounds adjacentMarks _ place (by decide), ?_, ?_⟩
  · rw [clauses]
    exact congrArg Except.ok (by decide)
  · rintro ⟨part, cut⟩
    have impossible : slice adjacentMarks 1 2 = .error (.slice adjacentMarks 1 2) := rfl
    cases impossible.symm.trans cut

end DocTable.Offsets
