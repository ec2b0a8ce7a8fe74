import DocTable.Proofs.Run.Calls

/-!
# The outcome of a run

A run returns the table of the records received when the cap is reached or the cursor ends, and
otherwise one error: that of the executor, that of a pull, or the one of a cancelled token.
`outcome_determined` says which of them, and that it is the only one.
-/

namespace DocTable.Run

/-- The run returns this result, if it is given the time. -/
def Returns (executor : Executor) (settings : RunSettings) (text : String) (cancelled : Bool)
    (result : Except QueryError Table) : Prop :=
  ∃ fuel, (ofText executor settings text cancelled fuel).result = some result

/-- The token cuts the run short: it is cancelled in front of the execution, in front of a pull
that there is room for, or while one of the two hangs. -/
def Interrupted (executor : Executor) (query : Query) (maxRows : Nat) (cancelled : Bool) : Prop :=
  cancelled = true ∨ executor query = .hangs ∨
  ∃ cursor start records, executor query = .returns (.ok cursor) start ∧
    Reached maxRows cursor start records ∧ ¬ Full maxRows records.length ∧
    (cursor.tokenBefore start records.length = true ∨ cursor.pull records.length = .hangs)

variable {executor executor' : Executor} {settings : RunSettings} {text : String} {cancelled : Bool}
  {query : Query} {cursor cursor' : Cursor} {start : Bool} {maxRows n : Nat}
  {records : List Document} {result result' : Except QueryError Table}

/-! ## How the pulling settles -/

theorem settles_ok_iff :
    (∃ n, Settles maxRows cursor start n (.ok records)) ↔
      Reached maxRows cursor start records ∧
        (Full maxRows records.length ∨ Open maxRows cursor start records ∧
          ∃ c, cursor.pull records.length = .returns .finish c) := by
  constructor
  · rintro ⟨n, held, reached, stops⟩
    cases stops with
    | full full => exact ⟨reached, .inl full⟩
    | finish passes pull => exact ⟨reached, .inr ⟨passes, _, pull⟩⟩
  · rintro ⟨reached, full | ⟨passes, c, pull⟩⟩
    · exact ⟨_, records, reached, .full full⟩
    · exact ⟨_, records, reached, .finish passes pull⟩

theorem settles_error_iff {e : QueryError} :
    (∃ n, Settles maxRows cursor start n (.error e)) ↔
      ∃ records, Reached maxRows cursor start records ∧
        ((Open maxRows cursor start records ∧
            ∃ c, cursor.pull records.length = .returns (.failed e) c) ∨
          e = .cancelled ∧ ¬ Full maxRows records.length ∧
            (cursor.tokenBefore start records.length = true ∨
              cursor.pull records.length = .hangs)) := by
  constructor
  · rintro ⟨n, records, reached, stops⟩
    refine ⟨records, reached, ?_⟩
    cases stops with
    | cancelled room cut => exact .inr ⟨rfl, room, .inl cut⟩
    | failed passes pull => exact .inl ⟨passes, _, pull⟩
    | hung passes pull => exact .inr ⟨rfl, passes.room, .inr pull⟩
  · rintro ⟨records, reached, ⟨passes, c, pull⟩ | ⟨rfl, room, reason⟩⟩
    · exact ⟨_, records, reached, .failed passes pull⟩
    · cases token : cursor.tokenBefore start records.length with
      | true => exact ⟨_, records, reached, .cancelled room token⟩
      | false =>
        rw [token] at reason
        exact ⟨_, records, reached, .hung ⟨room, token⟩ (reason.resolve_left Bool.false_ne_true)⟩

/-! ## What is never looked at -/

/-- Two cursors give the same up to the cap. -/
def Agree (maxRows : Nat) (cursor cursor' : Cursor) : Prop :=
  ∀ i, (0 < maxRows → i < maxRows) → cursor'.pull i = cursor.pull i

theorem Agree.symm (h : Agree maxRows cursor cursor') : Agree maxRows cursor' cursor :=
  fun i below => (h i below).symm

theorem tokenBefore_congr (h : ∀ i < n, cursor'.pull i = cursor.pull i) :
    cursor'.tokenBefore start n = cursor.tokenBefore start n := by
  induction n with
  | zero => rw [Cursor.tokenBefore_zero, Cursor.tokenBefore_zero]
  | succ n ih =>
    rw [Cursor.tokenBefore_succ, Cursor.tokenBefore_succ, h n (Nat.lt_succ_self n),
      ih fun i lt => h i (Nat.lt_succ_of_lt lt)]

theorem Reached.agree (h : Reached maxRows cursor start records)
    (same : Agree maxRows cursor cursor') :
    Reached maxRows cursor' start records where
  given i d at_i := by
    have inside := (List.getElem?_eq_some_iff.1 at_i).1
    rw [same i fun cap => Nat.lt_of_lt_of_le inside (h.room cap)]
    exact h.given i d at_i
  room := h.room
  live i lt := by
    rw [tokenBefore_congr fun j before =>
      same j fun cap => Nat.lt_of_lt_of_le (Nat.lt_trans before lt) (h.room cap)]
    exact h.live i lt

theorem Reached.token_agree (h : Reached maxRows cursor start records)
    (same : Agree maxRows cursor cursor') :
    cursor'.tokenBefore start records.length = cursor.tokenBefore start records.length :=
  tokenBefore_congr fun i lt => same i fun cap => Nat.lt_of_lt_of_le lt (h.room cap)

theorem Reached.pull_agree (h : Reached maxRows cursor start records)
    (room : ¬ Full maxRows records.length) (same : Agree maxRows cursor cursor') :
    cursor'.pull records.length = cursor.pull records.length := by
  refine same _ fun cap => ?_
  have := h.room cap
  have : records.length ≠ maxRows := fun full => room ⟨cap, full⟩
  omega

theorem Settles.agree {outcome : Except QueryError (List Document)}
    (h : Settles maxRows cursor start n outcome) (same : Agree maxRows cursor cursor') :
    Settles maxRows cursor' start n outcome := by
  obtain ⟨records, reached, stops⟩ := h
  have token := reached.token_agree same
  have passing (passes : Open maxRows cursor start records) : Open maxRows cursor' start records :=
    ⟨passes.room, token.trans passes.live⟩
  refine ⟨records, reached.agree same, ?_⟩
  cases stops with
  | full full => exact .full full
  | cancelled room cut => exact .cancelled room (token.trans cut)
  | finish passes pull =>
    exact .finish (passing passes) ((reached.pull_agree passes.room same).trans pull)
  | failed passes pull =>
    exact .failed (passing passes) ((reached.pull_agree passes.room same).trans pull)
  | hung passes pull =>
    exact .hung (passing passes) ((reached.pull_agree passes.room same).trans pull)

/-! ## How a run comes out -/

inductive Outcome (executor : Executor) (query : Query) (maxRows : Nat) :
    Bool → Except QueryError Table → Prop where
  | early : Outcome executor query maxRows true (.error .cancelled)
  | hung (answer : executor query = .hangs) :
    Outcome executor query maxRows false (.error .cancelled)
  | refused {e : QueryError} {cancels : Bool}
      (answer : executor query = .returns (.error e) cancels) :
    Outcome executor query maxRows false (.error e)
  | built {cursor : Cursor} {start : Bool} {n : Nat} {records : List Document}
      (answer : executor query = .returns (.ok cursor) start)
      (settles : Settles maxRows cursor start n (.ok records)) :
    Outcome executor query maxRows false (.ok (Table.ofRecords records))
  | failed {cursor : Cursor} {start : Bool} {n : Nat} {e : QueryError}
      (answer : executor query = .returns (.ok cursor) start)
      (settles : Settles maxRows cursor start n (.error e)) :
    Outcome executor query maxRows false (.error e)

theorem Outcome.eventually (h : Outcome executor query settings.maxRows cancelled result)
    (parsed : Query.parse text settings.defaultDatabase = .ok query) :
    ∃ n, ∀ fuel, n ≤ fuel →
      (ofText executor settings text cancelled fuel).result = some result := by
  cases h with
  | early => exact ⟨0, fun fuel _ => by simp [ofText, parsed]⟩
  | hung answer => exact ⟨0, fun fuel _ => by simp [ofText, parsed, answer]⟩
  | refused answer => exact ⟨0, fun fuel _ => by simp [ofText, parsed, answer]⟩
  | @built cursor start n records answer settles =>
    refine ⟨n, fun fuel enough => ?_⟩
    rw [ofText_opened ⟨parsed, rfl, answer⟩]
    simp only [result_of_settles settles enough]
    rfl
  | @failed cursor start n e answer settles =>
    refine ⟨n, fun fuel enough => ?_⟩
    rw [ofText_opened ⟨parsed, rfl, answer⟩]
    simp only [result_of_settles settles enough]
    rfl

theorem outcome_of_returns (h : Returns executor settings text cancelled result)
    (parsed : Query.parse text settings.defaultDatabase = .ok query) :
    Outcome executor query settings.maxRows cancelled result := by
  obtain ⟨fuel, returned⟩ := h
  cases cancelled with
  | true =>
    simp only [ofText, parsed, if_true] at returned
    cases returned
    exact .early
  | false =>
    cases answer : executor query with
    | hangs =>
      simp only [ofText, parsed, answer, Bool.false_eq_true, if_false] at returned
      cases returned
      exact .hung answer
    | stalls =>
      simp only [ofText, parsed, answer, Bool.false_eq_true, if_false] at returned
      cases returned
    | returns given start =>
      cases given with
      | error e =>
        simp only [ofText, parsed, answer, Bool.false_eq_true, if_false] at returned
        cases returned
        exact .refused answer
      | ok cursor =>
        rw [ofText_opened ⟨parsed, rfl, answer⟩, Option.map_eq_some_iff] at returned
        obtain ⟨drained, has, rfl⟩ := returned
        obtain ⟨n, outcome, settles, rfl⟩ := settles_of_result has
        cases outcome with
        | ok records => exact .built answer settles
        | error e => exact .failed answer settles

theorem returns_iff_outcome (parsed : Query.parse text settings.defaultDatabase = .ok query) :
    Returns executor settings text cancelled result ↔
      Outcome executor query settings.maxRows cancelled result := by
  constructor
  · intro h
    exact outcome_of_returns h parsed
  · intro h
    obtain ⟨n, from_n⟩ := h.eventually parsed
    exact ⟨n, from_n n (Nat.le_refl n)⟩

theorem Outcome.agree (h : Outcome executor query maxRows cancelled result)
    (answer : executor query = .returns (.ok cursor) start)
    (answer' : executor' query = .returns (.ok cursor') start)
    (same : Agree maxRows cursor cursor') :
    Outcome executor' query maxRows cancelled result := by
  cases h with
  | early => exact .early
  | hung hangs =>
    rw [answer] at hangs
    cases hangs
  | refused error =>
    rw [answer] at error
    cases error
  | built given settles =>
    rw [answer] at given
    cases given
    exact .built answer' (settles.agree same)
  | failed given settles =>
    rw [answer] at given
    cases given
    exact .failed answer' (settles.agree same)

/-! ## Runs that do not return -/

/-- A call lasts for ever, or records come without end and without a cap. -/
def Unending (executor : Executor) (query : Query) (maxRows : Nat) : Prop :=
  executor query = .stalls ∨ ∃ cursor start, executor query = .returns (.ok cursor) start ∧
    ((∃ records, Reached maxRows cursor start records ∧ Open maxRows cursor start records ∧
      cursor.pull records.length = .stalls) ∨
    maxRows = 0 ∧ ∀ n, ∃ records, records.length = n ∧ Reached maxRows cursor start records)

theorem settles_or_unending (answer : executor query = .returns (.ok cursor) start) :
    (∃ n outcome, Settles maxRows cursor start n outcome) ∨ Unending executor query maxRows := by
  by_cases settles : ∃ n outcome, Settles maxRows cursor start n outcome
  · exact .inl settles
  refine .inr (.inr ⟨cursor, start, answer, ?_⟩)
  by_cases stalled : ∃ records, Reached maxRows cursor start records ∧
      Open maxRows cursor start records ∧ cursor.pull records.length = .stalls
  · exact .inl stalled
  -- all fuel is used up, however much there is
  have long : ∀ n, ∃ records, records.length = n ∧ Reached maxRows cursor start records := by
    intro fuel
    have ends := drain_ends maxRows cursor start fuel
    generalize (drain maxRows cursor fuel 0 start .empty).events = events at ends
    generalize (drain maxRows cursor fuel 0 start .empty).result = result at ends
    cases ends with
    | stops reached stops => exact absurd ⟨_, _, _, reached, stops⟩ settles
    | waits reached waits =>
      cases waits with
      | exhausted used => exact ⟨_, used, reached⟩
      | stalled passes pull => exact absurd ⟨_, reached, passes, pull⟩ stalled
  refine .inr ⟨?_, long⟩
  obtain ⟨records, length, reached⟩ := long (maxRows + 1)
  have := reached.room
  omega

theorem outcome_or_unending (executor : Executor) (query : Query) (maxRows : Nat)
    (cancelled : Bool) :
    (∃ result, Outcome executor query maxRows cancelled result) ∨
      cancelled = false ∧ Unending executor query maxRows := by
  cases cancelled with
  | true => exact .inl ⟨_, .early⟩
  | false =>
    cases answer : executor query with
    | hangs => exact .inl ⟨_, .hung answer⟩
    | stalls => exact .inr ⟨rfl, .inl answer⟩
    | returns given start =>
      cases given with
      | error e => exact .inl ⟨_, .refused answer⟩
      | ok cursor =>
        rcases settles_or_unending answer with ⟨n, outcome, settles⟩ | unending
        · cases outcome with
          | ok records => exact .inl ⟨_, .built answer settles⟩
          | error e => exact .inl ⟨_, .failed answer settles⟩
        · exact .inr ⟨rfl, unending⟩

/-! ## The outcome -/

theorem Returns.unique (h : Returns executor settings text cancelled result)
    (h' : Returns executor settings text cancelled result')
    (parsed : Query.parse text settings.defaultDatabase = .ok query) : result = result' := by
  obtain ⟨n, from_n⟩ := (outcome_of_returns h parsed).eventually parsed
  obtain ⟨n', from_n'⟩ := (outcome_of_returns h' parsed).eventually parsed
  have first := from_n (max n n') (Nat.le_max_left n n')
  have second := from_n' (max n n') (Nat.le_max_right n n')
  rw [first] at second
  exact Option.some.inj second

theorem returns_ok_iff (parsed : Query.parse text settings.defaultDatabase = .ok query)
    {table : Table} :
    Returns executor settings text cancelled (.ok table) ↔
      cancelled = false ∧ ∃ cursor start records,
        executor query = .returns (.ok cursor) start ∧
        Reached settings.maxRows cursor start records ∧
        (Full settings.maxRows records.length ∨
          Open settings.maxRows cursor start records ∧
            ∃ c, cursor.pull records.length = .returns .finish c) ∧
        table = Table.ofRecords records := by
  rw [returns_iff_outcome parsed]
  constructor
  · intro h
    cases h with
    | built answer settles =>
      obtain ⟨reached, reason⟩ := settles_ok_iff.1 ⟨_, settles⟩
      exact ⟨rfl, _, _, _, answer, reached, reason, rfl⟩
  · rintro ⟨rfl, cursor, start, records, answer, reached, reason, rfl⟩
    obtain ⟨n, settles⟩ := settles_ok_iff.2 ⟨reached, reason⟩
    exact .built answer settles

theorem returns_error_iff (parsed : Query.parse text settings.defaultDatabase = .ok query)
    {error : QueryError} :
    Returns executor settings text cancelled (.error error) ↔
      (cancelled = false ∧ ∃ c, executor query = .returns (.error error) c) ∨
      (cancelled = false ∧ ∃ cursor start records,
        executor query = .returns (.ok cursor) start ∧
        Reached settings.maxRows cursor start records ∧
        Open settings.maxRows cursor start records ∧
        ∃ c, cursor.pull records.length = .returns (.failed error) c) ∨
      (error = .cancelled ∧ Interrupted executor query settings.maxRows cancelled) := by
  rw [returns_iff_outcome parsed]
  constructor
  · intro h
    cases h with
    | early => exact .inr (.inr ⟨rfl, .inl rfl⟩)
    | hung answer => exact .inr (.inr ⟨rfl, .inr (.inl answer)⟩)
    | refused answer => exact .inl ⟨rfl, _, answer⟩
    | failed answer settles =>
      obtain ⟨records, reached, failed | interrupted⟩ := settles_error_iff.1 ⟨_, settles⟩
      · exact .inr (.inl ⟨rfl, _, _, records, answer, reached, failed⟩)
      · obtain ⟨rfl, cut⟩ := interrupted
        exact .inr (.inr ⟨rfl, .inr (.inr ⟨_, _, records, answer, reached, cut⟩)⟩)
  · intro h
    rcases h with ⟨rfl, c, answer⟩ | ⟨rfl, cursor, start, records, answer, reached, failed⟩ |
      ⟨rfl, interrupted⟩
    · exact .refused answer
    · obtain ⟨n, settles⟩ := settles_error_iff.2 ⟨records, reached, .inl failed⟩
      exact .failed answer settles
    · cases cancelled with
      | true => exact .early
      | false =>
        rcases interrupted with cut | hangs | ⟨cursor, start, records, answer, reached, cut⟩
        · cases cut
        · exact .hung hangs
        · obtain ⟨n, settles⟩ := settles_error_iff.2 ⟨records, reached, .inr ⟨rfl, cut⟩⟩
          exact .failed answer settles

/-- The outcome of running a text that is a query. A table comes out exactly where the cap is
reached or the cursor ends, and it is that of the records received; else there is one error, of the
executor, of a pull, or of the token. A run has one result, unless it goes on for ever, and neither
what lies beyond the cap nor the outcome of closing changes it. -/
theorem outcome_determined (executor : Executor) (settings : RunSettings) (text : String)
    (cancelled : Bool) (query : Query)
    (parsed : Query.parse text settings.defaultDatabase = .ok query) :
    (∀ table, Returns executor settings text cancelled (.ok table) ↔
      cancelled = false ∧ ∃ cursor start records,
        executor query = .returns (.ok cursor) start ∧
        Reached settings.maxRows cursor start records ∧
        (Full settings.maxRows records.length ∨
          Open settings.maxRows cursor start records ∧
            ∃ c, cursor.pull records.length = .returns .finish c) ∧
        table = Table.ofRecords records) ∧
    (∀ error, Returns executor settings text cancelled (.error error) ↔
      (cancelled = false ∧ ∃ c, executor query = .returns (.error error) c) ∨
      (cancelled = false ∧ ∃ cursor start records,
        executor query = .returns (.ok cursor) start ∧
        Reached settings.maxRows cursor start records ∧
        Open settings.maxRows cursor start records ∧
        ∃ c, cursor.pull records.length = .returns (.failed error) c) ∨
      (error = .cancelled ∧ Interrupted executor query settings.maxRows cancelled)) ∧
    (∀ result result', Returns executor settings text cancelled result →
      Returns executor settings text cancelled result' → result = result') ∧
    ((∃ result, Returns executor settings text cancelled result) ∨
      cancelled = false ∧ Unending executor query settings.maxRows) ∧
    (∀ cursor cursor' start, executor query = .returns (.ok cursor) start →
      Agree settings.maxRows cursor cursor' → ∀ result,
        (Returns executor settings text cancelled result ↔
          Returns (fun _ => .returns (.ok cursor') start) settings text cancelled result)) := by
  refine ⟨fun table => returns_ok_iff parsed, fun error => returns_error_iff parsed,
    fun result result' h h' => h.unique h' parsed, ?ends, ?agree⟩
  case ends =>
    simp only [returns_iff_outcome parsed]
    exact outcome_or_unending executor query settings.maxRows cancelled
  case agree =>
    intro cursor cursor' start answer same result
    rw [returns_iff_outcome parsed, returns_iff_outcome parsed]
    constructor
    · intro h
      exact h.agree answer rfl same
    · intro h
      exact h.agree rfl answer same.symm

/-- A cursor whose first pull gives a record and sees the token cancelled, and which then fails. -/
def interruptedCursor : Cursor where
  pull
    | 0 => .returns (.record [("n", .int32 1)]) true
    | _ + 1 => .returns (.failed (.record "truncated")) false
  close := .ok ()

theorem reached_interruptedCursor (maxRows : Nat) (room : 0 < maxRows → 1 ≤ maxRows) :
    Reached maxRows interruptedCursor false [[("n", .int32 1)]] where
  given i d at_i := by
    obtain ⟨inside, rfl⟩ := List.getElem?_eq_some_iff.1 at_i
    obtain rfl : i = 0 := Nat.lt_one_iff.1 inside
    exact ⟨true, rfl⟩
  room := room
  live := by decide

theorem outcome_determined_interrupted :
    Returns (fun _ => .returns (.ok interruptedCursor) false) ⟨"db1", 1⟩ "db.people.find()" false
      (.ok (Table.ofRecords [[("n", .int32 1)]])) ∧
    Returns (fun _ => .returns (.ok interruptedCursor) false) ⟨"db1", 0⟩ "db.people.find()" false
      (.error .cancelled) := by
  obtain ⟨tables, -⟩ := outcome_determined (fun _ => .returns (.ok interruptedCursor) false)
    ⟨"db1", 1⟩ "db.people.find()" false everyone parse_everyone
  obtain ⟨-, errors, -⟩ := outcome_determined (fun _ => .returns (.ok interruptedCursor) false)
    ⟨"db1", 0⟩ "db.people.find()" false everyone parse_everyone
  refine ⟨(tables _).2 ⟨rfl, interruptedCursor, false, _, rfl,
    reached_interruptedCursor 1 fun _ => Nat.le_refl 1, .inl ⟨Nat.one_pos, rfl⟩, rfl⟩,
    (errors _).2 (.inr (.inr ⟨rfl, .inr (.inr ⟨interruptedCursor, false, _, rfl,
      reached_interruptedCursor 0 fun cap => cap, ?_, .inl rfl⟩)⟩))⟩
  rintro ⟨cap, -⟩
  exact Nat.lt_irrefl 0 cap

end DocTable.Run
