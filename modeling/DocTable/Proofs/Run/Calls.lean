import DocTable.Proofs.Run.Pulling

/-!
# The calls of a run

What a run may ask of its executor and its cursor, and in which order, whatever they answer and
whenever the token is cancelled. `calls_disciplined` is about a run with any fuel, so about every
moment of a run that does not end, too.
-/

namespace DocTable.Run

/-- The run is handed a cursor; `start` is the token behind that. -/
structure Opened (executor : Executor) (settings : RunSettings) (text : String) (cancelled : Bool)
    (query : Query) (cursor : Cursor) (start : Bool) : Prop where
  parsed : Query.parse text settings.defaultDatabase = .ok query
  live : cancelled = false
  answer : executor query = .returns (.ok cursor) start

variable {executor : Executor} {settings : RunSettings} {text : String} {cancelled : Bool}
  {query : Query} {cursor : Cursor} {start : Bool} {fuel : Nat}

/-! ## Runs with and without a cursor -/

theorem ofText_opened (h : Opened executor settings text cancelled query cursor start)
    (fuel : Nat) :
    let d := drain settings.maxRows cursor fuel 0 start .empty
    ofText executor settings text cancelled fuel =
      ⟨d.result.map fun r => r.map fun builder => builder.build.1,
        .execute query :: d.events ++ d.closeEvents, d.cancelled, d.closeFailure cursor⟩ := by
  intro d
  rw [ofText, h.parsed]
  simp only [h.live, Bool.false_eq_true, if_false, h.answer]
  rfl

theorem events_of_not_opened
    (h : ¬ ∃ query cursor start, Opened executor settings text cancelled query cursor start) :
    (ofText executor settings text cancelled fuel).events = [] ∨
    ∃ query, Query.parse text settings.defaultDatabase = .ok query ∧ cancelled = false ∧
      (ofText executor settings text cancelled fuel).events = [.execute query] := by
  rw [ofText]
  cases parsed : Query.parse text settings.defaultDatabase with
  | error e => exact .inl rfl
  | ok query =>
    cases cancelled with
    | true => exact .inl rfl
    | false =>
      refine .inr ⟨query, rfl, rfl, ?_⟩
      simp only [Bool.false_eq_true, if_false]
      cases answer : executor query with
      | hangs => rfl
      | stalls => rfl
      | returns result cancels =>
        cases result with
        | error e => rfl
        | ok cursor => exact absurd ⟨query, cursor, cancels, parsed, rfl, answer⟩ h

/-! ## Pulls -/

section Pulls

variable {maxRows n : Nat} {records : List Document} {events : List Event}
  {outcome : Except QueryError (List Document)} {result : Option (Except QueryError TableBuilder)}

def Made (maxRows : Nat) (cursor : Cursor) (start : Bool) (records : List Document) (n : Nat) :
    Prop :=
  n = records.length ∨ n = records.length + 1 ∧ Open maxRows cursor start records

theorem Stops.made (h : Stops maxRows cursor start records n outcome) :
    Made maxRows cursor start records n := by
  cases h with
  | full full => exact .inl rfl
  | cancelled room cut => exact .inl rfl
  | finish passes pull => exact .inr ⟨rfl, passes⟩
  | failed passes pull => exact .inr ⟨rfl, passes⟩
  | hung passes pull => exact .inr ⟨rfl, passes⟩

theorem Waits.made (h : Waits maxRows cursor start records fuel n) :
    Made maxRows cursor start records n := by
  cases h with
  | exhausted used => exact .inl rfl
  | stalled passes pull => exact .inr ⟨rfl, passes⟩

theorem Made.le_maxRows (h : Made maxRows cursor start records n)
    (reached : Reached maxRows cursor start records) (cap : 0 < maxRows) : n ≤ maxRows := by
  have room := reached.room cap
  rcases h with rfl | ⟨rfl, passes⟩
  · exact room
  · have : records.length ≠ maxRows := fun full => passes.room ⟨cap, full⟩
    omega

theorem Made.live (h : Made maxRows cursor start records n)
    (reached : Reached maxRows cursor start records) {k : Nat} (lt : k < n) :
    cursor.tokenBefore start k = false := by
  rcases h with rfl | ⟨rfl, passes⟩
  · exact reached.live k lt
  · rcases Nat.lt_or_eq_of_le (Nat.le_of_lt_succ lt) with lt | rfl
    · exact reached.live k lt
    · exact passes.live

theorem Made.record (h : Made maxRows cursor start records n)
    (reached : Reached maxRows cursor start records) {i : Nat} (lt : i + 1 < n) :
    ∃ d, cursor.pull i = .returns (.record d) false := by
  have inside : i < records.length := by
    rcases h with rfl | ⟨rfl, -⟩ <;> omega
  obtain ⟨cancels, pull⟩ := reached.given i records[i] (List.getElem?_eq_getElem inside)
  have live := h.live reached lt
  rw [Cursor.tokenBefore_succ, Bool.or_eq_false_iff, pull] at live
  obtain rfl : cancels = false := live.2
  exact ⟨_, pull⟩

theorem Ends.pulls (h : Ends maxRows cursor start fuel events result) :
    ∃ n, events = pullsUpTo n ∧ (0 < maxRows → n ≤ maxRows) ∧
      ∀ k < n, cursor.tokenBefore start k = false ∧
        ∀ i < k, ∃ d, cursor.pull i = .returns (.record d) false := by
  have allowed {records n} (reached : Reached maxRows cursor start records)
      (made : Made maxRows cursor start records n) :
      (0 < maxRows → n ≤ maxRows) ∧ ∀ k < n, cursor.tokenBefore start k = false ∧
        ∀ i < k, ∃ d, cursor.pull i = .returns (.record d) false :=
    ⟨made.le_maxRows reached, fun k lt => ⟨made.live reached lt, fun i before =>
      made.record reached (Nat.lt_of_le_of_lt before lt)⟩⟩
  cases h with
  | stops reached stops => exact ⟨_, rfl, allowed reached stops.made⟩
  | waits reached waits => exact ⟨_, rfl, allowed reached waits.made⟩

theorem pullsUpTo_split {before after : List Event} {k : Nat}
    (h : pullsUpTo n = before ++ .pull k :: after) : k < n ∧ before = pullsUpTo k := by
  have at_k : (pullsUpTo n)[before.length]? = some (.pull k) := by simp [h]
  rw [pullsUpTo, List.getElem?_map, Option.map_eq_some_iff] at at_k
  obtain ⟨j, found, same⟩ := at_k
  obtain ⟨inside, rfl⟩ := List.getElem?_eq_some_iff.1 found
  rw [List.getElem_range, Event.pull.injEq] at same
  rw [List.length_range] at inside
  refine ⟨same ▸ inside, ?_⟩
  have taken : before = (pullsUpTo n).take before.length := by simp [h]
  rw [taken, pullsUpTo, ← List.map_take, List.take_range, Nat.min_eq_left (Nat.le_of_lt inside),
    same]
  rfl

theorem countP_pullsUpTo (n : Nat) :
    (pullsUpTo n).countP Event.isExecute = 0 ∧ (pullsUpTo n).countP Event.isPull = n ∧
      (pullsUpTo n).countP Event.isClose = 0 := by
  induction n with
  | zero => exact ⟨rfl, rfl, rfl⟩
  | succ n ih =>
    obtain ⟨executes, pulls, closes⟩ := ih
    simp [pullsUpTo_succ, executes, pulls, closes, Event.isExecute, Event.isPull, Event.isClose]

end Pulls

/-! ## The log of a run with a cursor -/

def closing (returned : Bool) : List Event := if returned then [.close] else []

theorem countP_closing (returned : Bool) :
    (closing returned).countP Event.isExecute = 0 ∧ (closing returned).countP Event.isPull = 0 ∧
      (closing returned).countP Event.isClose = if returned then 1 else 0 := by
  cases returned <;> exact ⟨rfl, rfl, rfl⟩

theorem pull_not_mem_closing (returned : Bool) (n : Nat) : .pull n ∉ closing returned := by
  cases returned <;> simp [closing]

theorem Opened.log (h : Opened executor settings text cancelled query cursor start) (fuel : Nat) :
    let run := ofText executor settings text cancelled fuel
    ∃ n, run.events = .execute query :: (pullsUpTo n ++ closing run.result.isSome) ∧
      (0 < settings.maxRows → n ≤ settings.maxRows) ∧
      ∀ k < n, cursor.tokenBefore start k = false ∧
        ∀ i < k, ∃ d, cursor.pull i = .returns (.record d) false := by
  obtain ⟨n, events, allowed⟩ := (drain_ends settings.maxRows cursor start fuel).pulls
  refine ⟨n, ?_, allowed⟩
  rw [ofText_opened h]
  simp only [events, Drain.closeEvents, closing, List.cons_append, Option.isSome_map]

theorem Opened.counts (h : Opened executor settings text cancelled query cursor start)
    (fuel : Nat) :
    let run := ofText executor settings text cancelled fuel
    run.executions = 1 ∧ (0 < settings.maxRows → run.pulls ≤ settings.maxRows) ∧
      run.closes = if run.result.isSome then 1 else 0 := by
  intro run
  obtain ⟨n, events, cap, -⟩ := h.log fuel
  obtain ⟨executes, pulls, closes⟩ := countP_pullsUpTo n
  obtain ⟨executes', pulls', closes'⟩ := countP_closing run.result.isSome
  refine ⟨?_, fun capped => ?_, ?_⟩
  · rw [executions, events, List.countP_cons, List.countP_append, executes, executes']
    rfl
  · rw [Run.pulls, events, List.countP_cons, List.countP_append, pulls, pulls']
    exact cap capped
  · rw [Run.closes, events, List.countP_cons, List.countP_append, closes, closes']
    simp [Event.isClose, run]

theorem Opened.before_pull (h : Opened executor settings text cancelled query cursor start)
    {before after : List Event} {n : Nat}
    (split : (ofText executor settings text cancelled fuel).events = before ++ .pull n :: after) :
    before = .execute query :: pullsUpTo n ∧ cursor.tokenBefore start n = false ∧
      ∀ i < n, ∃ d, cursor.pull i = .returns (.record d) false := by
  obtain ⟨k, events, -, allowed⟩ := h.log fuel
  have late (rest : List Event) (returned : Bool) : closing returned ≠ rest ++ .pull n :: after :=
    fun e => pull_not_mem_closing returned n (by rw [e]; simp)
  rw [events] at split
  cases before with
  | nil => cases split
  | cons first before =>
    rw [List.cons_append, List.cons.injEq] at split
    obtain ⟨rfl, split⟩ := split
    rcases List.append_eq_append_iff.1 split with ⟨rest, -, tail⟩ | ⟨rest, pulls, tail⟩
    · exact absurd tail (late rest _)
    · cases rest with
      | nil => exact absurd tail.symm (late [] _)
      | cons pull rest =>
        rw [List.cons_append, List.cons.injEq] at tail
        obtain ⟨rfl, -⟩ := tail
        obtain ⟨lt, rfl⟩ := pullsUpTo_split pulls
        exact ⟨rfl, allowed n lt⟩

theorem Opened.execute_mem (h : Opened executor settings text cancelled query cursor start)
    {q : Query} (mem : .execute q ∈ (ofText executor settings text cancelled fuel).events) :
    q = query := by
  obtain ⟨n, events, -⟩ := h.log fuel
  rw [events, List.mem_cons] at mem
  rcases mem with same | late
  · exact Event.execute.inj same
  · rcases List.mem_append.1 late with pull | close
    · simp [pullsUpTo] at pull
    · cases (ofText executor settings text cancelled fuel).result.isSome <;> simp [closing] at close

theorem Opened.close_last (h : Opened executor settings text cancelled query cursor start)
    {before after : List Event}
    (split : (ofText executor settings text cancelled fuel).events = before ++ .close :: after) :
    (ofText executor settings text cancelled fuel).result.isSome ∧ after = [] := by
  obtain ⟨n, events, -⟩ := h.log fuel
  have pulled : Event.close ∉ .execute query :: pullsUpTo n := by simp [pullsUpTo]
  rw [events, ← List.cons_append] at split
  cases returned : (ofText executor settings text cancelled fuel).result.isSome with
  | false =>
    rw [returned, closing, if_neg Bool.false_ne_true, List.append_nil] at split
    exact absurd (by rw [split]; simp) pulled
  | true =>
    rw [returned, closing, if_pos rfl] at split
    refine ⟨rfl, ?_⟩
    rcases List.eq_nil_or_concat after with none | ⟨init, last, rfl⟩
    · exact none
    · rw [List.concat_eq_append, ← List.cons_append, ← List.append_assoc] at split
      have calls := List.append_inj_left' split rfl
      exact absurd (by rw [calls]; simp) pulled

theorem calls_of_not_opened
    (h : ¬ ∃ query cursor start, Opened executor settings text cancelled query cursor start)
    {call : Event} (mem : call ∈ (ofText executor settings text cancelled fuel).events) :
    ∃ query, call = .execute query ∧ Query.parse text settings.defaultDatabase = .ok query ∧
      cancelled = false := by
  rcases events_of_not_opened h with none | ⟨query, parsed, live, one⟩
  · rw [none] at mem
    cases mem
  · rw [one] at mem
    exact ⟨query, List.mem_singleton.1 mem, parsed, live⟩

theorem counts_of_not_opened
    (h : ¬ ∃ query cursor start, Opened executor settings text cancelled query cursor start)
    (fuel : Nat) :
    let run := ofText executor settings text cancelled fuel
    run.executions ≤ 1 ∧ run.pulls = 0 ∧ run.closes = 0 := by
  intro run
  rw [executions, Run.pulls, Run.closes]
  rcases events_of_not_opened h with none | ⟨query, -, -, one⟩
  · rw [none]
    exact ⟨Nat.zero_le 1, rfl, rfl⟩
  · rw [one]
    exact ⟨Nat.le_refl 1, rfl, rfl⟩

/-! ## Every run -/

/-- The discipline of every run, however far it gets. The query is executed once at most, as the
text spells it and with the token not cancelled. In front of each pull the log holds the query and
the pulls before it, all of which gave records, and no close; the token is not cancelled. A cap
bounds the number of pulls. A run that has returned has closed its cursor once, if it was handed
one. -/
theorem calls_disciplined (executor : Executor) (settings : RunSettings) (text : String)
    (cancelled : Bool) (fuel : Nat) :
    let run := ofText executor settings text cancelled fuel
    run.executions ≤ 1 ∧
    (∀ query, .execute query ∈ run.events →
      Query.parse text settings.defaultDatabase = .ok query ∧ cancelled = false) ∧
    (∀ before n after, run.events = before ++ .pull n :: after →
      ∃ query cursor start, Opened executor settings text cancelled query cursor start ∧
        before = .execute query :: (List.range n).map .pull ∧
        cursor.tokenBefore start n = false ∧
        ∀ i < n, ∃ d, cursor.pull i = .returns (.record d) false) ∧
    (0 < settings.maxRows → run.pulls ≤ settings.maxRows) ∧
    (run.result.isSome →
      ((∃ query cursor start, Opened executor settings text cancelled query cursor start) →
        run.closes = 1) ∧
      ((¬ ∃ query cursor start, Opened executor settings text cancelled query cursor start) →
        run.closes = 0)) ∧
    (∀ before after, run.events = before ++ .close :: after →
      run.result.isSome ∧ after = []) := by
  intro run
  by_cases opened : ∃ query cursor start, Opened executor settings text cancelled query cursor start
  · obtain ⟨query, cursor, start, h⟩ := opened
    obtain ⟨executions, pulls, closes⟩ := h.counts fuel
    refine ⟨Nat.le_of_eq executions, fun q mem => ?_, fun before n after split => ?_, pulls,
      fun returned => ⟨fun _ => by rw [closes, if_pos returned], fun none => ?_⟩,
      fun before after split => h.close_last split⟩
    · rw [h.execute_mem mem]
      exact ⟨h.parsed, h.live⟩
    · obtain ⟨log, live, records⟩ := h.before_pull split
      exact ⟨query, cursor, start, h, log, live, records⟩
    · exact absurd ⟨query, cursor, start, h⟩ none
  · obtain ⟨executions, pulls, closes⟩ := counts_of_not_opened opened fuel
    refine ⟨executions, fun q mem => ?_, fun before n after split => ?_, fun _ => ?_,
      fun _ => ⟨fun some => absurd some opened, fun _ => closes⟩, fun before after split => ?_⟩
    · obtain ⟨query, same, parsed, live⟩ := calls_of_not_opened opened mem
      rw [Event.execute.inj same]
      exact ⟨parsed, live⟩
    · have mem : Event.pull n ∈ run.events := by rw [split]; simp
      obtain ⟨query, same, -⟩ := calls_of_not_opened opened mem
      cases same
    · rw [pulls]
      exact Nat.zero_le _
    · have mem : Event.close ∈ run.events := by rw [split]; simp
      obtain ⟨query, same, -⟩ := calls_of_not_opened opened mem
      cases same

def everyone : Query := ⟨"db1", "people", .find, .document [], none, none⟩

theorem parse_everyone : Query.parse "db.people.find()" "db1" = .ok everyone := by
  have cut : Clauses.split? (Text.trim "db.people.find()".toList) =
      some ⟨['d', 'b'], "people".toList, .find, [], []⟩ := by decide
  have arguments : Query.readArguments .find [] = .ok (.document [], none) := rfl
  simp only [Query.parse, cut, Query.ofClauses, arguments]
  rfl

def endless : Cursor := ⟨fun _ => .returns (.record []) false, .ok ()⟩

theorem reached_endless : Reached 2 endless false [[], []] where
  given i d at_i := by
    obtain ⟨inside, rfl⟩ := List.getElem?_eq_some_iff.1 at_i
    match i, inside with
    | 0, _ => exact ⟨false, rfl⟩
    | 1, _ => exact ⟨false, rfl⟩
  room _ := by decide
  live := by decide

theorem calls_disciplined_endless :
    let run := ofText (fun _ => .returns (.ok endless) false) ⟨"db1", 2⟩ "db.people.find()" false 5
    run.result.isSome ∧ run.closes = 1 ∧ run.pulls ≤ 2 := by
  intro run
  obtain ⟨-, -, -, pulls, closes, -⟩ :=
    calls_disciplined (fun _ => .returns (.ok endless) false) ⟨"db1", 2⟩ "db.people.find()" false 5
  have opened : Opened (fun _ => .returns (.ok endless) false) ⟨"db1", 2⟩ "db.people.find()" false
      everyone endless false := ⟨parse_everyone, rfl, rfl⟩
  have settles : Settles 2 endless false 2 (.ok [[], []]) :=
    ⟨_, reached_endless, .full ⟨by decide, rfl⟩⟩
  have returned : run.result.isSome := by
    simp only [run, ofText_opened opened, result_of_settles settles (by decide : 2 ≤ 5)]
    rfl
  exact ⟨returned, (closes returned).1 ⟨everyone, endless, false, opened⟩, pulls (by decide)⟩

end DocTable.Run
