import DocTable.Proofs.Run.Outcome
import DocTable.Proofs.Store.Commands

/-!
# Runs against a store

A store answers every call and leaves the token alone, and its cursors end. So every run against it
has a result, and the pulls that `Server.run` makes are enough for it: `Server.returns_run`.
-/

namespace DocTable

/-! ## Executors that leave the token alone -/

/-- No call cancels the token, or waits for it to be cancelled. -/
def Executor.Quiet (executor : Executor) : Prop :=
  ∀ q, (executor q).cancels = false ∧
    ∀ cursor cancels, executor q = .returns (.ok cursor) cancels →
      ∀ n, (cursor.pull n).cancels = false

namespace Run

variable {executor : Executor} {settings : RunSettings} {text : String} {cursor : Cursor}
  {maxRows fuel pulled last : Nat} {builder : TableBuilder} {cancelled : Bool}
  {result result' : Except QueryError Table}

theorem cancelled_drain (quiet : ∀ n, (cursor.pull n).cancels = false) :
    (drain maxRows cursor fuel pulled false builder).cancelled = false := by
  induction fuel generalizing pulled builder with
  | zero =>
    rw [drain]
    split <;> rfl
  | succ fuel ih =>
    rw [drain]
    split
    · rfl
    · have silent := quiet pulled
      cases pull : cursor.pull pulled with
      | hangs =>
        rw [pull] at silent
        cases silent
      | stalls => rfl
      | returns answer cancels =>
        obtain rfl : cancels = false := by
          rw [pull] at silent
          exact silent
        cases answer with
        | record d => exact ih
        | finish => rfl
        | failed e => rfl

theorem cancelled_ofText (quiet : executor.Quiet) :
    (ofText executor settings text false fuel).cancelled = false := by
  rw [ofText]
  cases Query.parse text settings.defaultDatabase with
  | error e => rfl
  | ok query =>
    obtain ⟨silent, pulls⟩ := quiet query
    cases answer : executor query with
    | hangs =>
      rw [answer] at silent
      cases silent
    | stalls => simp [answer]
    | returns given cancels =>
      obtain rfl : cancels = false := by
        rw [answer] at silent
        exact silent
      cases given with
      | error e => simp [answer]
      | ok cursor => simp [answer, cancelled_drain (pulls cursor false answer)]

/-- A cursor that is never waited for ends where it gives no record. -/
theorem isSome_drain (returns : ∀ n, ∃ answer, cursor.pull n = .returns answer false)
    (ends : ∀ d, cursor.pull last ≠ .returns (.record d) false) (before : pulled ≤ last)
    (enough : last < pulled + fuel) :
    (drain maxRows cursor fuel pulled false builder).result.isSome = true := by
  induction fuel generalizing pulled builder with
  | zero => omega
  | succ fuel ih =>
    rw [drain]
    split
    · rfl
    · obtain ⟨answer, pull⟩ := returns pulled
      rw [pull]
      cases answer with
      | record d =>
        have later : pulled ≠ last := by
          rintro rfl
          exact ends d pull
        exact ih (by omega) (by omega)
      | finish => rfl
      | failed e => rfl

theorem Returns.eq (h : Returns executor settings text cancelled result)
    (h' : Returns executor settings text cancelled result') : result = result' := by
  cases parsed : Query.parse text settings.defaultDatabase with
  | ok query => exact h.unique h' parsed
  | error e =>
    obtain ⟨fuel, first⟩ := h
    obtain ⟨fuel', second⟩ := h'
    rw [ofText, parsed] at first second
    exact Option.some.inj (first.symm.trans second)

theorem Returns.exists_records {table : Table}
    (h : Returns executor settings text cancelled (.ok table)) :
    ∃ records, table = Table.ofRecords records := by
  cases parsed : Query.parse text settings.defaultDatabase with
  | ok query =>
    obtain ⟨-, -, -, records, -, -, -, built⟩ := (returns_ok_iff parsed).1 h
    exact ⟨records, built⟩
  | error e =>
    obtain ⟨fuel, returned⟩ := h
    rw [ofText, parsed] at returned
    cases returned

theorem ofText_congr {executor' : Executor}
    (same : ∀ query, Query.parse text settings.defaultDatabase = .ok query →
      executor' query = executor query) :
    ofText executor' settings text cancelled fuel =
      ofText executor settings text cancelled fuel := by
  rw [ofText, ofText]
  cases parsed : Query.parse text settings.defaultDatabase with
  | error e => rfl
  | ok query => simp only [same query parsed]

end Run

/-! ## The cursors of a store -/

theorem ok_of_mapError {ε ε' α : Type} {f : ε → ε'} {x : Except ε α} {a : α}
    (h : x.mapError f = .ok a) : x = .ok a := by
  cases x with
  | error e => cases h
  | ok a' => rw [Except.ok.inj h]

namespace Server

variable {s : Server} {settings : StoreSettings} {runSettings : RunSettings} {text : String}
  {fuel : Nat}

theorem length_batchFetches (sent : List Command) (batch : List StoredDocument) :
    (batchFetches sent batch).length = batch.length := by
  cases batch <;> simp [batchFetches]

theorem exists_fetches (more : Command) (moreError : Option ServerError) (sent : List Command)
    (first : List StoredDocument) (others : List (List StoredDocument)) :
    ∃ held last, fetches more moreError sent first others = held ++ [last] ∧
      held.length = first.length + others.flatten.length ∧ ∀ d, last.pull ≠ .record d := by
  induction others generalizing sent first with
  | nil =>
    refine ⟨_, _, rfl, by simp [length_batchFetches], ?_⟩
    intro d
    cases moreError <;> simp
  | cons next others ih =>
    obtain ⟨held, last, rest, length, ends⟩ :=
      ih (if first.isEmpty then sent ++ [more] else [more]) next
    refine ⟨batchFetches sent first ++ held, last, ?_, ?_, ends⟩
    · rw [fetches, rest, List.append_assoc]
    · simp [length_batchFetches, length]

theorem length_batches_lt (s : Server) (name : String) :
    (s.collection name).batches.flatten.length < s.enoughPulls := by
  rw [enoughPulls, Nat.lt_succ_iff, collection, Entries.get?]
  cases found : s.collections.find? (·.1 == name) with
  | none => exact Nat.zero_le _
  | some entry =>
    have part : entry.2.batches.flatten ∈ s.collections.map fun e => e.2.batches.flatten :=
      List.mem_map.2 ⟨entry, List.mem_of_find?_eq_some found, rfl⟩
    exact (List.sublist_flatten_of_mem part).length_le

theorem openCursor_ok {database name : String} {fetches : List Fetch}
    (h : s.openCursor database name = .ok fetches) :
    ∃ held last, fetches = held ++ [last] ∧ held.length < s.enoughPulls ∧
      ∀ d, last.pull ≠ .record d := by
  have few := s.length_batches_lt name
  rw [openCursor] at h
  split at h
  · cases h
  · obtain rfl := Except.ok.inj h
    cases batches : (s.collection name).batches with
    | nil =>
      obtain ⟨held, last, given, length, ends⟩ := exists_fetches (.getMore database name)
        (s.collection name).moreError [] [] []
      refine ⟨held, last, given, ?_, ends⟩
      rw [length]
      exact Nat.zero_lt_of_lt few
    | cons first others =>
      obtain ⟨held, last, given, length, ends⟩ := exists_fetches (.getMore database name)
        (s.collection name).moreError [] first others
      refine ⟨held, last, given, ?_, ends⟩
      rw [batches, List.flatten_cons, List.length_append] at few
      rwa [length]

theorem reply_of_driver {command : Command} {fetches : List Fetch}
    (h : (s.driver settings command).value = .ok fetches) : s.reply command = .ok fetches := by
  apply ok_of_mapError (f := ServerError.commandText)
  rw [driver] at h
  split at h
  · exact h
  · split at h
    · exact h
    · exact h
    · cases h

theorem execute_ok {q : Query} {fetches : List Fetch}
    (h : (s.execute settings q).value = .ok fetches) :
    s.openCursor q.database q.collection = .ok fetches := by
  cases asked : q.command with
  | error e =>
    rw [execute, Query.send_of_error asked] at h
    cases h
  | ok command =>
    rw [execute, Query.send_of_ok asked] at h
    have opened : s.reply command = .ok fetches := reply_of_driver (ok_of_mapError h)
    rcases Query.command_cases asked with ⟨_, _, _, rfl⟩ | ⟨_, rfl⟩
    · exact opened
    · exact opened

theorem executor_returns {q : Query} {cursor : Cursor} {cancels : Bool}
    (h : s.executor settings q = .returns (.ok cursor) cancels) :
    (∀ n, ∃ answer, cursor.pull n = .returns answer false) ∧
      ∃ last < s.enoughPulls, ∀ d, cursor.pull last ≠ .returns (.record d) false := by
  cases executed : (s.execute settings q).value with
  | error e =>
    rw [executor, executed] at h
    cases h
  | ok fetches =>
    obtain ⟨held, last, rfl, few, ends⟩ := openCursor_ok (execute_ok executed)
    rw [executor, executed] at h
    obtain rfl := Except.ok.inj (Call.returns.inj h).1
    refine ⟨fun n => ?_, held.length, few, fun d => ?_⟩
    · simp only [Cursor.ofList, List.getD_eq_getElem?_getD, List.getElem?_map]
      cases (held ++ [last])[n]? with
      | none => exact ⟨_, rfl⟩
      | some fetch => exact ⟨_, rfl⟩
    · simp [Cursor.ofList, ends]

theorem executor_quiet : (s.executor settings).Quiet := by
  intro q
  refine ⟨rfl, fun cursor cancels answer n => ?_⟩
  obtain ⟨pull, given⟩ := (executor_returns answer).1 n
  rw [given]
  rfl

theorem isSome_ofText (enough : s.enoughPulls ≤ fuel) :
    (Run.ofText (s.executor settings) runSettings text false fuel).result.isSome = true := by
  cases parsed : Query.parse text runSettings.defaultDatabase with
  | error e => simp [Run.ofText, parsed]
  | ok query =>
    obtain ⟨given, answer⟩ : ∃ given, s.executor settings query = .returns given false := ⟨_, rfl⟩
    cases given with
    | error e => simp [Run.ofText, parsed, answer]
    | ok cursor =>
      obtain ⟨returns, last, few, ends⟩ := executor_returns answer
      rw [Run.ofText_opened ⟨parsed, rfl, answer⟩, Option.isSome_map]
      exact Run.isSome_drain returns ends (Nat.zero_le last) (by omega)

theorem returns_run : Run.Returns (s.executor settings) runSettings text false
    (s.run settings runSettings text).value := by
  obtain ⟨result, returned⟩ :=
    Option.isSome_iff_exists.1 (s.isSome_ofText (Nat.le_refl s.enoughPulls))
  refine ⟨s.enoughPulls, ?_⟩
  rw [run, returned]
  rfl

end Server

end DocTable
