import DocTable.Proofs.Run.Outcome
import DocTable.Proofs.Table.Clipping

/-!
# Runs that stop at their cap

A run that stops at its row cap shows the top of the table that the same run builds without a cap.
-/

namespace DocTable

/-- The cursor gives these records and ends. It does not fail, and meanwhile nobody cancels. -/
structure Cursor.Gives (cursor : Cursor) (records : List Document) : Prop where
  record : ∀ i d, records[i]? = some d → cursor.pull i = .returns (.record d) false
  finish : cursor.pull records.length = .returns .finish false

namespace Run

variable {executor : Executor} {settings : RunSettings} {text database : String} {cancelled : Bool}
  {query : Query} {cursor : Cursor} {start : Bool} {records : List Document} {maxRows : Nat}
  {table : Table}

/-! ## The same cursor under two caps -/

theorem not_full_zero (count : Nat) : ¬ Full 0 count := by
  intro full
  exact Nat.lt_irrefl 0 full.1

theorem Reached.take (h : Reached 0 cursor start records) :
    Reached maxRows cursor start (records.take maxRows) where
  given i d at_i := by
    rw [List.getElem?_take] at at_i
    split at at_i
    · exact h.given i d at_i
    · cases at_i
  room _ := List.length_take_le ..
  live i inside := by
    rw [List.length_take] at inside
    exact h.live i (by omega)

/-- A cap is reached where there are records enough. Otherwise it is as if there were none. -/
theorem Open.full_take_or (passes : Open 0 cursor start records) (cap : 0 < maxRows) :
    Full maxRows (records.take maxRows).length ∨
      records.take maxRows = records ∧ Open maxRows cursor start records := by
  rcases Nat.lt_or_ge records.length maxRows with few | many
  · right
    constructor
    · exact List.take_of_length_le (Nat.le_of_lt few)
    · exact ⟨fun full => Nat.ne_of_lt few full.2, passes.live⟩
  · left
    exact ⟨cap, by simp [many]⟩

theorem Cursor.Gives.live (gives : cursor.Gives records) {n : Nat} (within : n ≤ records.length) :
    cursor.tokenBefore false n = false := by
  induction n with
  | zero => exact cursor.tokenBefore_zero false
  | succ n ih =>
    have pull := gives.record n records[n] (List.getElem?_eq_getElem within)
    rw [cursor.tokenBefore_succ, ih (Nat.le_of_succ_le within), pull]
    rfl

theorem Cursor.Gives.reached (gives : cursor.Gives records) : Reached 0 cursor false records where
  given i d at_i := ⟨false, gives.record i d at_i⟩
  room cap := absurd cap (Nat.lt_irrefl 0)
  live _ inside := Cursor.Gives.live gives (Nat.le_of_lt inside)

/-! ## The two runs -/

theorem parsed_of_returns_ok (h : Returns executor settings text cancelled (.ok table)) :
    ∃ query, Query.parse text settings.defaultDatabase = .ok query := by
  obtain ⟨fuel, returned⟩ := h
  cases parsed : Query.parse text settings.defaultDatabase with
  | ok query => exact ⟨query, rfl⟩
  | error e =>
    rw [ofText, parsed] at returned
    cases returned

theorem returns_take (parsed : Query.parse text database = .ok query)
    (answer : executor query = .returns (.ok cursor) start)
    (reached : Reached 0 cursor start records) (passes : Open 0 cursor start records)
    (finish : ∃ c, cursor.pull records.length = .returns .finish c) (cap : 0 < maxRows) :
    Returns executor ⟨database, maxRows⟩ text false
      (.ok (Table.ofRecords (records.take maxRows))) := by
  have parsed' : Query.parse text (RunSettings.mk database maxRows).defaultDatabase = .ok query :=
    parsed
  refine (returns_ok_iff parsed').2 ⟨rfl, cursor, start, _, answer, reached.take, ?_, rfl⟩
  rcases passes.full_take_or cap with full | ⟨all, passes⟩
  · exact .inl full
  · rw [all]
    exact .inr ⟨passes, finish⟩

theorem exists_returns_take (h : Returns executor ⟨database, 0⟩ text cancelled (.ok table))
    (cap : 0 < maxRows) :
    ∃ records, table = Table.ofRecords records ∧
      Returns executor ⟨database, maxRows⟩ text cancelled
        (.ok (Table.ofRecords (records.take maxRows))) := by
  obtain ⟨query, parsed⟩ := parsed_of_returns_ok h
  obtain ⟨rfl, cursor, start, records, answer, reached, reason, rfl⟩ := (returns_ok_iff parsed).1 h
  obtain ⟨passes, finish⟩ := reason.resolve_left (not_full_zero _)
  exact ⟨records, rfl, returns_take parsed answer reached passes finish cap⟩

theorem Cursor.Gives.passes (gives : cursor.Gives records) : Open 0 cursor false records :=
  ⟨not_full_zero _, Cursor.Gives.live gives (Nat.le_refl _)⟩

theorem Cursor.Gives.returns (gives : cursor.Gives records)
    (parsed : Query.parse text database = .ok query)
    (answer : executor query = .returns (.ok cursor) false) :
    Returns executor ⟨database, 0⟩ text false (.ok (Table.ofRecords records)) := by
  have parsed' : Query.parse text (RunSettings.mk database 0).defaultDatabase = .ok query := parsed
  apply (returns_ok_iff parsed').2
  exact ⟨rfl, cursor, false, records, answer, Cursor.Gives.reached gives,
    .inr ⟨Cursor.Gives.passes gives, false, gives.finish⟩, rfl⟩

/-- The table of some records is the top of the table of these and any further ones. So a run with a
row cap shows the top of what it shows without a cap, whenever it shows anything. It does, both
ways, if the cursor ends with neither a failure nor a cancellation before. -/
theorem clipping_keeps_top :
    (∀ xs ys, (Table.ofRecords xs).Clips xs.length (Table.ofRecords (xs ++ ys))) ∧
    (∀ executor database text cancelled maxRows wide, 0 < maxRows →
      Returns executor ⟨database, 0⟩ text cancelled (.ok wide) →
      ∃ records, wide = Table.ofRecords records ∧
        Returns executor ⟨database, maxRows⟩ text cancelled
          (.ok (Table.ofRecords (records.take maxRows))) ∧
        (Table.ofRecords (records.take maxRows)).Clips (min maxRows records.length) wide) ∧
    (∀ (executor : Executor) database text query (cursor : Cursor) records,
      Query.parse text database = .ok query → executor query = .returns (.ok cursor) false →
      cursor.Gives records →
      Returns executor ⟨database, 0⟩ text false (.ok (Table.ofRecords records)) ∧
      ∀ maxRows, 0 < maxRows → Returns executor ⟨database, maxRows⟩ text false
        (.ok (Table.ofRecords (records.take maxRows)))) := by
  refine ⟨Table.clips_append, ?runs, ?given⟩
  case runs =>
    intro executor database text cancelled maxRows wide cap h
    obtain ⟨records, rfl, clipped⟩ := exists_returns_take h cap
    have clips := Table.clips_append (records.take maxRows) (records.drop maxRows)
    rw [List.take_append_drop, List.length_take] at clips
    exact ⟨records, rfl, clipped, clips⟩
  case given =>
    intro executor database text query cursor records parsed answer gives
    refine ⟨Cursor.Gives.returns gives parsed answer, ?_⟩
    intro maxRows cap
    exact returns_take parsed answer (Cursor.Gives.reached gives) (Cursor.Gives.passes gives)
      ⟨false, gives.finish⟩ cap

/-- The second record makes texts of the numbers that the first one has. -/
def clashing : List Document := [[("n", .int32 1)], [("n", .string "x"), ("m", .null)]]

def clashingCursor : Cursor := .ofList (clashing.map fun d => .returns (.record d) false)

theorem gives_clashing : clashingCursor.Gives clashing where
  record i d at_i := by
    simp [clashingCursor, Cursor.ofList, at_i]
  finish := rfl

theorem clipping_keeps_top_clashing :
    (∃ records, Table.ofRecords clashing = Table.ofRecords records ∧
      Returns (fun _ => .returns (.ok clashingCursor) false) ⟨"db1", 1⟩ "db.people.find()" false
        (.ok (Table.ofRecords (records.take 1))) ∧
      (Table.ofRecords (records.take 1)).Clips (min 1 records.length) (Table.ofRecords clashing)) ∧
    Returns (fun _ => .returns (.ok clashingCursor) false) ⟨"db1", 1⟩ "db.people.find()" false
      (.ok (Table.ofRecords (clashing.take 1))) ∧
    ∃ column ∈ (Table.ofRecords (clashing.take 1)).columns,
      ∃ wide ∈ (Table.ofRecords clashing).columns, wide.name = column.name ∧
        column.cell? 0 = some ⟨.int32, 1⟩ ∧ wide.cell? 0 = some (.string "1") := by
  obtain ⟨tables, runs, given⟩ := clipping_keeps_top
  obtain ⟨uncapped, capped⟩ := given (fun _ => .returns (.ok clashingCursor) false) "db1"
    "db.people.find()" everyone clashingCursor clashing parse_everyone rfl gives_clashing
  refine ⟨runs _ _ _ _ 1 _ Nat.one_pos uncapped, capped 1 Nat.one_pos, ?_⟩
  have clips := tables (clashing.take 1) (clashing.drop 1)
  rw [List.take_append_drop] at clips
  have mem : (Field.ofRecords (clashing.take 1) "n").build ∈
      (Table.ofRecords (clashing.take 1)).columns :=
    Table.mem_columns_ofRecords.2 ⟨"n", by decide, rfl⟩
  have mem' : (Field.ofRecords clashing "n").build ∈ (Table.ofRecords clashing).columns :=
    Table.mem_columns_ofRecords.2 ⟨"n", by decide, rfl⟩
  have kept := (clips.columns _ mem _ mem' rfl).2
  have native : (Field.ofRecords (clashing.take 1) "n").build.cell? 0 = some ⟨.int32, 1⟩ := rfl
  have differs : (Field.ofRecords clashing "n").build.type ≠
      (Field.ofRecords (clashing.take 1) "n").build.type := by decide
  exact ⟨_, mem, _, mem', rfl, native, (kept.text 0 _ native differs).2⟩

end Run

end DocTable
