import DocTable.Proofs.Table.Growth
import DocTable.Run
import Mathlib.Data.List.Induction

/-!
# The pulling of records

`Run.Reached` says which records the pulling can have received when it comes to its checks, and
`Run.Stops` how it can stop there. Both are read off the cursor alone. `Run.drain_ends` shows that
every run of the loop gets to such a point, and `Run.result_of_settles` that the loop stops
wherever it can.
-/

namespace DocTable

def Call.cancels {α : Type} : Call α → Bool
  | .returns _ cancels => cancels
  | .hangs => true
  | .stalls => false

/-- The token in front of the pull with the given number, and `start` in front of the first. -/
def Cursor.tokenBefore (cursor : Cursor) (start : Bool) (n : Nat) : Bool :=
  start || (List.range n).any fun i => (cursor.pull i).cancels

theorem Cursor.tokenBefore_zero (cursor : Cursor) (start : Bool) :
    cursor.tokenBefore start 0 = start := by
  simp [tokenBefore]

theorem Cursor.tokenBefore_succ (cursor : Cursor) (start : Bool) (n : Nat) :
    cursor.tokenBefore start (n + 1) = (cursor.tokenBefore start n || (cursor.pull n).cancels) := by
  simp [tokenBefore, List.range_succ, Bool.or_assoc]

namespace Run

/-- As many records as are kept; zero keeps all. -/
def Full (maxRows count : Nat) : Prop := 0 < maxRows ∧ count = maxRows

/-- The pulling can come to its checks with just these records received. -/
structure Reached (maxRows : Nat) (cursor : Cursor) (start : Bool) (records : List Document) :
    Prop where
  given : ∀ i d, records[i]? = some d → ∃ cancels, cursor.pull i = .returns (.record d) cancels
  room : 0 < maxRows → records.length ≤ maxRows
  live : ∀ i < records.length, cursor.tokenBefore start i = false

structure Open (maxRows : Nat) (cursor : Cursor) (start : Bool) (records : List Document) :
    Prop where
  room : ¬ Full maxRows records.length
  live : cursor.tokenBefore start records.length = false

/-- How the pulling can stop with these records received: after how many pulls, and how. -/
inductive Stops (maxRows : Nat) (cursor : Cursor) (start : Bool) (records : List Document) :
    Nat → Except QueryError (List Document) → Prop where
  | full (full : Full maxRows records.length) :
    Stops maxRows cursor start records records.length (.ok records)
  | cancelled (room : ¬ Full maxRows records.length)
      (cut : cursor.tokenBefore start records.length = true) :
    Stops maxRows cursor start records records.length (.error .cancelled)
  | finish {cancels : Bool} (passes : Open maxRows cursor start records)
      (pull : cursor.pull records.length = .returns .finish cancels) :
    Stops maxRows cursor start records (records.length + 1) (.ok records)
  | failed {e : QueryError} {cancels : Bool} (passes : Open maxRows cursor start records)
      (pull : cursor.pull records.length = .returns (.failed e) cancels) :
    Stops maxRows cursor start records (records.length + 1) (.error e)
  | hung (passes : Open maxRows cursor start records) (pull : cursor.pull records.length = .hangs) :
    Stops maxRows cursor start records (records.length + 1) (.error .cancelled)

/-- How the pulling can go on for ever or run out of fuel. -/
inductive Waits (maxRows : Nat) (cursor : Cursor) (start : Bool) (records : List Document)
    (fuel : Nat) : Nat → Prop where
  | exhausted (used : records.length = fuel) :
    Waits maxRows cursor start records fuel records.length
  | stalled (passes : Open maxRows cursor start records)
      (pull : cursor.pull records.length = .stalls) :
    Waits maxRows cursor start records fuel (records.length + 1)

variable {maxRows : Nat} {cursor : Cursor} {start : Bool} {records : List Document} {d : Document}

theorem reached_nil : Reached maxRows cursor start [] where
  given := by simp
  room := by simp
  live := by simp

theorem reached_concat_iff :
    Reached maxRows cursor start (records ++ [d]) ↔
      Reached maxRows cursor start records ∧ Open maxRows cursor start records ∧
        ∃ cancels, cursor.pull records.length = .returns (.record d) cancels := by
  constructor
  · intro h
    have shorter : records.length < (records ++ [d]).length := by simp
    refine ⟨⟨fun i x at_i => ?_, fun cap => ?_, fun i lt => ?_⟩, ⟨?_, ?_⟩, ?_⟩
    · have inside := (List.getElem?_eq_some_iff.1 at_i).1
      exact h.given i x (by rw [List.getElem?_append_left inside, at_i])
    · have := h.room cap
      omega
    · exact h.live i (Nat.lt_trans lt shorter)
    · rintro ⟨cap, full⟩
      have := h.room cap
      omega
    · exact h.live _ shorter
    · exact h.given _ d (by simp)
  · rintro ⟨h, passes, pull⟩
    refine ⟨fun i x at_i => ?_, fun cap => ?_, fun i lt => ?_⟩
    · rcases Nat.lt_or_ge i records.length with lt | ge
      · rw [List.getElem?_append_left lt] at at_i
        exact h.given i x at_i
      · rw [List.getElem?_append_right ge, List.getElem?_singleton] at at_i
        split at at_i
        · next zero =>
          obtain rfl : d = x := Option.some.inj at_i
          obtain rfl : i = records.length := by omega
          exact pull
        · cases at_i
    · have := h.room cap
      have : records.length ≠ maxRows := fun e => passes.room ⟨cap, e⟩
      simp
      omega
    · rcases Nat.lt_or_eq_of_le (Nat.le_of_lt_succ (by simpa using lt)) with lt | rfl
      · exact h.live i lt
      · exact passes.live

/-! ## The builder of the received records -/

def received (records : List Document) : TableBuilder :=
  records.foldl TableBuilder.process .empty

theorem received_concat : received (records ++ [d]) = (received records).process d := by
  simp [received]

theorem recordCount_received : (received records).recordCount = records.length := by
  have follows := TableBuilder.empty_follows.foldl_process records
  exact follows.recordCount

/-! ## One round of the loop -/

def pulling (maxRows : Nat) (cursor : Cursor) (start : Bool) (fuel : Nat)
    (records : List Document) : Drain :=
  drain maxRows cursor fuel records.length (cursor.tokenBefore start records.length)
    (received records)

theorem pulling_full (full : Full maxRows records.length) (fuel : Nat) :
    pulling maxRows cursor start fuel records =
      ⟨some (.ok (received records)), [], cursor.tokenBefore start records.length⟩ := by
  have enough : (0 < maxRows && maxRows ≤ (received records).recordCount) = true := by
    simp [recordCount_received, full.1, full.2]
  unfold pulling drain
  rw [if_pos enough]

theorem not_enough (h : Reached maxRows cursor start records)
    (room : ¬ Full maxRows records.length) :
    ¬ (0 < maxRows && maxRows ≤ (received records).recordCount) = true := by
  rw [recordCount_received, Bool.and_eq_true, decide_eq_true_iff, decide_eq_true_iff]
  rintro ⟨cap, le⟩
  exact room ⟨cap, Nat.le_antisymm (h.room cap) le⟩

theorem pulling_cancelled (h : Reached maxRows cursor start records)
    (room : ¬ Full maxRows records.length) (cut : cursor.tokenBefore start records.length = true)
    (fuel : Nat) :
    pulling maxRows cursor start fuel records = ⟨some (.error .cancelled), [], true⟩ := by
  unfold pulling drain
  rw [if_neg (not_enough h room), if_pos cut]

theorem pulling_zero (h : Reached maxRows cursor start records)
    (passes : Open maxRows cursor start records) :
    pulling maxRows cursor start 0 records = ⟨none, [], false⟩ := by
  unfold pulling drain
  rw [if_neg (not_enough h passes.room), passes.live, if_neg Bool.false_ne_true]

theorem Open.tokenBefore_succ (passes : Open maxRows cursor start records) {pull : Call Pull}
    (h : cursor.pull records.length = pull) :
    cursor.tokenBefore start (records.length + 1) = pull.cancels := by
  rw [Cursor.tokenBefore_succ, passes.live, h, Bool.false_or]

theorem pulling_succ (h : Reached maxRows cursor start records)
    (passes : Open maxRows cursor start records) (fuel : Nat) :
    pulling maxRows cursor start (fuel + 1) records = .afterPull records.length
      (match cursor.pull records.length with
      | .hangs => ⟨some (.error .cancelled), [], true⟩
      | .stalls => ⟨none, [], false⟩
      | .returns (.record d) _ => pulling maxRows cursor start fuel (records ++ [d])
      | .returns .finish cancels => ⟨some (.ok (received records)), [], cancels⟩
      | .returns (.failed e) cancels => ⟨some (.error e), [], cancels⟩) := by
  rw [pulling, drain, if_neg (not_enough h passes.room), passes.live, if_neg Bool.false_ne_true]
  cases pull : cursor.pull records.length with
  | hangs => rfl
  | stalls => rfl
  | returns answer cancels =>
    cases answer with
    | finish => rfl
    | failed e => rfl
    | record d =>
      have token : cursor.tokenBefore start (records.length + 1) = cancels :=
        passes.tokenBefore_succ pull
      simp only [pulling, received_concat, List.length_append, List.length_singleton, token]

/-! ## Every run of the loop -/

def pullsUpTo (n : Nat) : List Event := (List.range n).map .pull

theorem pullsUpTo_succ (n : Nat) : pullsUpTo (n + 1) = pullsUpTo n ++ [.pull n] := by
  simp [pullsUpTo, List.range_succ]

theorem pulling_of_stops (h : Reached maxRows cursor start records) {n fuel : Nat}
    {outcome : Except QueryError (List Document)}
    (stops : Stops maxRows cursor start records n outcome) (enough : n ≤ records.length + fuel) :
    (pulling maxRows cursor start fuel records).result = some (outcome.map received) ∧
    pullsUpTo records.length ++ (pulling maxRows cursor start fuel records).events =
      pullsUpTo n := by
  have paid (more : records.length + 1 ≤ records.length + fuel) : ∃ k, fuel = k + 1 :=
    ⟨fuel - 1, by omega⟩
  cases stops with
  | full full => rw [pulling_full full]; exact ⟨rfl, List.append_nil _⟩
  | cancelled room cut => rw [pulling_cancelled h room cut]; exact ⟨rfl, List.append_nil _⟩
  | finish passes pull =>
    obtain ⟨k, rfl⟩ := paid enough
    rw [pulling_succ h passes, pull]
    exact ⟨rfl, (pullsUpTo_succ _).symm⟩
  | failed passes pull =>
    obtain ⟨k, rfl⟩ := paid enough
    rw [pulling_succ h passes, pull]
    exact ⟨rfl, (pullsUpTo_succ _).symm⟩
  | hung passes pull =>
    obtain ⟨k, rfl⟩ := paid enough
    rw [pulling_succ h passes, pull]
    exact ⟨rfl, (pullsUpTo_succ _).symm⟩

inductive Ends (maxRows : Nat) (cursor : Cursor) (start : Bool) (fuel : Nat) :
    List Event → Option (Except QueryError TableBuilder) → Prop where
  | stops {records : List Document} {n : Nat} {outcome : Except QueryError (List Document)}
      (reached : Reached maxRows cursor start records)
      (stops : Stops maxRows cursor start records n outcome) :
    Ends maxRows cursor start fuel (pullsUpTo n) (some (outcome.map received))
  | waits {records : List Document} {n : Nat} (reached : Reached maxRows cursor start records)
      (waits : Waits maxRows cursor start records fuel n) :
    Ends maxRows cursor start fuel (pullsUpTo n) none

theorem ends_of_stops (h : Reached maxRows cursor start records) {n fuel : Nat}
    {outcome : Except QueryError (List Document)}
    (stops : Stops maxRows cursor start records n outcome) (enough : n ≤ records.length + fuel) :
    Ends maxRows cursor start (records.length + fuel)
      (pullsUpTo records.length ++ (pulling maxRows cursor start fuel records).events)
      (pulling maxRows cursor start fuel records).result := by
  obtain ⟨result, events⟩ := pulling_of_stops h stops enough
  rw [result, events]
  exact .stops h stops

theorem stops_of_shut (shut : ¬ Open maxRows cursor start records) :
    ∃ outcome, Stops maxRows cursor start records records.length outcome := by
  by_cases full : Full maxRows records.length
  · exact ⟨_, .full full⟩
  · cases token : cursor.tokenBefore start records.length with
    | true => exact ⟨_, .cancelled full token⟩
    | false => exact absurd ⟨full, token⟩ shut

theorem pulling_ends (h : Reached maxRows cursor start records) (fuel : Nat) :
    Ends maxRows cursor start (records.length + fuel)
      (pullsUpTo records.length ++ (pulling maxRows cursor start fuel records).events)
      (pulling maxRows cursor start fuel records).result := by
  -- the records received so far grow with every pull that the fuel pays for
  induction fuel generalizing records with
  | zero =>
    by_cases passes : Open maxRows cursor start records
    · rw [pulling_zero h passes, List.append_nil]
      exact .waits h (.exhausted rfl)
    · obtain ⟨outcome, stops⟩ := stops_of_shut passes
      exact ends_of_stops h stops (Nat.le_refl _)
  | succ fuel ih =>
    by_cases passes : Open maxRows cursor start records
    · have within : records.length + 1 ≤ records.length + (fuel + 1) := by omega
      cases pull : cursor.pull records.length with
      | hangs => exact ends_of_stops h (.hung passes pull) within
      | stalls =>
        rw [pulling_succ h passes, pull]
        have waits : Waits maxRows cursor start records (records.length + (fuel + 1))
            (records.length + 1) := .stalled passes pull
        have ends := Ends.waits h waits
        rw [pullsUpTo_succ] at ends
        exact ends
      | returns answer cancels =>
        cases answer with
        | finish => exact ends_of_stops h (.finish passes pull) within
        | failed e => exact ends_of_stops h (.failed passes pull) within
        | record d =>
          have next := ih (reached_concat_iff.2 ⟨h, passes, cancels, pull⟩)
          rw [List.length_append, List.length_singleton, pullsUpTo_succ, List.append_assoc,
            Nat.add_assoc, Nat.add_comm 1 fuel] at next
          rw [pulling_succ h passes, pull]
          exact next
    · obtain ⟨outcome, stops⟩ := stops_of_shut passes
      exact ends_of_stops h stops (Nat.le_add_right ..)

/-! ## Runs from the start -/

theorem pulling_nil (fuel : Nat) :
    pulling maxRows cursor start fuel [] = drain maxRows cursor fuel 0 start .empty := by
  rw [pulling, List.length_nil, Cursor.tokenBefore_zero]
  rfl

theorem pulling_of_reached (h : Reached maxRows cursor start records) (fuel : Nat) :
    (pulling maxRows cursor start (records.length + fuel) []).result =
      (pulling maxRows cursor start fuel records).result := by
  induction records using List.reverseRecOn generalizing fuel with
  | nil => rw [List.length_nil, Nat.zero_add]
  | append_singleton records d ih =>
    obtain ⟨before, passes, cancels, pull⟩ := reached_concat_iff.1 h
    have earlier := ih before (fuel + 1)
    rw [pulling_succ before passes, pull] at earlier
    rw [List.length_append, List.length_singleton, Nat.add_assoc, Nat.add_comm 1 fuel]
    exact earlier

def Settles (maxRows : Nat) (cursor : Cursor) (start : Bool) (n : Nat)
    (outcome : Except QueryError (List Document)) : Prop :=
  ∃ records, Reached maxRows cursor start records ∧ Stops maxRows cursor start records n outcome

theorem Stops.length_le {n : Nat} {outcome : Except QueryError (List Document)}
    (stops : Stops maxRows cursor start records n outcome) : records.length ≤ n := by
  cases stops <;> simp

theorem result_of_settles {n fuel : Nat} {outcome : Except QueryError (List Document)}
    (h : Settles maxRows cursor start n outcome) (enough : n ≤ fuel) :
    (drain maxRows cursor fuel 0 start .empty).result = some (outcome.map received) := by
  obtain ⟨records, reached, stops⟩ := h
  obtain ⟨more, rfl⟩ : ∃ more, fuel = records.length + more :=
    ⟨fuel - records.length, by have := stops.length_le; omega⟩
  rw [← pulling_nil, pulling_of_reached reached]
  exact (pulling_of_stops reached stops enough).1

theorem drain_ends (maxRows : Nat) (cursor : Cursor) (start : Bool) (fuel : Nat) :
    Ends maxRows cursor start fuel (drain maxRows cursor fuel 0 start .empty).events
      (drain maxRows cursor fuel 0 start .empty).result := by
  have none : Reached maxRows cursor start [] := reached_nil
  have ends := pulling_ends none fuel
  rw [pulling_nil, List.length_nil, Nat.zero_add] at ends
  exact ends

theorem settles_of_result {fuel : Nat} {result : Except QueryError TableBuilder}
    (h : (drain maxRows cursor fuel 0 start .empty).result = some result) :
    ∃ n outcome, Settles maxRows cursor start n outcome ∧ result = outcome.map received := by
  have ends := drain_ends maxRows cursor start fuel
  rw [h] at ends
  generalize (drain maxRows cursor fuel 0 start .empty).events = events at ends
  cases ends with
  | stops reached stops => exact ⟨_, _, ⟨_, reached, stops⟩, rfl⟩

end Run

end DocTable
