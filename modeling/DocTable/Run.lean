import DocTable.Query.Parser
import DocTable.Table.Builder

/-!
Running a query: read its text, have it executed, pull the records one at a time into a table, and
close the cursor. A token can be cancelled at any moment. It is looked at before each call, so a
call that was started and returns is not undone by a cancellation inside it, and a call that hangs
is left only by cancellation.

A run is a function of what the calls do. It returns its result together with the calls that it
made, in order.
-/

namespace DocTable

inductive Call (α : Type) where
  /-- It returns; the token may have been cancelled before it did. -/
  | returns (result : α) (cancels : Bool)
  /-- It does not return before the token is cancelled. -/
  | hangs
  /-- It never returns, and the token is not cancelled while it lasts. -/
  | stalls

inductive Pull where
  | record (d : Document)
  | finish
  | failed (e : QueryError)

/-- The pulls of a cursor, by their number, and what closing it gives. -/
structure Cursor where
  pull : Nat → Call Pull
  close : Except QueryError Unit

/-- The cursor of a list of pulls, after which there is nothing more. -/
def Cursor.ofList (pulls : List (Call Pull)) : Cursor :=
  ⟨fun n => pulls.getD n (.returns .finish false), .ok ()⟩

abbrev Executor := Query → Call (Except QueryError Cursor)

structure RunSettings where
  /-- The database that the segment `db` of a query stands for. -/
  defaultDatabase : String
  /-- Rows that are kept of a query; zero keeps all. -/
  maxRows : Nat
  deriving DecidableEq, Repr

def RunSettings.defaultMaxRows : Nat := 1000

inductive Event where
  | execute (q : Query)
  | pull (n : Nat)
  | close

namespace Event

def isExecute : Event → Bool
  | execute _ => true
  | _ => false

def isPull : Event → Bool
  | pull _ => true
  | _ => false

def isClose : Event → Bool
  | close => true
  | _ => false

end Event

/-- A run. It has no result while it goes on. -/
structure Run where
  result : Option (Except QueryError Table)
  events : List Event
  cancelled : Bool
  /-- What closing the cursor failed with; it is noted and no more. -/
  closeFailure : Option QueryError

namespace Run

/-- How the pulling of records ended, and the pulls that were made. -/
structure Drain where
  result : Option (Except QueryError TableBuilder)
  events : List Event
  cancelled : Bool

def Drain.afterPull (n : Nat) (d : Drain) : Drain := { d with events := .pull n :: d.events }

/-- Pulls records into a builder until there are enough of them, the token is cancelled, or the
cursor ends or fails. `pulled` is the number of pulls made before, and at most `fuel` more are. -/
def drain (maxRows : Nat) (cursor : Cursor) :
    (fuel pulled : Nat) → (cancelled : Bool) → TableBuilder → Drain
  | fuel, pulled, cancelled, builder =>
    if 0 < maxRows && maxRows ≤ builder.recordCount then ⟨some (.ok builder), [], cancelled⟩
    else if cancelled then ⟨some (.error .cancelled), [], true⟩
    else match fuel with
      | 0 => ⟨none, [], false⟩
      | fuel + 1 => .afterPull pulled <|
        match cursor.pull pulled with
        | .hangs => ⟨some (.error .cancelled), [], true⟩
        | .stalls => ⟨none, [], false⟩
        | .returns (.record d) cancels =>
          drain maxRows cursor fuel (pulled + 1) cancels (builder.process d)
        | .returns .finish cancels => ⟨some (.ok builder), [], cancels⟩
        | .returns (.failed e) cancels => ⟨some (.error e), [], cancels⟩

def Drain.closeEvents (d : Drain) : List Event := if d.result.isSome then [.close] else []

def Drain.closeFailure (d : Drain) (cursor : Cursor) : Option QueryError :=
  match d.result, cursor.close with
  | some _, .error e => some e
  | _, _ => none

def ofText (executor : Executor) (settings : RunSettings) (text : String) (cancelled : Bool)
    (fuel : Nat) : Run :=
  match Query.parse text settings.defaultDatabase with
  | .error e => ⟨some (.error e), [], cancelled, none⟩
  | .ok query =>
    if cancelled then ⟨some (.error .cancelled), [], true, none⟩
    else match executor query with
      | .hangs => ⟨some (.error .cancelled), [.execute query], true, none⟩
      | .stalls => ⟨none, [.execute query], false, none⟩
      | .returns (.error e) cancels => ⟨some (.error e), [.execute query], cancels, none⟩
      | .returns (.ok cursor) cancels =>
        let d := drain settings.maxRows cursor fuel 0 cancels .empty
        ⟨d.result.map fun r => r.map fun builder => builder.build.1,
          .execute query :: d.events ++ d.closeEvents, d.cancelled, d.closeFailure cursor⟩

def executions (r : Run) : Nat := r.events.countP Event.isExecute

def pulls (r : Run) : Nat := r.events.countP Event.isPull

def closes (r : Run) : Nat := r.events.countP Event.isClose

end Run

end DocTable
