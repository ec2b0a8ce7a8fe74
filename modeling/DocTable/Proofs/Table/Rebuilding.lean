import DocTable.Proofs.Table.Growth

/-!
# Tables in between

A build pads the builder that goes on to take in more records, and padded fields are not those that
a builder without the build would hold. To whoever uses the builder this makes no difference: its
replies are those of a keeper of records that builds each table afresh.
-/

namespace DocTable.TableBuilder

inductive Step where
  | process (record : Document)
  | build

/-- What a step shows: the number of records after it, and the table that it built. -/
structure Reply where
  recordCount : Nat
  table? : Option Table

namespace Step

def records : List Step → List Document
  | [] => []
  | process record :: steps => record :: records steps
  | build :: steps => records steps

/-- The replies of one who keeps the records and has each table built by a fresh builder. -/
def replies (seen : List Document) : List Step → List Reply
  | [] => []
  | process record :: steps => ⟨seen.length + 1, none⟩ :: replies (seen ++ [record]) steps
  | build :: steps => ⟨seen.length, some (Table.ofRecords seen)⟩ :: replies seen steps

end Step

def step (b : TableBuilder) : Step → Reply × TableBuilder
  | .process record => (⟨(b.process record).recordCount, none⟩, b.process record)
  | .build => (⟨b.build.2.recordCount, some b.build.1⟩, b.build.2)

def run (b : TableBuilder) : List Step → List Reply × TableBuilder
  | [] => ([], b)
  | s :: steps => ((b.step s).1 :: (run (b.step s).2 steps).1, (run (b.step s).2 steps).2)

variable {b : TableBuilder} {records : List Document}

theorem Follows.build_eq_ofRecords (h : b.Follows records []) :
    b.build.1 = Table.ofRecords records := by
  rw [h.build, ← Table.columns_ofRecords]

theorem Follows.run (h : b.Follows records []) (steps : List Step) :
    (b.run steps).1 = Step.replies records steps ∧
      (b.run steps).2.Follows (records ++ Step.records steps) [] := by
  induction steps generalizing b records with
  | nil => simpa [TableBuilder.run, Step.replies, Step.records] using h
  | cons s steps ih =>
    cases s with
    | process record =>
      have next := h.process record
      obtain ⟨replies, follows⟩ := ih next
      constructor
      · simp [TableBuilder.run, TableBuilder.step, Step.replies, replies, next.recordCount]
      · simpa [TableBuilder.run, TableBuilder.step, Step.records] using follows
    | build =>
      -- the padded builder follows the same records as the one before
      have next : b.build.2.Follows records [] := h.pad
      obtain ⟨replies, follows⟩ := ih next
      constructor
      · simp [TableBuilder.run, TableBuilder.step, Step.replies, replies, next.recordCount,
          h.build_eq_ofRecords]
      · simpa [TableBuilder.run, TableBuilder.step, Step.records] using follows

/-- A builder replies to records and builds in any order as if each table were built once, by a
fresh builder, from the records so far. Two histories with the same records, however many builds
they have and wherever these stand, are answered alike ever after. -/
theorem building_transparent (steps : List Step) :
    (empty.run steps).1 = Step.replies [] steps ∧
    (empty.run steps).2.recordCount = (Step.records steps).length ∧
    (empty.run steps).2.build.1 = Table.ofRecords (Step.records steps) ∧
    ∀ steps', Step.records steps' = Step.records steps → ∀ later,
      ((empty.run steps').2.run later).1 = ((empty.run steps).2.run later).1 := by
  obtain ⟨replies, follows⟩ := empty_follows.run steps
  rw [List.nil_append] at follows
  refine ⟨replies, follows.recordCount, follows.build_eq_ofRecords, ?_⟩
  intro steps' same later
  obtain ⟨-, follows'⟩ := empty_follows.run steps'
  rw [List.nil_append, same] at follows'
  rw [(follows'.run later).1, (follows.run later).1]

/-- Two builds before a record that has one of the keys twice and lacks the other. -/
def interrupted : List Step :=
  [.process [("a", .int32 1), ("b", .bool true)], .build, .build,
    .process [("a", .null), ("a", .int32 2)]]

def uninterrupted : List Step :=
  [.process [("a", .int32 1), ("b", .bool true)], .process [("a", .null), ("a", .int32 2)]]

theorem building_transparent_interrupted :
    Step.records interrupted = Step.records uninterrupted ∧
    ((empty.run interrupted).2.run [.build]).1 = ((empty.run uninterrupted).2.run [.build]).1 ∧
    ((empty.run interrupted).2.run [.build]).1 =
      [⟨2, some (Table.ofRecords (Step.records interrupted))⟩] := by
  obtain ⟨-, -, -, alike⟩ := building_transparent uninterrupted
  have same : Step.records interrupted = Step.records uninterrupted := rfl
  refine ⟨same, alike interrupted same [.build], ?_⟩
  obtain ⟨-, count, table, -⟩ := building_transparent interrupted
  simp only [run, step, table]
  exact congrArg (fun n => [Reply.mk n _]) count

end DocTable.TableBuilder
