import DocTable.Store.Session

/-!
# The command of a query

A query is sent as one command, or not at all. `Query.Carries` says which command has its
arguments, and `one_command_or_none` that any driver is asked for this one if all that must be
documents are, and that otherwise the first that is none is reported and nothing is sent. What the
store gets to see of the command depends on the login of its client.
-/

namespace DocTable

namespace Value

variable {v : Value} {clause : String} {entries : BsonDocument} {vs : List Value}
  {documents : List BsonDocument} {o : Option Value} {d : Option BsonDocument}

/-- The store takes the value for a document. -/
def IsDocument (v : Value) : Prop := ∃ entries, v.toBson = .document entries

theorem isDocument_iff :
    v.IsDocument ↔ (∃ entries, v = .document entries) ∨ (∃ entries, v = .map entries) ∨
      ∃ db target, v = .dbPointer db target := by
  cases v <;> simp [IsDocument, toBson]
  split <;> simp

theorem exists_images (h : ∀ v ∈ vs, v.IsDocument) :
    ∃ documents : List BsonDocument, vs.map toBson = documents.map .document := by
  induction vs with
  | nil => exact ⟨[], rfl⟩
  | cons v vs ih =>
    rw [List.forall_mem_cons] at h
    obtain ⟨⟨entries, image⟩, others⟩ := h
    obtain ⟨documents, images⟩ := ih others
    exact ⟨entries :: documents, by simp [image, images]⟩

theorem exists_image? (h : ∀ v ∈ o, v.IsDocument) :
    ∃ d : Option BsonDocument, o.map toBson = d.map .document := by
  cases o with
  | none => exact ⟨none, rfl⟩
  | some v =>
    obtain ⟨entries, image⟩ := h v rfl
    exact ⟨some entries, by simp [image]⟩

def notADocument (clause : String) (v : Value) : QueryError :=
  .execution s!"'{clause}' argument must be a document, got {v.kind}"

theorem asDocument_of_toBson (h : v.toBson = .document entries) :
    v.asDocument clause = .ok entries := by
  simp [asDocument, h]

theorem asDocument_of_not (h : ¬ v.IsDocument) :
    v.asDocument clause = .error (v.notADocument clause) := by
  rw [asDocument]
  split
  · next entries image => exact absurd ⟨entries, image⟩ h
  · rfl

theorem mapM_asDocument (h : vs.map toBson = documents.map .document) :
    vs.mapM (asDocument clause) = .ok documents := by
  induction vs generalizing documents with
  | nil =>
    obtain rfl : documents = [] := by simpa using h.symm
    rfl
  | cons v vs ih =>
    cases documents with
    | nil => simp at h
    | cons entries documents =>
      obtain ⟨image, images⟩ := List.cons.inj h
      rw [List.mapM_cons, asDocument_of_toBson image, ih images]
      rfl

theorem mapM_asDocument? (h : o.map toBson = d.map .document) :
    o.mapM (asDocument clause) = .ok d := by
  cases o with
  | none =>
    obtain rfl : d = none := by simpa using h.symm
    rfl
  | some v =>
    cases d with
    | none => simp at h
    | some entries =>
      rw [Option.mapM_some, asDocument_of_toBson (Option.some.inj h)]
      rfl

theorem mapM_toList (clause : String) (o : Option Value) :
    o.toList.mapM (asDocument clause) = (o.mapM (asDocument clause)).map Option.toList := by
  cases o with
  | none => rfl
  | some v =>
    rw [Option.toList_some, List.mapM_cons, List.mapM_nil, Option.mapM_some]
    cases v.asDocument clause <;> rfl

end Value

namespace Query

variable {q : Query} {command command' : Command} {e : QueryError} {clause : String} {v : Value}
  {before after : List (String × Value)}

/-! ## Checking -/

/-- The values that the store takes for documents, in the order in which they are looked at, each
under the clause that it is named by. -/
def arguments (q : Query) : List (String × Value) :=
  match q.method with
  | .find =>
    ("find", q.filter) ::
      (q.projection.toList.map (Prod.mk "projection") ++ q.sort.toList.map (Prod.mk "sort"))
  | .aggregate => (q.filter.array?.getD []).map (Prod.mk "aggregate")

def check (argument : String × Value) : Except QueryError BsonDocument :=
  argument.2.asDocument argument.1

theorem mapM_check (h : ∀ argument ∈ before, argument.2.IsDocument) :
    ∃ documents, before.mapM check = .ok documents := by
  induction before with
  | nil => exact ⟨[], rfl⟩
  | cons argument before ih =>
    rw [List.forall_mem_cons] at h
    obtain ⟨⟨entries, image⟩, others⟩ := h
    obtain ⟨documents, checked⟩ := ih others
    refine ⟨entries :: documents, ?_⟩
    rw [List.mapM_cons, check, Value.asDocument_of_toBson image, checked]
    rfl

theorem mapM_check_of_not (h : ∀ argument ∈ before, argument.2.IsDocument) (not : ¬ v.IsDocument) :
    (before ++ (clause, v) :: after).mapM check = .error (v.notADocument clause) := by
  obtain ⟨documents, checked⟩ := mapM_check h
  rw [List.mapM_append, checked, List.mapM_cons, check, Value.asDocument_of_not not]
  rfl

theorem mapM_check_map (clause : String) (vs : List Value) :
    (vs.map (Prod.mk clause)).mapM check = vs.mapM (Value.asDocument clause) :=
  List.mapM_map ..

def sortStages (q : Query) : List Value := q.sort.toList.map fun sort => .document [("$sort", sort)]

theorem pipeline_of_filter {stages : List Value} (filter : q.filter = .array stages) :
    q.pipeline = .ok (stages ++ q.sortStages) := by
  rw [pipeline, filter, sortStages]
  cases q.sort <;> simp

theorem command_of_stages {stages : List Value} (method : q.method = .aggregate)
    (filter : q.filter = .array stages) :
    q.command = ((stages ++ q.sortStages).mapM (Value.asDocument "aggregate")).map
      (.aggregate q.database q.collection) := by
  rw [Query.command, method, pipeline_of_filter filter]
  simp only [bind, Except.bind]
  cases (stages ++ q.sortStages).mapM (Value.asDocument "aggregate") <;> rfl

/-- The clauses are checked one after another, and the first failure is that of the query. -/
theorem command_of_mapM_check (h : q.arguments.mapM check = .error e) : q.command = .error e := by
  cases method : q.method with
  | find =>
    simp only [arguments, method, List.mapM_cons, List.mapM_append, mapM_check_map,
      Value.mapM_toList, check] at h
    rw [Query.command, method]
    cases first : q.filter.asDocument "find" with
    | error e' =>
      rw [first] at h
      obtain rfl := Except.error.inj h
      rfl
    | ok entries =>
      cases second : q.projection.mapM (Value.asDocument "projection") with
      | error e' =>
        rw [first, second] at h
        obtain rfl := Except.error.inj h
        rfl
      | ok projection =>
        cases third : q.sort.mapM (Value.asDocument "sort") with
        | error e' =>
          rw [first, second, third] at h
          obtain rfl := Except.error.inj h
          rfl
        | ok sort =>
          rw [first, second, third] at h
          cases h
  | aggregate =>
    cases filter : q.filter with
    | array stages =>
      have h : stages.mapM (Value.asDocument "aggregate") = .error e := by
        rw [← h, arguments, method, filter, ← mapM_check_map]
        rfl
      rw [command_of_stages method filter, List.mapM_append, h]
      rfl
    | _ =>
      rw [arguments, method, filter] at h
      cases h

/-! ## Sending -/

/-- The command asks for the query's records, with the arguments as the store takes them. -/
inductive Carries (q : Query) : Command → Prop where
  | find {filter : BsonDocument} {projection sort : Option BsonDocument} (method : q.method = .find)
      (filter_image : q.filter.toBson = .document filter)
      (projection_image : q.projection.map Value.toBson = projection.map .document)
      (sort_image : q.sort.map Value.toBson = sort.map .document) :
    Carries q (.find q.database q.collection filter projection sort)
  | aggregate {stages : List Value} {pipeline : List BsonDocument} (method : q.method = .aggregate)
      (filter : q.filter = .array stages)
      (images : stages.map Value.toBson = pipeline.map .document) :
    Carries q (.aggregate q.database q.collection
      (pipeline ++ q.sort.toList.map fun sort => [("$sort", sort.toBson)]))

theorem Carries.command_eq (h : q.Carries command) : q.command = .ok command := by
  cases h with
  | find method filter projection sort =>
    rw [Query.command, method, Value.asDocument_of_toBson filter, Value.mapM_asDocument? projection,
      Value.mapM_asDocument? sort]
    rfl
  | @aggregate stages pipeline method filter images =>
    have sort : q.sortStages.map Value.toBson =
        (q.sort.toList.map fun sort => [("$sort", sort.toBson)]).map .document := by
      rw [sortStages]
      cases q.sort <;> rfl
    have all : (stages ++ q.sortStages).map Value.toBson =
        (pipeline ++ q.sort.toList.map fun sort => [("$sort", sort.toBson)]).map .document := by
      rw [List.map_append, List.map_append, images, sort]
    rw [command_of_stages method filter, Value.mapM_asDocument all]
    rfl

theorem exists_carries (stages : q.method = .aggregate → ∃ stages, q.filter = .array stages)
    (h : ∀ argument ∈ q.arguments, argument.2.IsDocument) : ∃ command, q.Carries command := by
  cases method : q.method with
  | find =>
    simp only [arguments, method, List.forall_mem_cons, List.forall_mem_append, List.forall_mem_map]
      at h
    obtain ⟨⟨filter, filter_image⟩, projections, sorts⟩ := h
    obtain ⟨projection, projection_image⟩ :=
      Value.exists_image? fun v mem => projections v (Option.mem_toList.2 mem)
    obtain ⟨sort, sort_image⟩ := Value.exists_image? fun v mem => sorts v (Option.mem_toList.2 mem)
    exact ⟨_, .find method filter_image projection_image sort_image⟩
  | aggregate =>
    obtain ⟨stages, filter⟩ := stages method
    simp only [arguments, method, filter, Value.array?, Option.getD_some, List.forall_mem_map] at h
    obtain ⟨pipeline, images⟩ := Value.exists_images h
    exact ⟨_, .aggregate method filter images⟩

theorem Carries.unique (h : q.Carries command) (h' : q.Carries command') : command' = command :=
  Except.ok.inj (h'.command_eq.symm.trans h.command_eq)

theorem command_of_no_stages (method : q.method = .aggregate)
    (filter : ∀ stages, q.filter ≠ .array stages) : q.command = .error .pipelineNotArray := by
  rw [Query.command, method]
  cases q with
  | mk database collection method' filter' projection sort =>
    cases filter' with
    | array stages => exact absurd rfl (filter stages)
    | _ => rfl

theorem command_cases (h : q.command = .ok command) :
    (∃ filter projection sort,
        command = .find q.database q.collection filter projection sort) ∨
      ∃ pipeline, command = .aggregate q.database q.collection pipeline := by
  cases method : q.method with
  | find =>
    cases first : q.filter.asDocument "find" with
    | error e => simp [Query.command, method, first, bind, Except.bind] at h
    | ok filter =>
      cases second : q.projection.mapM (Value.asDocument "projection") with
      | error e => simp [Query.command, method, first, second, bind, Except.bind] at h
      | ok projection =>
        cases third : q.sort.mapM (Value.asDocument "sort") with
        | error e => simp [Query.command, method, first, second, third, bind, Except.bind] at h
        | ok sort =>
          refine .inl ⟨filter, projection, sort, ?_⟩
          simpa [Query.command, method, first, second, third, bind, Except.bind] using h.symm
  | aggregate =>
    cases stages : q.pipeline with
    | error e => simp [Query.command, method, stages, bind, Except.bind] at h
    | ok stages' =>
      cases documents : stages'.mapM (Value.asDocument "aggregate") with
      | error e => simp [Query.command, method, stages, documents, bind, Except.bind] at h
      | ok pipeline =>
        refine .inr ⟨pipeline, ?_⟩
        simpa [Query.command, method, stages, documents, bind, Except.bind] using h.symm

/-! ## The driver -/

theorem send_of_error (h : q.command = .error e) (driver : Driver) :
    q.send driver = ⟨.error e, []⟩ := by
  rw [send, h]

theorem send_of_ok (h : q.command = .ok command) (driver : Driver) :
    q.send driver = ⟨(driver command).value.mapError fun e => .execution s!"client: {e}",
      (driver command).commands⟩ := by
  rw [send, h]

end Query

/-! ## The store -/

namespace Server

variable {s : Server} {settings : StoreSettings} {command : Command} {e : ServerError}

theorem driver_of_loggedIn (h : settings.user = "" ∨ s.login settings = .before) :
    (s.driver settings command).commands = [command] := by
  rcases h with nobody | before
  · simp [driver, nobody]
  · rw [driver]
    split
    · rfl
    · rw [before]

theorem driver_of_accepted (user : settings.user ≠ "") (accepted : s.login settings = .accepted) :
    (s.driver settings command).commands = [.login, command] := by
  simp [driver, user, accepted]

theorem driver_of_refused (user : settings.user ≠ "") (refused : s.login settings = .refused e) :
    s.driver settings command = ⟨.error e.loginText, [.login]⟩ := by
  simp [driver, user, refused]

end Server

/-- What becomes of a query on its way to the store. An aggregation without a list of stages, and a
query with an argument that is no document to the store, is refused by the first such argument, and
no driver is asked for anything. For every other query the driver of any client is asked just once,
for the command that carries its arguments. The store gets to see this command from each client that
need not log in, and behind the login from each that may. -/
theorem one_command_or_none (q : Query) :
    (∀ v : Value, v.IsDocument ↔ (∃ entries, v = .document entries) ∨
      (∃ entries, v = .map entries) ∨ ∃ db target, v = .dbPointer db target) ∧
    (∀ (s : Server) settings, s.execute settings q = q.send (s.driver settings)) ∧
    (q.method = .aggregate → (∀ stages, q.filter ≠ .array stages) →
      ∀ driver, q.send driver = ⟨.error .pipelineNotArray, []⟩) ∧
    (∀ before clause v after, q.arguments = before ++ (clause, v) :: after →
      (∀ argument ∈ before, argument.2.IsDocument) → ¬ v.IsDocument →
      ∀ driver, q.send driver =
        ⟨.error (.execution s!"'{clause}' argument must be a document, got {v.kind}"), []⟩) ∧
    ((q.method = .aggregate → ∃ stages, q.filter = .array stages) →
      (∀ argument ∈ q.arguments, argument.2.IsDocument) →
      ∃ command, q.Carries command ∧ (∀ command', q.Carries command' → command' = command) ∧
        (∀ answer : Command → Except String (List Server.Fetch),
          (q.send fun asked => ⟨answer asked, [asked]⟩).commands = [command]) ∧
        (∀ driver, q.send driver =
          ⟨(driver command).value.mapError fun e => .execution s!"client: {e}",
            (driver command).commands⟩) ∧
        ∀ (s : Server) settings,
          (settings.user = "" ∨ s.login settings = .before →
            (s.execute settings q).commands = [command]) ∧
          (settings.user ≠ "" → s.login settings = .accepted →
            (s.execute settings q).commands = [.login, command]) ∧
          ∀ e, settings.user ≠ "" → s.login settings = .refused e →
            s.execute settings q =
              ⟨.error (.execution s!"client: Kind: SCRAM failure: {e.message}"), [.login]⟩) := by
  refine ⟨fun v => Value.isDocument_iff, fun s settings => rfl, ?stages, ?documents, ?sent⟩
  case stages =>
    intro method filter
    exact Query.send_of_error (Query.command_of_no_stages method filter)
  case documents =>
    intro before clause v after arguments front not
    apply Query.send_of_error
    apply Query.command_of_mapM_check
    rw [arguments]
    exact Query.mapM_check_of_not front not
  case sent =>
    intro stages documents
    obtain ⟨command, carries⟩ := Query.exists_carries stages documents
    have sent := Query.send_of_ok carries.command_eq
    refine ⟨command, carries, fun command' other => carries.unique other,
      fun answer => by rw [sent], sent, fun s settings => ?_⟩
    rw [Server.execute, sent]
    refine ⟨Server.driver_of_loggedIn, Server.driver_of_accepted, fun e user refused => ?_⟩
    rw [Server.driver_of_refused user refused]
    rfl

/-- A number in place of the projection, in front of a list in place of the sort. -/
def misprojected : Query :=
  ⟨"db1", "people", .find, .map [("n", .int8 1)], some (.int32 1), some (.array [])⟩

/-- A map and a pointer as stages, and a sort that only the stage around it makes a document. -/
def mixedStages : Query :=
  ⟨"db1", "people", .aggregate,
    .array [.map [("$match", .document [])], .dbPointer "people" (.int32 1)], none, some (.int64 1)⟩

/-- A store that lets one user in and nobody else. -/
def readersStore : Server where
  urlFault _ := none
  clientFault _ := none
  login settings :=
    if settings.user = "reader" then .accepted
    else .refused ⟨18, "AuthenticationFailed", "Authentication failed."⟩
  collections := []
  pingError := none

theorem one_command_or_none_mixed :
    (∀ driver, misprojected.send driver =
      ⟨.error (.execution "'projection' argument must be a document, got int32"), []⟩) ∧
    ∃ command, command = .aggregate "db1" "people" [[("$match", .document [])],
        [("$ref", .string "people"), ("$id", .int32 1)], [("$sort", .int64 1)]] ∧
      (∀ answer : Command → Except String (List Server.Fetch),
        (mixedStages.send fun asked => ⟨answer asked, [asked]⟩).commands = [command]) ∧
      (∀ s : Server,
        (s.execute ⟨"mongodb://h", "", "", "db1"⟩ mixedStages).commands = [command]) ∧
      (readersStore.execute ⟨"mongodb://h", "reader", "secret", "db1"⟩ mixedStages).commands =
        [.login, command] ∧
      readersStore.execute ⟨"mongodb://h", "writer", "secret", "db1"⟩ mixedStages =
        ⟨.error (.execution "client: Kind: SCRAM failure: Authentication failed."), [.login]⟩ := by
  constructor
  · obtain ⟨-, -, -, refused, -⟩ := one_command_or_none misprojected
    refine refused [("find", .map [("n", .int8 1)])] "projection" (.int32 1)
      [("sort", .array [])] rfl ?_ ?_
    · rintro argument mem
      obtain rfl := List.mem_singleton.1 mem
      exact ⟨_, rfl⟩
    · rintro ⟨entries, image⟩
      cases image
  · obtain ⟨-, -, -, -, sent⟩ := one_command_or_none mixedStages
    have carries : mixedStages.Carries (.aggregate "db1" "people" ([[("$match", .document [])],
        [("$ref", .string "people"), ("$id", .int32 1)]] ++ [[("$sort", .int64 1)]])) :=
      .aggregate rfl rfl rfl
    obtain ⟨command, -, only, asked, -, seen⟩ := sent (fun _ => ⟨_, rfl⟩) (by
      intro argument mem
      rcases List.mem_cons.1 mem with rfl | mem
      · exact ⟨_, rfl⟩
      · obtain rfl := List.mem_singleton.1 mem
        exact ⟨_, rfl⟩)
    obtain ⟨-, reader, -⟩ := seen readersStore ⟨"mongodb://h", "reader", "secret", "db1"⟩
    obtain ⟨-, -, writer⟩ := seen readersStore ⟨"mongodb://h", "writer", "secret", "db1"⟩
    exact ⟨command, (only _ carries).symm, asked, fun s => (seen s _).1 (.inl rfl),
      reader (by decide) rfl, writer _ (by decide) rfl⟩

end DocTable
