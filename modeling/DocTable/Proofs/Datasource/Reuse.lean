import DocTable.Datasource.Requesting
import DocTable.Proofs.Datasource.Sharing

/-!
# Clients used again

Requests one after another. A request opens a client just if the last one for its data source that
obtained a client had other settings, or if there was none, and otherwise it gets that client,
`clients_reused`. What carries this is that the kept clients are those of the last requests,
`get?_after`, whatever was refused since.
-/

namespace DocTable

theorem Entries.get?_put {α : Type} (entries : List (String × α)) (name other : String)
    (value : α) :
    get? (put entries name value) other =
      if name = other then some value else get? entries other := by
  induction entries with
  | nil => by_cases same : name = other <;> simp [put, get?, same]
  | cons entry entries ih =>
    obtain ⟨n, v⟩ := entry
    by_cases known : n = name
    · by_cases same : name = other <;> simp [put, get?, known, same]
    · by_cases first : n = other
      · subst first
        simp [put, get?, known, Ne.symm known]
      · simpa [put, get?, known, first] using ih

/-! ## One request -/

namespace Clients

variable {c : Clients} {server : Server} {settings : Option InstanceSettings}

theorem lookup?_eq_some_iff {uid : String} {store : StoreSettings} {client : Client} :
    c.lookup? uid store = some client ↔ Entries.get? c.entries uid = some ⟨store, client⟩ := by
  simp only [lookup?, Option.map_eq_some_iff, Option.filter_eq_some_iff, beq_iff_eq]
  constructor
  · rintro ⟨kept, ⟨held, rfl⟩, rfl⟩
    exact held
  · exact fun held => ⟨_, ⟨held, rfl⟩, rfl⟩

inductive Obtains (c : Clients) (server : Server) (settings : Option InstanceSettings) :
    Except ClientError (DatasourceConfig × Client) → Clients → Prop where
  | misread {e : ConfigError} (read : DatasourceConfig.ofSettings settings = .error e) :
    Obtains c server settings (.error (.config e)) c
  | found {config : DatasourceConfig} {client : Client}
      (read : DatasourceConfig.ofSettings settings = .ok config)
      (found : c.lookup? config.uid config.store = some client) :
    Obtains c server settings (.ok (config, client)) c
  | failed {config : DatasourceConfig} {e : ConnectError}
      (read : DatasourceConfig.ofSettings settings = .ok config)
      (missed : c.lookup? config.uid config.store = none)
      (failed : server.connect config.store = .error e) :
    Obtains c server settings (.error (.connect e)) c
  | opened {config : DatasourceConfig}
      (read : DatasourceConfig.ofSettings settings = .ok config)
      (missed : c.lookup? config.uid config.store = none)
      (connected : server.connect config.store = .ok ()) :
    Obtains c server settings (.ok (config, ⟨config.store, c.opened⟩))
      (insert { c with opened := c.opened + 1 } config.uid config.store ⟨config.store, c.opened⟩)

theorem obtain?_obtains (c : Clients) (server : Server) (settings : Option InstanceSettings) :
    Obtains c server settings (c.obtain? server settings).1 (c.obtain? server settings).2 := by
  cases read : DatasourceConfig.ofSettings settings with
  | error e => simpa [obtain?, read] using Obtains.misread read
  | ok config =>
    cases found : c.lookup? config.uid config.store with
    | some client => simpa [obtain?, read, found] using Obtains.found read found
    | none =>
      cases connected : server.connect config.store with
      | error e =>
        simpa [obtain?, read, found, connect, connected, bind, Except.bind]
          using Obtains.failed read found connected
      | ok u =>
        simpa [obtain?, read, found, connect, connected, bind, Except.bind]
          using Obtains.opened read found connected

theorem reply_clients (c : Clients) (r : PluginRequest) :
    (c.reply r).2 = (c.obtain? r.server r.settings).2 := by
  rw [reply]
  cases obtained : c.obtain? r.server r.settings with
  | mk resolved kept =>
    cases resolved with
    | error e => cases demand : r.demand <;> simp [checkHealth, answerQueries, obtained]
    | ok found =>
      cases demand : r.demand with
      | data queries => simp [answerQueries, obtained]
      | health =>
        simp only [checkHealth, obtained]
        split <;> rfl

theorem reply_data {r : PluginRequest} {queries : List DataQuery} {config : DatasourceConfig}
    {client : Client} {limits : RunSettings} (demand : r.demand = .data queries)
    (obtained : (c.obtain? r.server r.settings).1 = .ok (config, client))
    (limited : config.runSettings = limits) :
    (c.reply r).1 = .data (queries.map fun q =>
      let sent := r.server.run client.settings limits q.model.queryText
      ⟨q.respond sent.value, sent.commands⟩) := by
  subst limited
  cases whole : c.obtain? r.server r.settings with
  | mk resolved kept =>
    rw [whole] at obtained
    obtain rfl : resolved = .ok (config, client) := obtained
    simp [reply, demand, answerQueries, answerQuery, whole]

end Clients

/-! ## Requests in a row -/

namespace PluginRequest

variable {before : List PluginRequest} {r : PluginRequest} {uid : String}
  {config : DatasourceConfig} {client : Client}

/-- The request tries to open a client: that fails, or there is one client more. -/
def Opens (before : List PluginRequest) (r : PluginRequest) : Prop :=
  (∃ e, outcome before r = .error (.connect e)) ∨
    (Clients.after (before ++ [r])).opened = (Clients.after before).opened + 1

def servedFrom (c : Clients) : List PluginRequest → List (DatasourceConfig × Client)
  | [] => []
  | r :: rest =>
    (c.obtain? r.server r.settings).1.toOption.toList ++ servedFrom (c.reply r).2 rest

def served (requests : List PluginRequest) : List (DatasourceConfig × Client) :=
  servedFrom .empty requests

/-- What the last request for a data source obtained, of those that obtained a client. -/
def last? (uid : String) (requests : List PluginRequest) : Option (DatasourceConfig × Client) :=
  (served requests).reverse.find? (·.1.uid == uid)

theorem obtains_after (before : List PluginRequest) (r : PluginRequest) :
    Clients.Obtains (Clients.after before) r.server r.settings (outcome before r)
      (Clients.after (before ++ [r])) := by
  have last : Clients.after (before ++ [r]) = ((Clients.after before).reply r).2 := by
    rw [Clients.after, List.foldl_append]
    rfl
  rw [last, Clients.reply_clients]
  exact Clients.obtain?_obtains _ _ _

theorem served_concat (before : List PluginRequest) (r : PluginRequest) :
    served (before ++ [r]) = served before ++ (outcome before r).toOption.toList := by
  have from_ (c : Clients) : servedFrom c (before ++ [r]) = servedFrom c before ++
      ((before.foldl (fun c r => (c.reply r).2) c).obtain?
        r.server r.settings).1.toOption.toList := by
    induction before generalizing c with
    | nil => simp [servedFrom]
    | cons first before ih => simp [servedFrom, ih]
  exact from_ .empty

theorem last?_of_error {e : ClientError} (refused : outcome before r = .error e) (uid : String) :
    last? uid (before ++ [r]) = last? uid before := by
  rw [last?, served_concat, refused]
  simp [last?, Except.toOption]

theorem last?_of_ok (obtained : outcome before r = .ok (config, client)) (uid : String) :
    last? uid (before ++ [r]) =
      if config.uid = uid then some (config, client) else last? uid before := by
  rw [last?, served_concat, obtained]
  by_cases same : config.uid = uid <;> simp [last?, Except.toOption, same]

theorem mem_served_of_last? {last : DatasourceConfig × Client} (h : last? uid before = some last) :
    last ∈ served before :=
  List.mem_reverse.1 (List.mem_of_find?_eq_some h)

/-- The clients that are kept are those of the last requests, beside their settings. -/
theorem get?_after (before : List PluginRequest) (uid : String) :
    Entries.get? (Clients.after before).entries uid =
      (last? uid before).map fun last => ⟨last.1.store, last.2⟩ := by
  induction before using List.reverseRecOn generalizing uid with
  | nil => rfl
  | append_singleton before r ih =>
    have obtains := obtains_after before r
    generalize resolved : outcome before r = out at obtains
    generalize Clients.after (before ++ [r]) = c at obtains
    cases obtains with
    | misread => rw [last?_of_error resolved, ih]
    | failed => rw [last?_of_error resolved, ih]
    | @found config client _ found =>
      rw [last?_of_ok resolved]
      split
      · next same => exact same ▸ Clients.lookup?_eq_some_iff.1 found
      · exact ih uid
    | @opened config =>
      rw [last?_of_ok resolved, Clients.insert, Entries.get?_put]
      split
      · rfl
      · exact ih uid

theorem lookup?_after {store : StoreSettings} :
    (Clients.after before).lookup? uid store = some client ↔
      ∃ last, last? uid before = some last ∧ last.1.store = store ∧ last.2 = client := by
  simp [Clients.lookup?_eq_some_iff, get?_after]

/-- Whatever a request obtained is older than the next client to be opened. -/
theorem serial_lt (before : List PluginRequest) :
    ∀ p ∈ served before, p.2.serial < (Clients.after before).opened := by
  induction before using List.reverseRecOn with
  | nil => nofun
  | append_singleton before r ih =>
    have obtains := obtains_after before r
    rw [served_concat]
    generalize outcome before r = out at obtains
    generalize Clients.after (before ++ [r]) = c at obtains
    cases obtains with
    | misread => simpa [Except.toOption] using ih
    | failed => simpa [Except.toOption] using ih
    | found _ found =>
      obtain ⟨last, of_last, -, rfl⟩ := lookup?_after.1 found
      have older := ih last (mem_served_of_last? of_last)
      simpa [Except.toOption, or_imp, forall_and, older] using ih
    | opened =>
      intro p mem
      rcases List.mem_append.1 mem with earlier | fresh
      · exact Nat.lt_succ_of_lt (ih p earlier)
      · obtain rfl : p = _ := by simpa [Except.toOption] using fresh
        exact Nat.lt_succ_self _

theorem opens_iff (read : DatasourceConfig.ofSettings r.settings = .ok config) :
    Opens before r ↔ (Clients.after before).lookup? config.uid config.store = none := by
  have obtains := obtains_after before r
  unfold Opens
  generalize outcome before r = out at obtains
  generalize Clients.after (before ++ [r]) = c at obtains
  cases obtains with
  | misread misread => cases read.symm.trans misread
  | found read' found =>
    obtain rfl := Except.ok.inj (read.symm.trans read')
    simp [found]
  | failed read' missed =>
    obtain rfl := Except.ok.inj (read.symm.trans read')
    simp [missed]
  | opened read' missed =>
    obtain rfl := Except.ok.inj (read.symm.trans read')
    simp [missed, Clients.insert]

theorem lookup?_after_eq_none_iff {store : StoreSettings} :
    (Clients.after before).lookup? uid store = none ↔
      ∀ last ∈ last? uid before, last.1.store ≠ store := by
  rw [Option.eq_none_iff_forall_ne_some]
  simp only [ne_eq, lookup?_after, not_exists, Option.mem_def]
  exact ⟨fun none last of_last same => none last.2 last ⟨of_last, same, rfl⟩,
    fun other client last ⟨of_last, same, _⟩ => other last of_last same⟩

theorem outcome_of_lookup? (read : DatasourceConfig.ofSettings r.settings = .ok config)
    (found : (Clients.after before).lookup? config.uid config.store = some client) :
    outcome before r = .ok (config, client) := by
  simp [outcome, Clients.obtain?, read, found]

theorem outcome_of_opens (read : DatasourceConfig.ofSettings r.settings = .ok config)
    (opens : Opens before r) :
    (∃ e, outcome before r = .error (.connect e)) ∨
      ∃ client, outcome before r = .ok (config, client) ∧ client.settings = config.store ∧
        ∀ p ∈ served before, p.2 ≠ client := by
  rw [opens_iff read] at opens
  cases connected : r.server.connect config.store with
  | error e =>
    refine .inl ⟨e, ?_⟩
    simp [outcome, Clients.obtain?, read, opens, Clients.connect, connected, bind, Except.bind]
  | ok u =>
    refine .inr ⟨⟨config.store, (Clients.after before).opened⟩, ?_, rfl, ?_⟩
    · simp [outcome, Clients.obtain?, read, opens, Clients.connect, connected, bind, Except.bind]
    · intro p mem same
      have older := serial_lt before p mem
      rw [same] at older
      exact Nat.lt_irrefl _ older

theorem after_of_error {e : ClientError} (refused : outcome before r = .error e) :
    Clients.after (before ++ [r]) = Clients.after before := by
  have obtains := obtains_after before r
  rw [refused] at obtains
  generalize Clients.after (before ++ [r]) = c at obtains
  cases obtains <;> rfl

theorem read_of_ok (obtained : outcome before r = .ok (config, client)) :
    DatasourceConfig.ofSettings r.settings = .ok config := by
  have obtains := obtains_after before r
  rw [obtained] at obtains
  generalize Clients.after (before ++ [r]) = c at obtains
  cases obtains with
  | found read => exact read
  | opened read => exact read

/-- However requests for data and for health follow each other, and whatever fails: one with valid
settings tries to open a client just if none of those before for its data source obtained one, or
the last one that did had another url, user, password or database; otherwise it gets the client of
that request. With a client, its queries are run under the row cap of its own settings. One that is
refused leaves the clients as they were, and another cap alone opens no client, while the queries of
the request that brings it are run under it. -/
theorem clients_reused (before : List PluginRequest) (r : PluginRequest) :
    (∀ own config, r.settings = some own → DatasourceConfig.ofSettings r.settings = .ok config →
      (Opens before r ↔ ∀ last ∈ last? own.uid before, last.1.store ≠
        ⟨own.url, own.user, (Entries.get? own.secure "password").getD "", own.database⟩) ∧
      (¬ Opens before r →
        ∃ last ∈ last? own.uid before, outcome before r = .ok (config, last.2)) ∧
      (Opens before r → (∃ e, outcome before r = .error (.connect e)) ∨
        ∃ client, outcome before r = .ok (config, client) ∧ client.settings = config.store ∧
          ∀ p ∈ served before, p.2 ≠ client) ∧
      ∀ client, outcome before r = .ok (config, client) →
        ∃ cap, DatasourceConfig.maxResults? own.jsonData = .ok cap ∧
          ∀ queries, r.demand = .data queries → ((Clients.after before).reply r).1 =
            .data (queries.map fun q =>
              let sent := r.server.run client.settings
                ⟨own.database, cap.getD RunSettings.defaultMaxRows⟩ q.model.queryText
              ⟨q.respond sent.value, sent.commands⟩)) ∧
    (∀ e, outcome before r = .error e →
      Clients.after (before ++ [r]) = Clients.after before ∧
      ∀ uid, last? uid (before ++ [r]) = last? uid before) ∧
    ∀ own config client, r.settings = some own → outcome before r = .ok (config, client) →
      ∀ data cap, DatasourceConfig.maxResults? data = .ok cap → ∀ demand server,
        let next : PluginRequest := ⟨demand, some { own with jsonData := data }, server⟩
        let config' := { config with maxResults := cap.getD RunSettings.defaultMaxRows }
        ¬ Opens (before ++ [r]) next ∧ outcome (before ++ [r]) next = .ok (config', client) ∧
        ∀ queries, demand = .data queries → ((Clients.after (before ++ [r])).reply next).1 =
          .data (queries.map fun q =>
            let sent := server.run client.settings
              ⟨own.database, cap.getD RunSettings.defaultMaxRows⟩ q.model.queryText
            ⟨q.respond sent.value, sent.commands⟩) := by
  refine ⟨?opened, fun e refused => ⟨after_of_error refused, last?_of_error refused⟩, ?capped⟩
  case opened =>
    intro own config given read
    have own_read := given ▸ read
    obtain ⟨-, cap, limit, rfl⟩ := DatasourceConfig.ofSettings_some_iff.1 own_read
    refine ⟨(opens_iff read).trans lookup?_after_eq_none_iff, fun closed => ?_,
      outcome_of_opens read, fun client obtained => ⟨cap, limit, fun queries asked => ?_⟩⟩
    · rw [opens_iff read, ← ne_eq, Option.ne_none_iff_exists'] at closed
      obtain ⟨client, found⟩ := closed
      obtain ⟨last, of_last, -, rfl⟩ := lookup?_after.1 found
      exact ⟨last, of_last, outcome_of_lookup? read found⟩
    · exact Clients.reply_data asked obtained rfl
  case capped =>
    intro own config client given obtained data cap read demand server next config'
    have last : last? config.uid (before ++ [r]) = some (config, client) := by
      rw [last?_of_ok obtained, if_pos rfl]
    have found : (Clients.after (before ++ [r])).lookup? config'.uid config'.store = some client :=
      lookup?_after.2 ⟨_, last, rfl, rfl⟩
    have own_read := given ▸ read_of_ok obtained
    obtain ⟨url, _, -, same⟩ := DatasourceConfig.ofSettings_some_iff.1 own_read
    have next_read : DatasourceConfig.ofSettings next.settings = .ok config' :=
      DatasourceConfig.ofSettings_some_iff.2 ⟨url, cap, read, by simp [config', same]⟩
    have kept := outcome_of_lookup? next_read found
    have limited : config'.runSettings =
        ⟨own.database, cap.getD RunSettings.defaultMaxRows⟩ := by
      simp [config', same, DatasourceConfig.runSettings]
    refine ⟨?_, kept, fun queries asked => Clients.reply_data asked kept limited⟩
    rw [opens_iff next_read, found]
    exact Option.some_ne_none _

def passwordSettings (password : String) : InstanceSettings :=
  ⟨"ds", "mongodb://h", "reader", "db1", .null, [("password", password)]⟩

def passwordConfig (password : String) : DatasourceConfig :=
  ⟨"ds", ⟨"mongodb://h", "reader", password, "db1"⟩, 1000⟩

def healthRequest (settings : InstanceSettings) (address : String) : PluginRequest :=
  ⟨.health, some settings, (Recording.empty address).server⟩

/-- A client, then a new password that finds no store, and settings without a url. -/
def interrupted : List PluginRequest :=
  [healthRequest (passwordSettings "old") "mongodb://h",
    healthRequest (passwordSettings "new") "mongodb://elsewhere",
    healthRequest { passwordSettings "old" with url := "" } "mongodb://h"]

def peopleQuery : DataQuery := ⟨"A", ⟨"db.people.find()", ""⟩⟩

theorem clients_reused_interrupted :
    ¬ Opens interrupted (healthRequest (passwordSettings "old") "mongodb://elsewhere") ∧
    outcome interrupted (healthRequest (passwordSettings "old") "mongodb://elsewhere") =
      .ok (passwordConfig "old", ⟨(passwordConfig "old").store, 0⟩) ∧
    Opens interrupted (healthRequest (passwordSettings "new") "mongodb://h") ∧
    outcome interrupted (healthRequest (passwordSettings "new") "mongodb://h") =
      .ok (passwordConfig "new", ⟨(passwordConfig "new").store, 1⟩) ∧
    (∃ e, outcome (interrupted.take 1)
        (healthRequest (passwordSettings "new") "mongodb://elsewhere") = .error e ∧
      Clients.after (interrupted.take 2) = Clients.after (interrupted.take 1)) ∧
    ∃ data, DatasourceConfig.maxResults? data = .ok (some 7) ∧
      let elsewhere := (Recording.empty "mongodb://elsewhere").server
      let next : PluginRequest := ⟨.data [peopleQuery],
        some { passwordSettings "old" with jsonData := data }, elsewhere⟩
      let sent := elsewhere.run (passwordConfig "old").store ⟨"db1", 7⟩ "db.people.find()"
      ¬ Opens (interrupted.take 1) next ∧
      ((Clients.after (interrupted.take 1)).reply next).1 =
        .data [⟨peopleQuery.respond sent.value, sent.commands⟩] := by
  have last : last? "ds" interrupted =
      some (passwordConfig "old", ⟨(passwordConfig "old").store, 0⟩) := by rfl
  obtain ⟨opened, -, -⟩ :=
    clients_reused interrupted (healthRequest (passwordSettings "old") "mongodb://elsewhere")
  obtain ⟨opens, reused, -⟩ := opened (passwordSettings "old") (passwordConfig "old") rfl rfl
  have closed :
      ¬ Opens interrupted (healthRequest (passwordSettings "old") "mongodb://elsewhere") :=
    fun again => opens.1 again _ last rfl
  obtain ⟨_, of_last, obtained⟩ := reused closed
  obtain rfl := Option.some.inj (last.symm.trans of_last)
  obtain ⟨opened', -, -⟩ :=
    clients_reused interrupted (healthRequest (passwordSettings "new") "mongodb://h")
  obtain ⟨opens', -, -⟩ := opened' (passwordSettings "new") (passwordConfig "new") rfl rfl
  have changed : Opens interrupted (healthRequest (passwordSettings "new") "mongodb://h") := by
    refine opens'.2 fun other of_last => ?_
    obtain rfl := Option.some.inj (last.symm.trans of_last)
    decide
  have refused : outcome (interrupted.take 1)
      (healthRequest (passwordSettings "new") "mongodb://elsewhere") =
        .error (.connect (.badUrl "mongodb://h" "")) := by rfl
  obtain ⟨-, unchanged, -⟩ := clients_reused (interrupted.take 1)
    (healthRequest (passwordSettings "new") "mongodb://elsewhere")
  obtain ⟨-, -, capped⟩ := clients_reused [] (healthRequest (passwordSettings "old") "mongodb://h")
  obtain ⟨closed', -, answered⟩ := capped (passwordSettings "old") (passwordConfig "old") _ rfl rfl
    (.object [("maxResults", .integer 7)]) (some 7) rfl (.data [peopleQuery])
    (Recording.empty "mongodb://elsewhere").server
  exact ⟨closed, obtained, changed, by rfl, ⟨_, refused, (unchanged _ refused).1⟩,
    .object [("maxResults", .integer 7)], rfl, closed', answered [peopleQuery] rfl⟩

end PluginRequest

end DocTable
