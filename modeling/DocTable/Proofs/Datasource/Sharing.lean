import DocTable.Datasource.Requests
import DocTable.Proofs.Entries
import DocTable.Store.Recording

/-!
# Clients that requests share

Two requests for one data source can overtake each other between looking for a client and keeping
one. `Requests.Sound` is what holds meanwhile: a kept client was opened with the settings beside it,
and what a request has in hand was opened with its own. `Progress.step_makes` says what a step can
do, and all else here is read off it.
-/

namespace DocTable

/-! ## Kept clients -/

namespace Clients

structure Sound (c : Clients) : Prop where
  distinct : (Entries.names c.entries).Nodup
  opened : ∀ entry ∈ c.entries, entry.2.client.settings = entry.2.settings

variable {c : Clients} {uid : String} {settings : StoreSettings} {client : Client}

theorem sound_empty : empty.Sound where
  distinct := List.nodup_nil
  opened := nofun

theorem Sound.settings_of_lookup? (h : c.Sound) (found : c.lookup? uid settings = some client) :
    client.settings = settings := by
  obtain ⟨kept, filtered, rfl⟩ := Option.map_eq_some_iff.1 found
  obtain ⟨held, same⟩ := Option.filter_eq_some_iff.1 filtered
  obtain ⟨entry, at_uid, rfl⟩ := Option.map_eq_some_iff.1 held
  rw [h.opened entry (List.mem_of_find?_eq_some at_uid)]
  exact beq_iff_eq.1 same

theorem Sound.insert (h : c.Sound) (opened : client.settings = settings) :
    (c.insert uid settings client).Sound where
  distinct := Entries.nodup_put h.distinct uid _
  opened entry mem := by
    rcases Entries.mem_of_mem_put mem with rfl | old
    · exact opened
    · exact h.opened entry old

end Clients

theorem DatasourceConfig.ofSettings_some_iff {own : InstanceSettings} {config : DatasourceConfig} :
    ofSettings (some own) = .ok config ↔ own.url ≠ "" ∧ ∃ cap, maxResults? own.jsonData = .ok cap ∧
      config = ⟨own.uid,
        ⟨own.url, own.user, (Entries.get? own.secure "password").getD "", own.database⟩,
        cap.getD RunSettings.defaultMaxRows⟩ := by
  by_cases blank : own.url = ""
  · simp [ofSettings, blank]
  · cases cap : maxResults? own.jsonData with
    | error e => simp [ofSettings, blank, cap, Except.mapError, bind, Except.bind]
    | ok cap => simpa [ofSettings, blank, cap, Except.mapError, bind, Except.bind] using eq_comm

theorem DatasourceConfig.ofSettings_ok {settings : Option InstanceSettings}
    {config : DatasourceConfig} (h : ofSettings settings = .ok config) :
    ∃ own cap, settings = some own ∧ maxResults? own.jsonData = .ok cap ∧
      config.store =
        ⟨own.url, own.user, (Entries.get? own.secure "password").getD "", own.database⟩ ∧
      config.runSettings = ⟨own.database, cap.getD RunSettings.defaultMaxRows⟩ := by
  cases settings with
  | none => cases h
  | some own =>
    obtain ⟨-, cap, read, rfl⟩ := ofSettings_some_iff.1 h
    exact ⟨own, cap, rfl, read, rfl, rfl⟩

/-! ## One step -/

namespace Progress

inductive Makes (settings : Option InstanceSettings) (c : Clients) :
    Progress → Progress → Clients → Prop where
  | configure {config : DatasourceConfig}
      (read : DatasourceConfig.ofSettings settings = .ok config) :
    Makes settings c .arrived (.configured config) c
  | misread {e : ConfigError} (read : DatasourceConfig.ofSettings settings = .error e) :
    Makes settings c .arrived (.refused (.config e)) c
  | find {config : DatasourceConfig} {client : Client}
      (found : c.lookup? config.uid config.store = some client) :
    Makes settings c (.configured config) (.served config client) c
  | miss {config : DatasourceConfig} : Makes settings c (.configured config) (.missed config) c
  | connect {config : DatasourceConfig} :
    Makes settings c (.missed config) (.connected config ⟨config.store, c.opened⟩)
      { c with opened := c.opened + 1 }
  | fail {config : DatasourceConfig} (e : ConnectError) :
    Makes settings c (.missed config) (.refused (.connect e)) c
  | keep {config : DatasourceConfig} {client : Client} :
    Makes settings c (.connected config client) (.served config client)
      (c.insert config.uid config.store client)
  | rest {config : DatasourceConfig} {client : Client} :
    Makes settings c (.served config client) (.served config client) c
  | restRefused (e : ClientError) : Makes settings c (.refused e) (.refused e) c

variable {settings : Option InstanceSettings} {c c' : Clients} {p p' : Progress}

theorem step_makes (p : Progress) (server : Server) (settings : Option InstanceSettings)
    (c : Clients) :
    Makes settings c p (p.step server settings c).1 (p.step server settings c).2 := by
  cases p with
  | arrived =>
    cases read : DatasourceConfig.ofSettings settings with
    | error e => simpa [step, read] using Makes.misread read
    | ok config => simpa [step, read] using Makes.configure read
  | configured config =>
    cases found : c.lookup? config.uid config.store with
    | none => simpa [step, found] using Makes.miss
    | some client => simpa [step, found] using Makes.find found
  | missed config =>
    cases connected : server.connect config.store with
    | error e => simpa [step, Clients.connect, connected, bind, Except.bind] using Makes.fail e
    | ok u => simpa [step, Clients.connect, connected, bind, Except.bind] using Makes.connect
  | connected config client => exact .keep
  | served config client => exact .rest
  | refused e => exact .restRefused e

/-- Configuration and client of a request are those of its own settings. -/
def Owned (settings : Option InstanceSettings) : Progress → Prop
  | .configured config => DatasourceConfig.ofSettings settings = .ok config
  | .missed config => DatasourceConfig.ofSettings settings = .ok config
  | .connected config client =>
    DatasourceConfig.ofSettings settings = .ok config ∧ client.settings = config.store
  | .served config client =>
    DatasourceConfig.ofSettings settings = .ok config ∧ client.settings = config.store
  | .arrived => True
  | .refused _ => True

theorem Makes.owned (h : Makes settings c p p' c') (sound : c.Sound) (owned : p.Owned settings) :
    p'.Owned settings := by
  cases h with
  | configure read => exact read
  | misread => trivial
  | find found => exact ⟨owned, sound.settings_of_lookup? found⟩
  | miss => exact owned
  | connect => exact ⟨owned, rfl⟩
  | fail => trivial
  | keep => exact owned
  | rest => exact owned
  | restRefused => trivial

theorem Makes.sound (h : Makes settings c p p' c') (sound : c.Sound) (owned : p.Owned settings) :
    c'.Sound := by
  cases h with
  | connect => exact ⟨sound.distinct, sound.opened⟩
  | keep => exact sound.insert owned.2
  | _ => exact sound

def HasClient : Progress → Prop
  | .connected _ _ => True
  | .served _ _ => True
  | _ => False

theorem Makes.hasClient (h : Makes settings c p p' c') (has : p.HasClient) : p'.HasClient := by
  cases h with
  | keep => trivial
  | rest => trivial
  | _ => exact has.elim

theorem Makes.clients_eq (h : Makes settings c p p' c') (none : ¬ p'.HasClient) : c' = c := by
  cases h with
  | connect => exact absurd trivial none
  | keep => exact absurd trivial none
  | _ => rfl

theorem not_hasClient_of_refused {e : ClientError} : ¬ (refused e).HasClient := id

theorem Owned.not_hasClient {e : ConfigError} (owned : p.Owned settings)
    (invalid : DatasourceConfig.ofSettings settings = .error e) : ¬ p.HasClient := by
  intro has
  cases p with
  | connected config client => exact absurd (invalid.symm.trans owned.1) nofun
  | served config client => exact absurd (invalid.symm.trans owned.1) nofun
  | _ => exact has

/-! ## A request on its own -/

def result? : Progress → Option (Except ClientError (DatasourceConfig × Client))
  | .served config client => some (.ok (config, client))
  | .refused e => some (.error e)
  | _ => none

def steps (server : Server) (settings : Option InstanceSettings) :
    Nat → Progress × Clients → Progress × Clients
  | 0, s => s
  | n + 1, s => steps server settings n (s.1.step server settings s.2)

/-- A request that nobody comes in between is answered in four steps, as if they were one. -/
theorem result?_steps (server : Server) (settings : Option InstanceSettings) (c : Clients) :
    (steps server settings 4 (.arrived, c)).1.result? = some (c.obtain? server settings).1 ∧
      (steps server settings 4 (.arrived, c)).2 = (c.obtain? server settings).2 := by
  simp only [steps, Clients.obtain?]
  cases read : DatasourceConfig.ofSettings settings with
  | error e => simp [step, read, result?]
  | ok config =>
    cases found : c.lookup? config.uid config.store with
    | some client => simp [step, read, found, result?]
    | none =>
      cases connected : c.connect server config.store with
      | error e => simp [step, read, found, connected, result?]
      | ok opened => simp [step, read, found, connected, result?]

end Progress

/-! ## Every run -/

namespace Requests

variable {ι : Type} {settings : ι → Option InstanceSettings} {s : Requests ι}
  {before : List (Turn ι)} {turn : Turn ι} {i : ι}

structure Sound (settings : ι → Option InstanceSettings) (s : Requests ι) : Prop where
  clients : s.clients.Sound
  owned : ∀ i, (s.progress i).Owned (settings i)

theorem sound_start : (start : Requests ι).Sound settings where
  clients := Clients.sound_empty
  owned _ := trivial

variable [DecidableEq ι]

theorem step_makes (settings : ι → Option InstanceSettings) (s : Requests ι) (turn : Turn ι) :
    Progress.Makes (settings turn.request) s.clients (s.progress turn.request)
      ((step settings s turn).progress turn.request) (step settings s turn).clients := by
  simpa [step] using
    Progress.step_makes (s.progress turn.request) turn.server (settings turn.request) s.clients

theorem progress_step_ne (other : i ≠ turn.request) :
    (step settings s turn).progress i = s.progress i := by
  simp [step, other]

theorem Sound.step (h : s.Sound settings) (turn : Turn ι) :
    (step settings s turn).Sound settings where
  clients := (step_makes settings s turn).sound h.clients (h.owned turn.request)
  owned i := by
    by_cases same : i = turn.request
    · subst same
      exact (step_makes settings s turn).owned h.clients (h.owned turn.request)
    · rw [progress_step_ne same]
      exact h.owned i

theorem sound_foldl (h : s.Sound settings) (turns : List (Turn ι)) :
    (turns.foldl (Requests.step settings) s).Sound settings := by
  induction turns generalizing s with
  | nil => exact h
  | cons turn turns ih => exact ih (h.step turn)

theorem sound_run (settings : ι → Option InstanceSettings) (turns : List (Turn ι)) :
    (run settings turns).Sound settings :=
  sound_foldl sound_start turns

theorem hasClient_foldl (has : (s.progress i).HasClient) (turns : List (Turn ι)) :
    ((turns.foldl (Requests.step settings) s).progress i).HasClient := by
  induction turns generalizing s with
  | nil => exact has
  | cons turn turns ih =>
    apply ih
    by_cases same : i = turn.request
    · subst same
      exact (step_makes settings s turn).hasClient has
    · rwa [progress_step_ne same]

theorem clients_run_concat {after : List (Turn ι)}
    (none : ¬ ((run settings (before ++ turn :: after)).progress turn.request).HasClient) :
    (run settings (before ++ [turn])).clients = (run settings before).clients := by
  simp only [run, List.foldl_append, List.foldl_cons, List.foldl_nil] at none ⊢
  apply (step_makes settings _ turn).clients_eq
  intro has
  exact none (hasClient_foldl has after)

/-- However requests get into each other's way, one that is served has a client that was opened with
just its own url, user, password and database, and has its own row cap. There is at most one client
for each data source, and it was opened with the settings that it is kept beside. A request whose
settings are invalid, or which is refused in the end, changes nothing of the clients at any of its
turns. -/
theorem no_foreign_client (settings : ι → Option InstanceSettings) (turns : List (Turn ι)) :
    (∀ i config client, (run settings turns).progress i = .served config client →
      ∃ own cap, settings i = some own ∧
        DatasourceConfig.maxResults? own.jsonData = .ok cap ∧
        client.settings =
          ⟨own.url, own.user, (Entries.get? own.secure "password").getD "", own.database⟩ ∧
        config.runSettings = ⟨own.database, cap.getD RunSettings.defaultMaxRows⟩) ∧
    (Entries.names (run settings turns).clients.entries).Nodup ∧
    (∀ entry ∈ (run settings turns).clients.entries,
      entry.2.client.settings = entry.2.settings) ∧
    (∀ i, ((∃ e, DatasourceConfig.ofSettings (settings i) = .error e) ∨
        ∃ e, (run settings turns).progress i = .refused e) →
      ∀ before server after, turns = before ++ ⟨i, server⟩ :: after →
        (run settings (before ++ [⟨i, server⟩])).clients = (run settings before).clients) := by
  have sound := sound_run settings turns
  refine ⟨?served, sound.clients.distinct, sound.clients.opened, ?refused⟩
  case served =>
    intro i config client served
    have owned := sound.owned i
    rw [served] at owned
    obtain ⟨own, cap, given, read, store, limits⟩ := DatasourceConfig.ofSettings_ok owned.1
    exact ⟨own, cap, given, read, owned.2.trans store, limits⟩
  case refused =>
    rintro i failed before server after rfl
    have none : ¬ ((run settings (before ++ ⟨i, server⟩ :: after)).progress i).HasClient := by
      rcases failed with ⟨e, invalid⟩ | ⟨e, refused⟩
      · exact (sound.owned i).not_hasClient invalid
      · rw [refused]
        exact Progress.not_hasClient_of_refused
    exact clients_run_concat none

/-- Two requests for one data source, whose password is changed between them, a third one with the
new password, and one without a url. -/
def rotated : Nat → Option InstanceSettings
  | 0 => some ⟨"ds", "mongodb://h", "reader", "db1", .null, [("password", "old")]⟩
  | 3 => some ⟨"ds", "", "reader", "db1", .null, []⟩
  | _ => some ⟨"ds", "mongodb://h", "reader", "db1", .null, [("password", "new")]⟩

/-- The first request keeps its client after the second one has kept its own, and before the third
one looks. -/
def overtaking : List (Turn Nat) :=
  [0, 0, 1, 1, 1, 0, 1, 3, 0, 2, 2, 2, 2].map (⟨·, (Recording.empty "mongodb://h").server⟩)

theorem no_foreign_client_overtaking :
    (∃ client : Client, (run rotated overtaking).progress 2 =
        .served ⟨"ds", ⟨"mongodb://h", "reader", "new", "db1"⟩, 1000⟩ client ∧
      client.settings.password = "new" ∧ client.serial = 2) ∧
    (∃ e, DatasourceConfig.ofSettings (rotated 3) = .error e) ∧
    (run rotated (overtaking.take 8)).clients = (run rotated (overtaking.take 7)).clients := by
  obtain ⟨served, -, -, refused⟩ := no_foreign_client rotated overtaking
  have invalid : ∃ e, DatasourceConfig.ofSettings (rotated 3) = .error e := ⟨.emptyUrl, rfl⟩
  have third : (run rotated overtaking).progress 2 =
      .served ⟨"ds", ⟨"mongodb://h", "reader", "new", "db1"⟩, 1000⟩
        ⟨⟨"mongodb://h", "reader", "new", "db1"⟩, 2⟩ := by rfl
  obtain ⟨own, cap, given, -, opened, -⟩ := served 2 _ _ third
  obtain rfl := Option.some.inj given
  refine ⟨⟨_, third, congrArg StoreSettings.password opened, rfl⟩, invalid, ?_⟩
  exact refused 3 (.inl invalid) (overtaking.take 7) _ (overtaking.drop 8) rfl

end Requests

end DocTable
