import DocTable.Datasource.Settings
import DocTable.Store.Session

/-!
The clients of a plugin: at most one for each data source, kept beside the settings of the request
that opened it. A request uses the client of its data source when the settings beside it are the
request's own, and otherwise opens a new one, which takes the old one's place when it could be
opened.
-/

namespace DocTable

/-- An open client: the settings it was opened with, and a number that no other client has. -/
structure Client where
  settings : StoreSettings
  serial : Nat
  deriving DecidableEq, Repr

/-- A client as it is kept, with the settings that requests compare with their own. -/
structure KeptClient where
  settings : StoreSettings
  client : Client
  deriving DecidableEq, Repr

/-- The clients by data source, and the number of clients opened so far. -/
structure Clients where
  entries : List (String × KeptClient)
  opened : Nat
  deriving DecidableEq, Repr

inductive ClientError where
  | config (e : ConfigError)
  | connect (e : ConnectError)

def ClientError.message : ClientError → String
  | config e => e.message
  | connect e => e.message

namespace Clients

def empty : Clients := ⟨[], 0⟩

def lookup? (c : Clients) (uid : String) (settings : StoreSettings) : Option Client :=
  ((Entries.get? c.entries uid).filter (·.settings == settings)).map (·.client)

/-- Opens a client. It is not kept yet. -/
def connect (c : Clients) (server : Server) (settings : StoreSettings) :
    Except ConnectError (Client × Clients) := do
  server.connect settings
  .ok (⟨settings, c.opened⟩, { c with opened := c.opened + 1 })

def insert (c : Clients) (uid : String) (settings : StoreSettings) (client : Client) : Clients :=
  { c with entries := Entries.put c.entries uid ⟨settings, client⟩ }

def obtain? (c : Clients) (server : Server) (settings : Option InstanceSettings) :
    Except ClientError (DatasourceConfig × Client) × Clients :=
  match DatasourceConfig.ofSettings settings with
  | .error e => (.error (.config e), c)
  | .ok config =>
    match c.lookup? config.uid config.store with
    | some client => (.ok (config, client), c)
    | none =>
      match c.connect server config.store with
      | .error e => (.error (.connect e), c)
      | .ok (client, c) => (.ok (config, client), c.insert config.uid config.store client)

end Clients

end DocTable
