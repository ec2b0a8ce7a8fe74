import DocTable.Datasource.Clients

/-!
Requests that share the clients of a plugin. Whether for data or for health, a request obtains its
client in the same way: it reads its settings, looks for a client, opens one if it finds none, and
keeps the one that it opened. Looking and keeping lock the clients, each for itself, so that between
any two steps of a request the others go on.
-/

namespace DocTable

inductive Progress where
  | arrived
  | configured (config : DatasourceConfig)
  | missed (config : DatasourceConfig)
  | connected (config : DatasourceConfig) (client : Client)
  | served (config : DatasourceConfig) (client : Client)
  | refused (e : ClientError)

def Progress.step (p : Progress) (server : Server) (settings : Option InstanceSettings)
    (c : Clients) : Progress × Clients :=
  match p with
  | .arrived =>
    match DatasourceConfig.ofSettings settings with
    | .error e => (.refused (.config e), c)
    | .ok config => (.configured config, c)
  | .configured config =>
    match c.lookup? config.uid config.store with
    | some client => (.served config client, c)
    | none => (.missed config, c)
  | .missed config =>
    match c.connect server config.store with
    | .error e => (.refused (.connect e), c)
    | .ok (client, c) => (.connected config client, c)
  | .connected config client => (.served config client, c.insert config.uid config.store client)
  | .served config client => (.served config client, c)
  | .refused e => (.refused e, c)

structure Requests (ι : Type) where
  clients : Clients
  progress : ι → Progress

/-- The request that makes its next step, and the store as it would find it. -/
structure Turn (ι : Type) where
  request : ι
  server : Server

namespace Requests

variable {ι : Type}

def start : Requests ι := ⟨.empty, fun _ => .arrived⟩

variable [DecidableEq ι]

def step (settings : ι → Option InstanceSettings) (s : Requests ι) (turn : Turn ι) : Requests ι :=
  let (progress, clients) :=
    (s.progress turn.request).step turn.server (settings turn.request) s.clients
  ⟨clients, fun i => if i = turn.request then progress else s.progress i⟩

def run (settings : ι → Option InstanceSettings) (turns : List (Turn ι)) : Requests ι :=
  turns.foldl (step settings) start

end Requests

end DocTable
